import Mathlib.Logic.Function.Basic
import TildaMk4.Lib.Transition

/-!
# Handing the flash over between Python and the USB host

The hand-over functions of `storage.c`, one step for each statement. Semaphores
and mutexes are numbered objects: `storage_init` creates new ones and moves the
handles, while a thread that waits keeps waiting on the object it evaluated.
-/

namespace TildaMk4.Usb

open Transition

/-- What the callers have seen; the code does not keep it. -/
structure Seen where
  /-- `disable_usb` has returned true and no `enable_usb` has begun since. -/
  handedBack : Bool
  /-- `storage_open_usb` has returned 1 and no `storage_close_usb` has begun since. -/
  hostOpen : Bool

/-- The static variables of the hand-over, and the objects behind the handles. -/
structure Globals where
  storageIsInitialised : Bool
  usbEnabled : Bool
  usbInUse : Bool
  semUSBUnmountWait : Nat
  mutexUSBStorageEnable : Nat
  /-- Which semaphore objects hold their token. -/
  token : Nat → Bool
  /-- Which mutex objects are locked. -/
  locked : Nat → Bool
  seen : Seen

/-- The statements of `storage_init`. -/
inductive InitPc
  | createSem
  | createMutex
  | testInitialised

inductive PythonPc
  | idle
  | enableLock
  | enableWait (mutex : Nat)
  | enableSet
  | enableUnlock
  | disablePend
  | disablePendWait (sem : Nat)
  | disableLock
  | disableWait (mutex : Nat)
  | disableTest
  | disableClear
  | disableUnlock
  | disableReturn
  | init (pc : InitPc)

/-- A call of `storage_open_usb`: whether `SCMSC_open` made it, which goes on with
`storage_init`, and whether it began while the flash was handed back. -/
structure OpenCall where
  scmsc : Bool
  early : Bool

inductive DaemonPc
  | idle
  | openLock (call : OpenCall)
  | openWait (call : OpenCall) (mutex : Nat)
  | openTest (call : OpenCall)
  | openSet (call : OpenCall)
  | openUnlock (call : OpenCall) (set : Bool)
  | openReturn (call : OpenCall) (set : Bool)
  | init (pc : InitPc)
  | closeLock
  | closeWait (mutex : Nat)
  | closeClear
  | closeUnlock
  | closePost

structure Handover where
  globals : Globals
  python : PythonPc
  daemon : DaemonPc

/-- The calls that each thread may make, and its next statement. -/
inductive HandoverAct
  | enableUsb
  | disableUsb
  | storageInit
  | openUsb (scmsc : Bool)
  | closeUsb
  | python
  | daemon

/-- The returns that carry a result; `set` says that the call has set `usb_in_use`. -/
inductive HandoverEvent
  | opened (call : OpenCall) (set result : Bool)
  | disabled (result : Bool)

namespace Globals

def createSem (g : Globals) : Globals :=
  { g with
    semUSBUnmountWait := g.semUSBUnmountWait + 1
    token := Function.update g.token (g.semUSBUnmountWait + 1) false }

def createMutex (g : Globals) : Globals :=
  { g with
    mutexUSBStorageEnable := g.mutexUSBStorageEnable + 1
    locked := Function.update g.locked (g.mutexUSBStorageEnable + 1) false }

def setToken (g : Globals) (sem : Nat) (token : Bool) : Globals :=
  { g with token := Function.update g.token sem token }

def setLocked (g : Globals) (mutex : Nat) (locked : Bool) : Globals :=
  { g with locked := Function.update g.locked mutex locked }

@[simp] theorem setToken_self (g : Globals) (sem : Nat) (token : Bool) :
    (g.setToken sem token).token sem = token := Function.update_self _ _ _

@[simp] theorem setLocked_self (g : Globals) (mutex : Nat) (locked : Bool) :
    (g.setLocked mutex locked).locked mutex = locked := Function.update_self _ _ _

end Globals

variable {g g' : Globals}

/-- A statement of `storage_init`, with what follows it. -/
def initStep (g : Globals) : InitPc → Globals × Option InitPc
  | .createSem => (g.createSem, some .createMutex)
  | .createMutex => (g.createMutex, some .testInitialised)
  | .testInitialised => ({ g with storageIsInitialised := true }, none)

def pythonStep (g : Globals) : PythonPc → Option (Globals × PythonPc × Option HandoverEvent)
  | .idle => none
  | .enableLock => some (g, .enableWait g.mutexUSBStorageEnable, none)
  | .enableWait mutex =>
    if g.locked mutex then none else some (g.setLocked mutex true, .enableSet, none)
  | .enableSet => some ({ g with usbEnabled := true }, .enableUnlock, none)
  | .enableUnlock => some (g.setLocked g.mutexUSBStorageEnable false, .idle, none)
  | .disablePend => some (g, .disablePendWait g.semUSBUnmountWait, none)
  | .disablePendWait sem =>
    if g.token sem then some (g.setToken sem false, .disableLock, none) else none
  | .disableLock => some (g, .disableWait g.mutexUSBStorageEnable, none)
  | .disableWait mutex =>
    if g.locked mutex then none else some (g.setLocked mutex true, .disableTest, none)
  | .disableTest => some (g, if g.usbInUse then .disableUnlock else .disableClear, none)
  | .disableClear => some ({ g with usbEnabled := false }, .disableUnlock, none)
  | .disableUnlock => some (g.setLocked g.mutexUSBStorageEnable false, .disableReturn, none)
  | .disableReturn =>
    some ({ g with seen.handedBack := g.seen.handedBack || !g.usbEnabled }, .idle,
      some (.disabled (!g.usbEnabled)))
  | .init pc => some ((initStep g pc).1, ((initStep g pc).2.map .init).getD .idle, none)

def daemonStep (g : Globals) : DaemonPc → Option (Globals × DaemonPc × Option HandoverEvent)
  | .idle => none
  | .openLock call => some (g, .openWait call g.mutexUSBStorageEnable, none)
  | .openWait call mutex =>
    if g.locked mutex then none else some (g.setLocked mutex true, .openTest call, none)
  | .openTest call => some (g, if g.usbEnabled then .openSet call else .openUnlock call false, none)
  | .openSet call => some ({ g with usbInUse := true }, .openUnlock call true, none)
  | .openUnlock call set =>
    some (g.setLocked g.mutexUSBStorageEnable false, .openReturn call set, none)
  | .openReturn call set =>
    some ({ g with seen.hostOpen := g.seen.hostOpen || g.usbEnabled },
      if g.usbEnabled && call.scmsc then .init .createSem else .idle,
      some (.opened call set g.usbEnabled))
  | .init pc => some ((initStep g pc).1, ((initStep g pc).2.map .init).getD .idle, none)
  | .closeLock => some (g, .closeWait g.mutexUSBStorageEnable, none)
  | .closeWait mutex =>
    if g.locked mutex then none else some (g.setLocked mutex true, .closeClear, none)
  | .closeClear => some ({ g with usbInUse := false }, .closeUnlock, none)
  | .closeUnlock => some (g.setLocked g.mutexUSBStorageEnable false, .closePost, none)
  | .closePost => some (g.setToken g.semUSBUnmountWait true, .idle, none)

/-- A call of the Python thread, which is at `pc`. -/
def pythonCall (g : Globals) (pc : PythonPc) : HandoverAct → Option (Globals × PythonPc)
  | .enableUsb =>
    match pc with
    | .idle => some ({ g with seen.handedBack := false }, .enableLock)
    | _ => none
  | .disableUsb =>
    match pc with
    | .idle => some (g, .disablePend)
    | _ => none
  | .storageInit =>
    match pc with
    | .idle => some (g, .init .createSem)
    | _ => none
  | _ => none

/-- A call of the USB daemon, which is at `pc`. -/
def daemonCall (g : Globals) (pc : DaemonPc) : HandoverAct → Option (Globals × DaemonPc)
  | .openUsb scmsc =>
    match pc with
    | .idle => some (g, .openLock ⟨scmsc, g.seen.handedBack⟩)
    | _ => none
  | .closeUsb =>
    match pc with
    | .idle => some ({ g with seen.hostOpen := false }, .closeLock)
    | _ => none
  | _ => none

namespace Handover

def step (s : Handover) : HandoverAct → Option (Handover × Option HandoverEvent)
  | .python =>
    (pythonStep s.globals s.python).map fun (g, pc, event) =>
      ({ s with globals := g, python := pc }, event)
  | .daemon =>
    (daemonStep s.globals s.daemon).map fun (g, pc, event) =>
      ({ s with globals := g, daemon := pc }, event)
  | act =>
    match pythonCall s.globals s.python act, daemonCall s.globals s.daemon act with
    | some (g, pc), _ => some ({ s with globals := g, python := pc }, none)
    | none, some (g, pc) => some ({ s with globals := g, daemon := pc }, none)
    | none, none => none

def system : System Handover HandoverAct HandoverEvent := ⟨step⟩

/-- After the `storage_init` of the start-up. -/
def init : Handover where
  globals :=
    { storageIsInitialised := true
      usbEnabled := false
      usbInUse := false
      semUSBUnmountWait := 0
      mutexUSBStorageEnable := 0
      token := fun _ => false
      locked := fun _ => false
      seen := ⟨false, false⟩ }
  python := .idle
  daemon := .idle

end Handover

/-- `pythonStep` as a relation. -/
inductive PythonStep (g : Globals) : PythonPc → Globals → PythonPc → Option HandoverEvent → Prop
  | enableLock : PythonStep g .enableLock g (.enableWait g.mutexUSBStorageEnable) none
  | enableWait {mutex : Nat} : g.locked mutex = false →
    PythonStep g (.enableWait mutex) (g.setLocked mutex true) .enableSet none
  | enableSet : PythonStep g .enableSet { g with usbEnabled := true } .enableUnlock none
  | enableUnlock :
    PythonStep g .enableUnlock (g.setLocked g.mutexUSBStorageEnable false) .idle none
  | disablePend : PythonStep g .disablePend g (.disablePendWait g.semUSBUnmountWait) none
  | disablePendWait {sem : Nat} : g.token sem = true →
    PythonStep g (.disablePendWait sem) (g.setToken sem false) .disableLock none
  | disableLock : PythonStep g .disableLock g (.disableWait g.mutexUSBStorageEnable) none
  | disableWait {mutex : Nat} : g.locked mutex = false →
    PythonStep g (.disableWait mutex) (g.setLocked mutex true) .disableTest none
  | inUse : g.usbInUse = true → PythonStep g .disableTest g .disableUnlock none
  | notInUse : g.usbInUse = false → PythonStep g .disableTest g .disableClear none
  | disableClear : PythonStep g .disableClear { g with usbEnabled := false } .disableUnlock none
  | disableUnlock :
    PythonStep g .disableUnlock (g.setLocked g.mutexUSBStorageEnable false) .disableReturn none
  | disableReturn :
    PythonStep g .disableReturn { g with seen.handedBack := g.seen.handedBack || !g.usbEnabled }
      .idle (some (.disabled (!g.usbEnabled)))
  | init {pc : InitPc} :
    PythonStep g (.init pc) (initStep g pc).1 (((initStep g pc).2.map .init).getD .idle) none

/-- `daemonStep` as a relation. -/
inductive DaemonStep (g : Globals) : DaemonPc → Globals → DaemonPc → Option HandoverEvent → Prop
  | openLock {call : OpenCall} :
    DaemonStep g (.openLock call) g (.openWait call g.mutexUSBStorageEnable) none
  | openWait {call : OpenCall} {mutex : Nat} : g.locked mutex = false →
    DaemonStep g (.openWait call mutex) (g.setLocked mutex true) (.openTest call) none
  | enabled {call : OpenCall} : g.usbEnabled = true →
    DaemonStep g (.openTest call) g (.openSet call) none
  | notEnabled {call : OpenCall} : g.usbEnabled = false →
    DaemonStep g (.openTest call) g (.openUnlock call false) none
  | openSet {call : OpenCall} :
    DaemonStep g (.openSet call) { g with usbInUse := true } (.openUnlock call true) none
  | openUnlock {call : OpenCall} {set : Bool} :
    DaemonStep g (.openUnlock call set) (g.setLocked g.mutexUSBStorageEnable false)
      (.openReturn call set) none
  | openReturn {call : OpenCall} {set : Bool} :
    DaemonStep g (.openReturn call set)
      { g with seen.hostOpen := g.seen.hostOpen || g.usbEnabled }
      (if g.usbEnabled && call.scmsc then .init .createSem else .idle)
      (some (.opened call set g.usbEnabled))
  | init {pc : InitPc} :
    DaemonStep g (.init pc) (initStep g pc).1 (((initStep g pc).2.map .init).getD .idle) none
  | closeLock : DaemonStep g .closeLock g (.closeWait g.mutexUSBStorageEnable) none
  | closeWait {mutex : Nat} : g.locked mutex = false →
    DaemonStep g (.closeWait mutex) (g.setLocked mutex true) .closeClear none
  | closeClear : DaemonStep g .closeClear { g with usbInUse := false } .closeUnlock none
  | closeUnlock :
    DaemonStep g .closeUnlock (g.setLocked g.mutexUSBStorageEnable false) .closePost none
  | closePost : DaemonStep g .closePost (g.setToken g.semUSBUnmountWait true) .idle none

theorem pythonStep_cases {pc pc' : PythonPc} {event : Option HandoverEvent}
    (stepped : pythonStep g pc = some (g', pc', event)) : PythonStep g pc g' pc' event := by
  cases pc <;> simp only [pythonStep] at stepped
  case idle => cases stepped
  case enableWait mutex | disableWait mutex =>
    split at stepped
    next => cases stepped
    next free =>
      cases stepped
      constructor
      exact eq_false_of_ne_true free
  case disablePendWait sem =>
    split at stepped
    next token =>
      cases stepped
      exact .disablePendWait token
    next => cases stepped
  case disableTest =>
    cases stepped
    split
    next inUse => exact .inUse inUse
    next notInUse => exact .notInUse (eq_false_of_ne_true notInUse)
  all_goals
    cases stepped
    constructor

theorem daemonStep_cases {pc pc' : DaemonPc} {event : Option HandoverEvent}
    (stepped : daemonStep g pc = some (g', pc', event)) : DaemonStep g pc g' pc' event := by
  cases pc <;> simp only [daemonStep] at stepped
  case idle => cases stepped
  case openWait mutex | closeWait mutex =>
    split at stepped
    next => cases stepped
    next free =>
      cases stepped
      constructor
      exact eq_false_of_ne_true free
  case openTest call =>
    cases stepped
    split
    next enabled => exact .enabled enabled
    next notEnabled => exact .notEnabled (eq_false_of_ne_true notEnabled)
  all_goals
    cases stepped
    constructor

/-- The steps of the two threads together. -/
inductive HandoverStep (s : Handover) :
    HandoverAct → Handover → Option HandoverEvent → Prop
  | enableUsb : s.python = .idle → HandoverStep s .enableUsb
    { s with globals.seen.handedBack := false, python := .enableLock } none
  | disableUsb : s.python = .idle →
    HandoverStep s .disableUsb { s with python := .disablePend } none
  | storageInit : s.python = .idle →
    HandoverStep s .storageInit { s with python := .init .createSem } none
  | openUsb {scmsc : Bool} : s.daemon = .idle → HandoverStep s (.openUsb scmsc)
    { s with daemon := .openLock ⟨scmsc, s.globals.seen.handedBack⟩ } none
  | closeUsb : s.daemon = .idle → HandoverStep s .closeUsb
    { s with globals.seen.hostOpen := false, daemon := .closeLock } none
  | python {g : Globals} {pc : PythonPc} {event : Option HandoverEvent} :
    PythonStep s.globals s.python g pc event →
    HandoverStep s .python { s with globals := g, python := pc } event
  | daemon {g : Globals} {pc : DaemonPc} {event : Option HandoverEvent} :
    DaemonStep s.globals s.daemon g pc event →
    HandoverStep s .daemon { s with globals := g, daemon := pc } event

theorem Handover.step_cases {s s' : Handover} {act : HandoverAct} {event : Option HandoverEvent}
    (stepped : system.step s act = some (s', event)) : HandoverStep s act s' event := by
  change s.step act = _ at stepped
  cases act <;> simp only [Handover.step, pythonCall, daemonCall] at stepped
  case python =>
    obtain ⟨⟨g, pc, emitted⟩, moved, same⟩ := Option.map_eq_some_iff.mp stepped
    cases same
    exact .python (pythonStep_cases moved)
  case daemon =>
    obtain ⟨⟨g, pc, emitted⟩, moved, same⟩ := Option.map_eq_some_iff.mp stepped
    cases same
    exact .daemon (daemonStep_cases moved)
  case enableUsb =>
    cases here : s.python <;> simp only [here] at stepped <;> cases stepped
    exact .enableUsb here
  case disableUsb =>
    cases here : s.python <;> simp only [here] at stepped <;> cases stepped
    exact .disableUsb here
  case storageInit =>
    cases here : s.python <;> simp only [here] at stepped <;> cases stepped
    exact .storageInit here
  case openUsb =>
    cases here : s.daemon <;> simp only [here] at stepped <;> cases stepped
    exact .openUsb here
  case closeUsb =>
    cases here : s.daemon <;> simp only [here] at stepped <;> cases stepped
    exact .closeUsb here

end TildaMk4.Usb
