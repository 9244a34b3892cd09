import TildaMk4.Usb.Handover

/-!
# The hand-over is exclusive

`storage_open_usb` and `disable_usb` decide inside the mutex and read
`usb_enabled` again behind it. The second reading tells what was decided in every
run in which `enable_usb` does not set the flag under an open that has already
found it clear, or that began while the flash was handed back (`EnablesAlone`).
-/

namespace TildaMk4.Usb

open Transition

/-- The thread holds the mutex. -/
def PythonPc.inside : PythonPc → Bool
  | .enableSet | .enableUnlock | .disableTest | .disableClear | .disableUnlock => true
  | _ => false

def DaemonPc.inside : DaemonPc → Bool
  | .openTest _ | .openSet _ | .openUnlock _ _ | .closeClear | .closeUnlock => true
  | _ => false

def PythonPc.atEnableSet : PythonPc → Bool
  | .enableSet => true
  | _ => false

/-- The daemon is in an open that `enable_usb` would overtake. -/
def DaemonPc.overtaken : DaemonPc → Bool
  | .openLock call | .openWait call _ | .openTest call => call.early
  | .openUnlock _ set | .openReturn _ set => !set
  | _ => false

/-- The calls without `storage_init`: those of the hand-over itself. -/
def HandoverCalls (_ : Handover) : HandoverAct → Prop
  | .storageInit => False
  | .openUsb scmsc => scmsc = false
  | _ => True

/-- `enable_usb` does not overtake an open. -/
def EnablesAlone (s : Handover) : HandoverAct → Prop
  | .python => s.python.atEnableSet = true → s.daemon.overtaken = false
  | _ => True

def HandsOverAlone (s : Handover) (act : HandoverAct) : Prop :=
  HandoverCalls s act ∧ EnablesAlone s act

instance (s : Handover) (act : HandoverAct) : Decidable (HandoverCalls s act) :=
  match act with
  | .storageInit => isFalse id
  | .openUsb _ => inferInstanceAs (Decidable (_ = _))
  | .enableUsb | .disableUsb | .closeUsb | .python | .daemon => isTrue trivial

instance (s : Handover) (act : HandoverAct) : Decidable (EnablesAlone s act) :=
  match act with
  | .python => inferInstanceAs (Decidable (_ → _))
  | .enableUsb | .disableUsb | .storageInit | .openUsb _ | .closeUsb | .daemon => isTrue trivial

instance (s : Handover) (act : HandoverAct) : Decidable (HandsOverAlone s act) :=
  inferInstanceAs (Decidable (_ ∧ _))

deriving instance DecidableEq for OpenCall, HandoverEvent

/-- An open succeeds only if it has set `usb_in_use`, and not if it began while
the flash was handed back. -/
def OpensExclusive (_ : List HandoverEvent) : HandoverEvent → Prop
  | .opened call set result => (result = true → set = true) ∧ (call.early = true → result = false)
  | .disabled _ => True

/-- While the flash is handed back the host has no part in it. -/
def HandedBackAlone (s : Handover) : Prop :=
  s.globals.seen.handedBack = true →
    s.globals.usbInUse = false ∧ s.globals.seen.hostOpen = false

def PythonExclusive (g : Globals) : PythonPc → Prop
  | .enableLock | .enableSet | .enableUnlock => g.seen.handedBack = false
  | .enableWait mutex => mutex = 0 ∧ g.seen.handedBack = false
  | .disableWait mutex => mutex = 0
  | .disableClear => g.usbInUse = false
  | .init _ => False
  | _ => True

def DaemonExclusive (g : Globals) : DaemonPc → Prop
  | .openLock call | .openTest call =>
    call.scmsc = false ∧ (call.early = true → g.usbEnabled = false)
  | .openWait call mutex =>
    mutex = 0 ∧ call.scmsc = false ∧ (call.early = true → g.usbEnabled = false)
  | .openSet call => call.scmsc = false ∧ call.early = false ∧ g.usbEnabled = true
  | .openUnlock call set | .openReturn call set =>
    call.scmsc = false ∧
      if set = true then call.early = false ∧ g.usbInUse = true else g.usbEnabled = false
  | .closeLock | .closeClear => g.seen.hostOpen = false
  | .closeWait mutex => mutex = 0 ∧ g.seen.hostOpen = false
  | .init _ => False
  | _ => True

structure Exclusive (g : Globals) (python : PythonPc) (daemon : DaemonPc) : Prop where
  mutex : g.mutexUSBStorageEnable = 0
  locked : g.locked 0 = (python.inside || daemon.inside)
  apart : python.inside = true → daemon.inside = false
  inUse : g.usbInUse = true → g.usbEnabled = true
  handedBack : g.seen.handedBack = true → g.usbEnabled = false
  hostOpen : g.seen.hostOpen = true → g.usbInUse = true
  atPython : PythonExclusive g python
  atDaemon : DaemonExclusive g daemon

variable {g g' : Globals} {s s' : Handover} {act : HandoverAct} {event : Option HandoverEvent}
  {history : List HandoverEvent} {python python' : PythonPc} {daemon daemon' : DaemonPc}

theorem exclusive_init : Exclusive Handover.init.globals .idle .idle where
  mutex := rfl
  locked := rfl
  apart inside := nomatch inside
  inUse inUse := nomatch inUse
  handedBack handedBack := nomatch handedBack
  hostOpen hostOpen := nomatch hostOpen
  atPython := trivial
  atDaemon := trivial

theorem Exclusive.outside (inv : Exclusive g python daemon) (free : g.locked 0 = false) :
    python.inside = false ∧ daemon.inside = false :=
  Bool.or_eq_false_iff.mp (inv.locked.symm.trans free)

theorem Exclusive.pythonLock (inv : Exclusive g python daemon) (free : g.locked 0 = false)
    (inside : python'.inside = true) (atPython : PythonExclusive g python') :
    Exclusive (g.setLocked 0 true) python' daemon :=
  { inv with
    locked := by rw [inside]; exact g.setLocked_self _ _
    apart := fun _ => (inv.outside free).2
    atPython := by cases python' <;> exact atPython
    atDaemon := by cases daemon <;> exact inv.atDaemon }

theorem Exclusive.pythonUnlock (inv : Exclusive g python daemon) (inside : python.inside = true)
    (outside : python'.inside = false) (atPython : PythonExclusive g python') :
    Exclusive (g.setLocked g.mutexUSBStorageEnable false) python' daemon := by
  rw [inv.mutex]
  exact { inv with
    locked := by
      rw [outside, inv.apart inside]
      exact g.setLocked_self _ _
    apart := fun entered => absurd (outside.symm.trans entered) nofun
    atPython := by cases python' <;> exact atPython
    atDaemon := by cases daemon <;> exact inv.atDaemon }

theorem Exclusive.daemonLock (inv : Exclusive g python daemon) (free : g.locked 0 = false)
    (inside : daemon'.inside = true) (atDaemon : DaemonExclusive g daemon') :
    Exclusive (g.setLocked 0 true) python daemon' :=
  { inv with
    locked := by
      rw [inside, Bool.or_true]
      exact g.setLocked_self _ _
    apart := fun entered => absurd ((inv.outside free).1.symm.trans entered) nofun
    atPython := by cases python <;> exact inv.atPython
    atDaemon := by cases daemon' <;> exact atDaemon }

theorem Exclusive.daemonUnlock (inv : Exclusive g python daemon) (inside : daemon.inside = true)
    (outside : daemon'.inside = false) (atDaemon : DaemonExclusive g daemon') :
    Exclusive (g.setLocked g.mutexUSBStorageEnable false) python daemon' := by
  have other : python.inside = false := by
    by_contra entered
    have out := inv.apart (eq_true_of_ne_false entered)
    exact absurd (out.symm.trans inside) nofun
  rw [inv.mutex]
  exact { inv with
    locked := by
      rw [outside, other]
      exact g.setLocked_self _ _
    apart := fun entered => absurd (other.symm.trans entered) nofun
    atPython := by cases python <;> exact inv.atPython
    atDaemon := by cases daemon' <;> exact atDaemon }

/-- `usb_enabled = true`: nobody has an older answer in hand. -/
theorem Exclusive.enableSet (inv : Exclusive g .enableSet daemon)
    (alone : daemon.overtaken = false) :
    Exclusive { g with usbEnabled := true } .enableUnlock daemon := by
  have notBack : g.seen.handedBack = false := inv.atPython
  refine { inv with inUse := fun _ => rfl, handedBack := ?_, atDaemon := ?_ }
  · intro back
    exact absurd (notBack.symm.trans back) nofun
  · have atDaemon := inv.atDaemon
    cases daemon with
    | openLock call | openTest call =>
      exact ⟨atDaemon.1, fun early => absurd (alone.symm.trans early) nofun⟩
    | openWait call mutex =>
      exact ⟨atDaemon.1, atDaemon.2.1, fun early => absurd (alone.symm.trans early) nofun⟩
    | openSet call => exact ⟨atDaemon.1, atDaemon.2.1, rfl⟩
    | openUnlock call set | openReturn call set =>
      cases set with
      | false => cases alone
      | true => exact atDaemon
    | idle | init | closeLock | closeWait | closeClear | closeUnlock | closePost => exact atDaemon

/-- `usb_enabled = false`, with `usb_in_use` still as it was tested. -/
theorem Exclusive.disableClear (inv : Exclusive g .disableClear daemon) :
    Exclusive { g with usbEnabled := false } .disableUnlock daemon := by
  have notInUse : g.usbInUse = false := inv.atPython
  refine { inv with inUse := ?_, handedBack := fun _ => rfl, atPython := trivial, atDaemon := ?_ }
  · intro inUse
    exact absurd (notInUse.symm.trans inUse) nofun
  · have atDaemon := inv.atDaemon
    cases daemon with
    | openLock call | openTest call => exact ⟨atDaemon.1, fun _ => rfl⟩
    | openWait call mutex => exact ⟨atDaemon.1, atDaemon.2.1, fun _ => rfl⟩
    | openSet call => exact absurd (inv.apart rfl) nofun
    | openUnlock call set | openReturn call set =>
      cases set with
      | false => exact ⟨atDaemon.1, rfl⟩
      | true => exact absurd (notInUse.symm.trans atDaemon.2.2) nofun
    | idle | init | closeLock | closeWait | closeClear | closeUnlock | closePost => exact atDaemon

theorem Exclusive.pythonStep (inv : Exclusive g python daemon)
    (alone : python.atEnableSet = true → daemon.overtaken = false)
    (step : PythonStep g python g' python' event) : Exclusive g' python' daemon := by
  cases step with
  | enableLock => exact { inv with atPython := ⟨inv.mutex, inv.atPython⟩ }
  | enableWait free =>
    obtain ⟨rfl, notBack⟩ := inv.atPython
    exact inv.pythonLock free rfl notBack
  | enableSet => exact inv.enableSet (alone rfl)
  | enableUnlock => exact inv.pythonUnlock rfl rfl trivial
  | disablePend => exact { inv with atPython := trivial }
  | disablePendWait =>
    exact { inv with
      atPython := trivial
      atDaemon := by cases daemon <;> exact inv.atDaemon }
  | disableLock => exact { inv with atPython := inv.mutex }
  | disableWait free =>
    obtain rfl := inv.atPython
    exact inv.pythonLock free rfl trivial
  | inUse => exact { inv with atPython := trivial }
  | notInUse notInUse => exact { inv with atPython := notInUse }
  | disableClear => exact inv.disableClear
  | disableUnlock => exact inv.pythonUnlock rfl rfl trivial
  | disableReturn =>
    refine { inv with
      handedBack := ?_
      atPython := trivial
      atDaemon := by cases daemon <;> exact inv.atDaemon }
    intro back
    rcases Bool.or_eq_true_iff.mp back with before | now
    · exact inv.handedBack before
    · simpa using now
  | init => exact inv.atPython.elim

/-- `usb_in_use = true`: the Python thread is not about to clear `usb_enabled`. -/
theorem Exclusive.openSet {call : OpenCall} (inv : Exclusive g python (.openSet call)) :
    Exclusive { g with usbInUse := true } python (.openUnlock call true) := by
  obtain ⟨plain, late, enabled⟩ := inv.atDaemon
  refine { inv with
    inUse := fun _ => enabled
    hostOpen := fun _ => rfl
    atPython := ?_
    atDaemon := ⟨plain, late, rfl⟩ }
  have atPython := inv.atPython
  cases python with
  | disableClear => exact absurd (inv.apart rfl) nofun
  | idle | enableLock | enableWait | enableSet | enableUnlock | disablePend | disablePendWait
  | disableLock | disableWait | disableTest | disableUnlock | disableReturn | init => exact atPython

theorem Exclusive.openReturn {call : OpenCall} {set : Bool}
    (inv : Exclusive g python (.openReturn call set)) :
    Exclusive { g with seen.hostOpen := g.seen.hostOpen || g.usbEnabled } python
      (if g.usbEnabled && call.scmsc then .init .createSem else .idle) := by
  obtain ⟨plain, decided⟩ := inv.atDaemon
  rw [plain, Bool.and_false, if_neg Bool.false_ne_true]
  refine { inv with
    hostOpen := ?_
    atPython := by cases python <;> exact inv.atPython
    atDaemon := trivial }
  intro isOpen
  rcases Bool.or_eq_true_iff.mp isOpen with before | enabled
  · exact inv.hostOpen before
  · cases set with
    | false => exact absurd (decided.symm.trans enabled) nofun
    | true => exact decided.2

theorem Exclusive.closeClear (inv : Exclusive g python .closeClear) :
    Exclusive { g with usbInUse := false } python .closeUnlock := by
  have closed : g.seen.hostOpen = false := inv.atDaemon
  refine { inv with inUse := nofun, hostOpen := ?_, atPython := ?_, atDaemon := trivial }
  · intro isOpen
    exact absurd (closed.symm.trans isOpen) nofun
  · have atPython := inv.atPython
    cases python with
    | disableClear => rfl
    | idle | enableLock | enableWait | enableSet | enableUnlock | disablePend | disablePendWait
    | disableLock | disableWait | disableTest | disableUnlock | disableReturn | init =>
      exact atPython

theorem Exclusive.daemonStep (inv : Exclusive g python daemon)
    (step : DaemonStep g daemon g' daemon' event) : Exclusive g' python daemon' := by
  cases step with
  | openLock => exact { inv with atDaemon := ⟨inv.mutex, inv.atDaemon⟩ }
  | openWait free =>
    obtain ⟨rfl, waiting⟩ := inv.atDaemon
    exact inv.daemonLock free rfl waiting
  | @enabled call enabled =>
    obtain ⟨plain, early⟩ := inv.atDaemon
    have late : call.early = false :=
      eq_false_of_ne_true fun started => absurd ((early started).symm.trans enabled) nofun
    exact { inv with atDaemon := ⟨plain, late, enabled⟩ }
  | notEnabled notEnabled => exact { inv with atDaemon := ⟨inv.atDaemon.1, notEnabled⟩ }
  | openSet => exact inv.openSet
  | openUnlock => exact inv.daemonUnlock rfl rfl inv.atDaemon
  | openReturn => exact inv.openReturn
  | init => exact inv.atDaemon.elim
  | closeLock => exact { inv with atDaemon := ⟨inv.mutex, inv.atDaemon⟩ }
  | closeWait free =>
    obtain ⟨rfl, closed⟩ := inv.atDaemon
    exact inv.daemonLock free rfl closed
  | closeClear => exact inv.closeClear
  | closeUnlock => exact inv.daemonUnlock rfl rfl trivial
  | closePost =>
    exact { inv with
      atPython := by cases python <;> exact inv.atPython
      atDaemon := trivial }

theorem Exclusive.step (inv : Exclusive s.globals s.python s.daemon)
    (okay : HandsOverAlone s act)
    (stepped : Handover.system.step s act = some (s', event)) :
    Exclusive s'.globals s'.python s'.daemon := by
  cases Handover.step_cases stepped with
  | enableUsb idle =>
    rw [idle] at inv
    exact { inv with
      handedBack := nofun
      atPython := rfl
      atDaemon := by
        have atDaemon := inv.atDaemon
        generalize s.daemon = daemon at atDaemon
        cases daemon <;> exact atDaemon }
  | disableUsb idle =>
    rw [idle] at inv
    exact { inv with atPython := trivial }
  | storageInit => exact okay.1.elim
  | openUsb idle =>
    rw [idle] at inv
    exact { inv with atDaemon := ⟨okay.1, inv.handedBack⟩ }
  | closeUsb idle =>
    rw [idle] at inv
    exact { inv with
      hostOpen := nofun
      atPython := by
        have atPython := inv.atPython
        generalize s.python = python at atPython
        cases python <;> exact atPython
      atDaemon := rfl }
  | python moved => exact inv.pythonStep okay.2 moved
  | daemon moved => exact inv.daemonStep moved

theorem Exclusive.opens {last : HandoverEvent} (inv : Exclusive s.globals s.python s.daemon)
    (stepped : Handover.system.step s act = some (s', event)) (emitted : event = some last) :
    OpensExclusive history last := by
  cases last with
  | disabled => trivial
  | opened call set result =>
    have atDaemon := inv.atDaemon
    cases Handover.step_cases stepped with
    | daemon moved =>
      generalize s.daemon = daemon at atDaemon moved
      cases moved with
      | openReturn =>
        cases emitted
        obtain ⟨_, decided⟩ := atDaemon
        cases set with
        | false => exact ⟨fun enabled => absurd (decided.symm.trans enabled) nofun, fun _ => decided⟩
        | true => exact ⟨fun _ => rfl, fun early => absurd (decided.1.symm.trans early) nofun⟩
      | openLock | openWait | enabled | notEnabled | openSet | openUnlock | init | closeLock
      | closeWait | closeClear | closeUnlock | closePost => cases emitted
    | python moved =>
      generalize s.python = python at moved
      cases moved <;> cases emitted
    | enableUsb | disableUsb | storageInit | openUsb | closeUsb => cases emitted

/-- The hand-over is exclusive in every run in which `enable_usb` overtakes no open. -/
theorem handover_exclusive (run : Handover.system.Run HandsOverAlone .init history s) :
    Along OpensExclusive history ∧ HandedBackAlone s := by
  have both := run.invariant
    (fun history s => Exclusive s.globals s.python s.daemon ∧ Along OpensExclusive history)
    ⟨exclusive_init, along_nil _⟩
    (fun inv okay stepped => ⟨inv.1.step okay stepped,
      inv.2.append fun last emitted => inv.1.opens stepped emitted⟩)
  obtain ⟨inv, opens⟩ := both
  refine ⟨opens, fun back => ?_⟩
  have notInUse : s.globals.usbInUse = false :=
    eq_false_of_ne_true fun inUse => absurd ((inv.handedBack back).symm.trans (inv.inUse inUse)) nofun
  exact ⟨notInUse,
    eq_false_of_ne_true fun isOpen => absurd (notInUse.symm.trans (inv.hostOpen isOpen)) nofun⟩

/-- A mount, an eject, the hand-back, and an open that comes too late. -/
theorem handover_exclusive_remount :
    ∃ history s, Handover.system.Run HandsOverAlone .init history s ∧
      s.globals.seen.handedBack = true ∧
      history.getLast? = some (.opened ⟨false, true⟩ false false) ∧
      Along OpensExclusive history ∧ HandedBackAlone s := by
  obtain ⟨history, s, run, checked⟩ :=
    Handover.system.exists_run_of_exec HandsOverAlone .init
      (HandoverAct.enableUsb :: List.replicate 4 HandoverAct.python ++
        HandoverAct.openUsb false :: List.replicate 6 HandoverAct.daemon ++
        HandoverAct.closeUsb :: List.replicate 5 HandoverAct.daemon ++
        HandoverAct.disableUsb :: List.replicate 8 HandoverAct.python ++
        HandoverAct.openUsb false :: List.replicate 5 HandoverAct.daemon)
      (fun result => decide (result.2.globals.seen.handedBack = true ∧
        result.1.getLast? = some (.opened ⟨false, true⟩ false false))) rfl
  obtain ⟨handedBack, last⟩ := of_decide_eq_true checked
  exact ⟨history, s, run, handedBack, last, handover_exclusive run⟩

/-- `enable_usb` runs between the critical section of an open and its `return`:
the host gets a medium that `usb_in_use` does not guard. -/
theorem handover_exclusive_fails :
    ¬ ∀ (history : List HandoverEvent) (s : Handover),
      Handover.system.Run HandoverCalls .init history s →
        Along OpensExclusive history ∧ HandedBackAlone s := by
  intro claim
  obtain ⟨history, s, run, checked⟩ :=
    Handover.system.exists_run_of_exec HandoverCalls .init
      (HandoverAct.openUsb false :: List.replicate 4 HandoverAct.daemon ++
        HandoverAct.enableUsb :: List.replicate 4 HandoverAct.python ++ [HandoverAct.daemon])
      (fun result => decide (result.1.getLast? = some (.opened ⟨false, false⟩ false true)))
      rfl
  have split := List.dropLast_append_getLast? _ (of_decide_eq_true checked)
  have opens := (claim _ _ run).1 _ _ [] split.symm
  exact Bool.false_ne_true (opens.1 rfl)

end TildaMk4.Usb
