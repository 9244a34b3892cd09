import TildaMk4.Lib.Program
import TildaMk4.Lib.Transition
import TildaMk4.Buttons.TildaThread
import TildaMk4.Sound.Driver

/-!
# The runs of `mp_main`

`mp_main` as a program of statements that interrupts and the tilda thread interleave
with: the set-up from the label `soft_reset` on, the calls that a script makes, and the
tear-down from the label `soft_reset_exit` on. A callback is kept with the number of
the run that registered it, and the buffer of the sound driver with the number of the
run that handed it over.
-/

namespace TildaMk4.Reset

open Buttons Sound Storage Transition Words

/-- `MSP_EXP432E401Y_GPIOCOUNT`. -/
@[simp] abbrev gpioCount : Nat := 40

/-- `NUM_PINS`. -/
@[simp] abbrev numPins : Nat := 64

abbrev Pin := Fin gpioCount

/-- A root pointer of the port. -/
inductive RootPointer (Obj : Type)
  | null
  | constNone
  | callback (run : Nat) (obj : Obj)
  deriving DecidableEq

/-- The root pointer `pinirq_callback[index]`, counted from the first one. The array
has 10 elements, and `machine_pin_irq` takes any index. -/
def pinirqCallback (index : Nat) : Nat := index

/-- The root pointer `tilda_button_callback[button]`; the array is declared right
behind `pinirq_callback` and has 22 elements, and `registerButtonCallback` takes any
`uint8_t`. -/
def tildaButtonCallback (button : Nat) : Nat := 10 + button

/-- The functions that are called on a soft reset and touch nothing of what is modelled
here. -/
inductive Elsewhere
  | storageFlush
  | machineI2cTeardown
  | machineSpiTeardown
  | machineUartTeardown
  | machinePwmTeardown
  | machineAdcTeardown
  | machineRtcTeardown
  | mpDeinit
  | gcInit
  | mpInit
  deriving DecidableEq

inductive Statement (Obj : Type)
  | setRootPointer (word : Nat) (callback : Option Obj)
  | setModes (button : Nat) (modes : CallbackModes)
  | setConfig (pin : Nat) (intRising intFalling : Bool)
  | disableInt (pin : Nat)
  | setCallback (pin : Nat) (callback : GpioCallback)
  | enableInt (pin : Nat)
  | setIrqInUse (pin : Nat)
  | disableIntInUse (pin : Nat)
  | clearCallbackInUse (pin : Nat)
  | clearIrqInUse (pin : Nat)
  | semaphoreDelete
  | gcSweepAll
  | machineSetup
  | clearCallback (button : Nat)
  | clearModes (button : Nat)
  | elsewhere (function : Elsewhere)

/-- What the statements work on. `run` counts the soft resets, `swept` the runs whose
heap has been swept. -/
structure Port (Obj : Type) where
  run : Nat
  swept : Nat
  machineSleepSem : Bool
  rootPointer : Nat → RootPointer Obj
  modes : Nat → CallbackModes
  gpio : Nat → GpioPin
  irqInUse : Nat → Bool

namespace Port

variable {Obj : Type} (p : Port Obj)

def setRootPointer (word : Nat) (value : RootPointer Obj) : Port Obj :=
  { p with rootPointer := Function.update p.rootPointer word value }

def setModes (button : Nat) (modes : CallbackModes) : Port Obj :=
  { p with modes := Function.update p.modes button modes }

def setGpio (pin : Nat) (value : GpioPin) : Port Obj :=
  { p with gpio := Function.update p.gpio pin value }

@[simp] theorem setGpio_gpio_self (pin : Nat) (value : GpioPin) :
    (p.setGpio pin value).gpio pin = value := Function.update_self ..

/-- A callback of a pin is the one that was set, or was there before. -/
theorem callback_setGpio {pin other : Nat} {value : GpioPin} {callback : GpioCallback}
    (found : ((p.setGpio pin value).gpio other).callback = some callback) :
    other = pin ∧ value.callback = some callback ∨
      other ≠ pin ∧ (p.gpio other).callback = some callback := by
  have set : (p.setGpio pin value).gpio other = if other = pin then value else p.gpio other :=
    Function.update_apply ..
  rw [set, apply_ite GpioPin.callback] at found
  exact ite_eq_iff.mp found

@[simp] theorem setRootPointer_rootPointer_self (word : Nat) (value : RootPointer Obj) :
    (p.setRootPointer word value).rootPointer word = value := Function.update_self ..

theorem setRootPointer_rootPointer_of_ne {word other : Nat} (value : RootPointer Obj)
    (other_ : other ≠ word) :
    (p.setRootPointer word value).rootPointer other = p.rootPointer other :=
  Function.update_of_ne other_ ..

theorem rootPointer_setRootPointer {word other : Nat} {value found_ : RootPointer Obj}
    (found : (p.setRootPointer word value).rootPointer other = found_) :
    other = word ∧ value = found_ ∨ other ≠ word ∧ p.rootPointer other = found_ := by
  have set : (p.setRootPointer word value).rootPointer other =
      if other = word then value else p.rootPointer other := Function.update_apply ..
  rw [set] at found
  exact ite_eq_iff.mp found

/-- `tilda_button_callback[button]`, with `none` for `mp_const_none`. -/
def buttonCallback (button : Nat) : Option (RootPointer Obj) :=
  match p.rootPointer (tildaButtonCallback button) with
  | .constNone => none
  | callback => some callback

/-- An assignment of an `mp_obj_t` argument. -/
def registered (callback : Option Obj) : RootPointer Obj :=
  match callback with
  | none => .constNone
  | some obj => .callback p.run obj

def exec : Statement Obj → Port Obj → Port Obj
  | .setRootPointer word callback, p => p.setRootPointer word (p.registered callback)
  | .setModes button modes, p => p.setModes button modes
  | .setConfig pin intRising intFalling, p =>
    p.setGpio pin { p.gpio pin with intRising := intRising, intFalling := intFalling }
  | .disableInt pin, p => p.setGpio pin { p.gpio pin with intEnabled := false }
  | .setCallback pin callback, p => p.setGpio pin { p.gpio pin with callback := some callback }
  | .enableInt pin, p => p.setGpio pin { p.gpio pin with intEnabled := true }
  | .setIrqInUse pin, p => { p with irqInUse := Function.update p.irqInUse pin true }
  | .disableIntInUse pin, p =>
    if p.irqInUse pin then p.setGpio pin { p.gpio pin with intEnabled := false } else p
  | .clearCallbackInUse pin, p =>
    if p.irqInUse pin then p.setGpio pin { p.gpio pin with callback := none } else p
  | .clearIrqInUse pin, p => { p with irqInUse := Function.update p.irqInUse pin false }
  | .semaphoreDelete, p => { p with machineSleepSem := false }
  | .gcSweepAll, p => { p with swept := p.run }
  | .machineSetup, p => { p with machineSleepSem := true }
  | .clearCallback button, p => p.setRootPointer (tildaButtonCallback button) .constNone
  | .clearModes button, p => p.setModes button ⟨false, false⟩
  | .elsewhere _, p => p

end Port

section Programs

variable {Obj : Type}

/-- `registerButtonCallback`. Nothing checks that the button is one. -/
def registerButtonCallback (button : Nat) (callback : Option Obj) (onPress onRelease : Bool) :
    List (Statement Obj) :=
  [.setRootPointer (tildaButtonCallback button) callback, .setModes button ⟨onPress, onRelease⟩] ++
    if joyCenter ≤ button then
      [.setConfig (button - joyCenter) (if button = btnMenu then onRelease else onPress)
        (if button = btnMenu then onPress else onRelease),
        .disableInt (button - joyCenter), .setCallback (button - joyCenter) .tildaGpioCallback,
        .enableInt (button - joyCenter)]
    else []

def unregisterButtonCallback (button : Nat) : List (Statement Obj) :=
  [.setRootPointer (tildaButtonCallback button) none, .setModes button ⟨false, false⟩] ++
    if joyCenter ≤ button then [.disableInt (button - joyCenter)] else []

def machinePinIrq (pin : Nat) (handler : Option Obj) : List (Statement Obj) :=
  [.disableInt pin, .setRootPointer (pinirqCallback pin) handler,
    .setCallback pin .gpioCallback, .setIrqInUse pin, .enableInt pin]

/-- The body of the loop in `machine_pin_teardown`. Only a pin in use is looked at, so
clearing the flag of another pin changes nothing. -/
def pinTeardown (pin : Nat) : List (Statement Obj) :=
  [.disableIntInUse pin, .clearCallbackInUse pin, .clearIrqInUse pin]

def machinePinTeardown : List (Statement Obj) := (List.range numPins).flatMap pinTeardown

/-- `Semaphore_delete` also clears the handle that it is given a pointer to. -/
def machineTeardown : List (Statement Obj) :=
  machinePinTeardown ++
    [.elsewhere .machineI2cTeardown, .elsewhere .machineSpiTeardown,
      .elsewhere .machineUartTeardown, .elsewhere .machinePwmTeardown,
      .elsewhere .machineAdcTeardown, .elsewhere .machineRtcTeardown, .semaphoreDelete]

/-- The body of the loop in `tilda_init0`. -/
def buttonInit0 (button : Nat) : List (Statement Obj) := [.clearCallback button, .clearModes button]

def tildaInit0 : List (Statement Obj) := (List.range buttonsMax).flatMap buttonInit0

/-- `mp_main` from the label `soft_reset` to the first script. -/
def softReset : List (Statement Obj) :=
  [.machineSetup, .elsewhere .gcInit, .elsewhere .mpInit] ++ tildaInit0

/-- `mp_main` from the label `soft_reset_exit` to the first script of the next run. -/
def softResetExit : List (Statement Obj) :=
  .elsewhere .storageFlush :: (machineTeardown ++
    ([.elsewhere .mpDeinit, .gcSweepAll] ++ softReset))

end Programs

/-- Where `tildaThread` stands: at `Event_pend`, or in the round of a button with a TCA
event, or behind the loop. -/
inductive ThreadPc
  | pend
  | check (button : TcaButton)
  | onPress (button : TcaButton)
  | schedulePress (button : TcaButton)
  | onRelease (button : TcaButton)
  | scheduleRelease (button : TcaButton)
  | wake
  deriving DecidableEq

/-- The next round of the loop over the buttons. -/
def ThreadPc.after (button : TcaButton) : ThreadPc :=
  if inside : button.val + 1 < joyCenter then .check ⟨button.val + 1, inside⟩ else .wake

/-- `tildaThread`; `tcaInt` is the bit `Event_TCA_INT` of its event. -/
structure Thread where
  pc : ThreadPc
  tcaInt : Bool
  scheduled : Bool
  buttonState : UInt16
  lastButtonState : UInt16

/-- What a run of `mp_main` may leave behind is used in three ways: the semaphore is
posted, with the handle present or not; a callback is scheduled, after `swept` runs have
been swept; a sample is read in some run from a buffer that a run handed over. -/
inductive Use (Obj : Type)
  | post (machineSleepSem : Bool)
  | schedule (callback : RootPointer Obj) (swept : Nat)
  | readSample (offset handedIn run : Nat)
  deriving DecidableEq

/-- The semaphore is there, the callback is not one of a run that has been swept, and
the buffer is of the present run. -/
def Use.Clean {Obj : Type} : Use Obj → Prop
  | post machineSleepSem => machineSleepSem = true
  | schedule (.callback run _) swept => swept ≤ run
  | schedule .null _ | schedule .constNone _ => True
  | readSample _ handedIn run => run ≤ handedIn

instance {Obj : Type} : DecidablePred (@Use.Clean Obj)
  | .post machineSleepSem => inferInstanceAs (Decidable (machineSleepSem = true))
  | .schedule (.callback run _) swept => inferInstanceAs (Decidable (swept ≤ run))
  | .schedule .null _ | .schedule .constNone _ => inferInstanceAs (Decidable True)
  | .readSample _ handedIn run => inferInstanceAs (Decidable (run ≤ handedIn))

structure State (Obj : Type) where
  port : Port Obj
  todo : List (Statement Obj)
  thread : Thread
  audio : Audio
  handedIn : Nat

/-- The `uint8_t` that `enable_interrupt` passes on for an integer; `none` is an integer
for which `mp_obj_get_int` raises. -/
def buttonId (button : Int) : Option UInt8 := (word? button).map fun word => word.toUInt32.toUInt8

/-- The `uint32_t` that `Pin` keeps of an integer; `none` is an integer for which
`mp_obj_get_int` raises. -/
def pinId (id : Int) : Option UInt32 := (word? id).map Int32.toUInt32

/-- The next statement of `mp_main`, what a script calls or how it ends, the interrupts
of the pins, of the debounced port expander and of the PWM generator, and a step of the
tilda thread with what it reads if it gets to the port expander. The buttons of
`disable_interrupt` are those that pass its check. -/
inductive Act (Obj : Type)
  | statement
  | enableInterrupt (button : Int) (interrupt : Option Obj) (onPress onRelease : Bool)
  | disableInterrupt (button : Button)
  | irq (id : Int) (handler : Option Obj)
  | play (buf : Bytes) (len : Nat) (sampleRate sampleDepth : Int)
  | playWav (buf : Bytes) (len : Nat)
  | volume (volume : Int)
  | softReset
  | gpioInterrupt (pin : Pin)
  | tcaInterrupt
  | thread (read : TcaRead)
  | pwmInterrupt

/-- The interrupts and the steps of the tilda thread. -/
def Act.Event {Obj : Type} : Act Obj → Prop
  | gpioInterrupt _ | tcaInterrupt | thread _ | pwmInterrupt => True
  | statement | enableInterrupt .. | disableInterrupt _ | irq .. | play .. | playWav .. | volume _
  | softReset => False

namespace State

variable {Obj : Type} (s : State Obj)

/-- What a script does. -/
def script (next : State Obj) : Option (State Obj × Option (List (Use Obj))) :=
  if s.todo.isEmpty then some (next, some []) else none

/-- `enable_interrupt`; it raises before anything is done or registers its callback. -/
def enableInterrupt (button : Int) (interrupt : Option Obj) (onPress onRelease : Bool) : State Obj :=
  match buttonId button with
  | some id => { s with todo := registerButtonCallback id.toNat interrupt onPress onRelease }
  | none => s

/-- `Pin(id).irq`; `Pin` raises before anything is done or the call registers its handler. -/
def irq (id : Int) (handler : Option Obj) : State Obj :=
  match pinId id with
  | some pin => { s with todo := machinePinIrq pin.toNat handler }
  | none => s

/-- The new sound state after `play`, and a new owner of the buffer if it was accepted. -/
def played (result : Except Exn Unit × Audio) : State Obj :=
  { s with
    audio := result.2
    handedIn :=
      match result.1 with
      | .ok () => s.port.run
      | .error _ => s.handedIn }

/-- The pointer is passed to `mp_sched_schedule` if it is not `mp_const_none`. -/
def scheduleCallback (word : Nat) : List (Use Obj) :=
  match s.port.rootPointer word with
  | .constNone => []
  | callback => [.schedule callback s.port.swept]

def tildaGpioCallback (index : Nat) : List (Use Obj) :=
  s.scheduleCallback (tildaButtonCallback (index + joyCenter)) ++ [.post s.port.machineSleepSem]

def gpioCallback (index : Nat) : List (Use Obj) :=
  s.scheduleCallback (pinirqCallback index) ++ [.post s.port.machineSleepSem]

/-- The call of a pin's callback; the other callbacks only start the debouncer or post
an event to the tilda thread. -/
def dispatch (index : Nat) : GpioCallback → List (Use Obj)
  | .tildaGpioCallback => s.tildaGpioCallback index
  | .gpioCallback => s.gpioCallback index
  | .pdbStart | .bqInterruptHandler | .hdcInterruptHandler => []

/-- The buttons as the tilda thread has them. -/
def tilda : Tilda (RootPointer Obj) where
  buttonState := s.thread.buttonState
  lastButtonState := s.thread.lastButtonState
  tildaButtonCallback button := s.port.buttonCallback button
  tildaButtonCallbackModes button := s.port.modes button
  gpio := s.port.gpio

def goto (pc : ThreadPc) : State Obj := { s with thread := { s.thread with pc := pc } }

/-- `Event_pend` and `readTCAButtons`. -/
def readTca (read : TcaRead) : State Obj :=
  { s with
    thread :=
      { pc := .check 0
        tcaInt := false
        scheduled := false
        buttonState := (s.tilda.readTcaButtons read).buttonState
        lastButtonState := (s.tilda.readTcaButtons read).lastButtonState } }

/-- `mp_sched_schedule(*tca_callback_irq, …); scheduled = true`. -/
def schedule (button : TcaButton) (next : ThreadPc) :
    Option (State Obj × Option (List (Use Obj))) :=
  some ({ s with thread := { s.thread with pc := next, scheduled := true } },
    some [.schedule (s.port.rootPointer (Reset.tildaButtonCallback button)) s.port.swept])

def threadStep (read : TcaRead) : Option (State Obj × Option (List (Use Obj))) :=
  match s.thread.pc with
  | .pend => if s.thread.tcaInt then some (s.readTca read, some []) else none
  | .check button =>
    some (s.goto (if (s.tilda.tildaButtonCallback button.name).isSome then .onPress button
      else .after button), some [])
  | .onPress button =>
    some (s.goto (if s.tilda.firesOnPress button then .schedulePress button
      else .onRelease button), some [])
  | .schedulePress button => s.schedule button (.onRelease button)
  | .onRelease button =>
    some (s.goto (if s.tilda.firesOnRelease button then .scheduleRelease button
      else .after button), some [])
  | .scheduleRelease button => s.schedule button (.after button)
  | .wake =>
    some (s.goto .pend, some (if s.thread.scheduled then [.post s.port.machineSleepSem] else []))

/-- The samples that `SoundIntHandler` reads. -/
def samples : List (Use Obj) :=
  s.audio.sound.soundIntHandler.1.map fun offset => .readSample offset s.handedIn s.port.run

def step (s : State Obj) : Act Obj → Option (State Obj × Option (List (Use Obj)))
  | .statement =>
    match s.todo with
    | [] => none
    | statement :: rest => some ({ s with port := s.port.exec statement, todo := rest }, some [])
  | .enableInterrupt button interrupt onPress onRelease =>
    s.script (s.enableInterrupt button interrupt onPress onRelease)
  | .disableInterrupt button => s.script { s with todo := unregisterButtonCallback button }
  | .irq id handler => s.script (s.irq id handler)
  | .play buf len sampleRate sampleDepth =>
    s.script (s.played (s.audio.audioPlay buf len sampleRate sampleDepth))
  | .playWav buf len => s.script (s.played (s.audio.audioPlayWav buf len))
  | .volume volume => s.script { s with audio := (s.audio.audioVolume volume).2 }
  | .softReset =>
    s.script { s with port := { s.port with run := s.port.run + 1 }, todo := softResetExit }
  | .gpioInterrupt pin =>
    match (s.port.gpio pin).intEnabled, (s.port.gpio pin).callback with
    | true, some callback => some (s, some (s.dispatch pin callback))
    | _, _ => none
  | .tcaInterrupt => some ({ s with thread := { s.thread with tcaInt := true } }, some [])
  | .thread read => s.threadStep read
  | .pwmInterrupt =>
    if s.audio.sound.pwmIntEnabled && s.audio.sound.pwmGenEnabled then
      some ({ s with audio := s.audio.interrupt }, some s.samples)
    else none

def system (Obj : Type) : System (State Obj) (Act Obj) (List (Use Obj)) where
  step := step

/-- `gpioPinConfigs`, with the callbacks that the set-up of `tildaThread` has registered. -/
def boardPin (pin : Nat) : GpioPin where
  intRising := pin ∈ [0, 1, 2, 3, 4, 6, 7, 8, 11, 12, 13, 14, 17]
  intFalling := pin ∈ [5, 9, 10, 13, 15, 16]
  intEnabled := pin ∈ [9, 10, 15]
  callback :=
    if pin = 9 then some .bqInterruptHandler
    else if pin = 10 then some .pdbStart
    else if pin = 15 then some .hdcInterruptHandler
    else none

/-- `mp_main` before its first pass, with the tilda thread at its loop after a first
read of the port expander. -/
def boot (buttonState : UInt16) : State Obj where
  port :=
    { run := 0
      swept := 0
      machineSleepSem := false
      rootPointer := fun _ => .null
      modes := fun _ => ⟨false, false⟩
      gpio := boardPin
      irqInUse := fun _ => false }
  todo := softReset
  thread := ⟨.pend, false, false, buttonState, buttonState⟩
  audio := .powerUp
  handedIn := 0

end State

end TildaMk4.Reset
