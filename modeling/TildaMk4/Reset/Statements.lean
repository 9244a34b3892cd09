import TildaMk4.Reset.MpMain

/-!
# Between the statements of `mp_main`

The semaphore is there but from `Semaphore_delete` to `machine_setup`, and a button's
callback is one of a run that has been swept only from `gc_sweep_all` until
`tilda_init0` comes to the button. A pin with a handler is torn down before either, and
`pinirq_callback` holds a handler of the present run for as long as the pin has its
callback.
-/

namespace TildaMk4.Reset

open Buttons Program Sound Transition

variable {Obj : Type}

namespace Port

variable (p : Port Obj)

def HasCallback (word : Nat) : Prop := ∃ run obj, p.rootPointer word = .callback run obj

/-- A callback of a run whose heap has been swept. -/
def Outdated (word : Nat) : Prop :=
  ∃ run obj, p.rootPointer word = .callback run obj ∧ run < p.swept

end Port

/-- `machine_setup` is still to come, and `Semaphore_delete` is not. -/
def SemaphoreDeleted (todo : List (Statement Obj)) : Prop :=
  .machineSetup ∈ todo ∧ .semaphoreDelete ∉ todo

/-- A callback that `tilda_init0` has still to clear, and `gc_sweep_all` is behind. -/
def Uncleared (p : Port Obj) (todo : List (Statement Obj)) (button : Nat) : Prop :=
  .gcSweepAll ∉ todo ∧ .clearCallback button ∈ todo ∧ p.HasCallback (tildaButtonCallback button)

/-- What is seen of `mp_main` by the others between two statements. -/
structure Current (p : Port Obj) (todo : List (Statement Obj)) : Prop where
  semaphore : p.machineSleepSem = true ↔ ¬SemaphoreDeleted todo
  handlers : ∀ pin, (p.gpio pin).callback = some .gpioCallback →
    ¬SemaphoreDeleted todo ∧ ¬p.Outdated (pinirqCallback pin)
  joystick : ∀ pin, (p.gpio pin).callback = some .tildaGpioCallback → pin + joyCenter < buttonsMax
  buttons : ∀ button < buttonsMax,
    p.Outdated (tildaButtonCallback button) ↔ Uncleared p todo button

/-! ## Scripts -/

/-- While a script runs. -/
structure Port.Running (p : Port Obj) : Prop where
  swept : p.swept = p.run
  semaphore : p.machineSleepSem = true
  registered : ∀ word run obj, p.rootPointer word = .callback run obj → run ≤ p.run
  handlers : ∀ pin, (p.gpio pin).callback = some .gpioCallback → ¬p.Outdated (pinirqCallback pin)
  joystick : ∀ pin, (p.gpio pin).callback = some .tildaGpioCallback → pin + joyCenter < buttonsMax
  buttons : ∀ button < buttonsMax, ¬p.Outdated (tildaButtonCallback button)

/-- Between two calls of a script every handler belongs to a pin that is in use. -/
structure Port.Settled (p : Port Obj) : Prop extends p.Running where
  inUse : ∀ pin, (p.gpio pin).callback = some .gpioCallback →
    p.irqInUse pin = true ∧ pin < numPins

/-- The statements of a script's call. -/
def ScriptCall (todo : List (Statement Obj)) : Prop :=
  .machineSetup ∉ todo ∧ ∀ button, .clearCallback button ∉ todo

theorem ScriptCall.subset {todo program : List (Statement Obj)} (call : ScriptCall program)
    (subset : todo ⊆ program) : ScriptCall todo :=
  ⟨fun member => call.1 (subset member), fun button member => call.2 button (subset member)⟩

theorem ScriptCall.tail {statement : Statement Obj} {rest : List (Statement Obj)}
    (call : ScriptCall (statement :: rest)) : ScriptCall rest :=
  call.subset (List.subset_cons_self ..)

namespace Port.Running

variable {p : Port Obj} (running : p.Running)
include running

theorem current {todo : List (Statement Obj)} (call : ScriptCall todo) : Current p todo where
  semaphore := iff_of_true running.semaphore fun deleted => call.1 deleted.1
  handlers pin handler := ⟨fun deleted => call.1 deleted.1, running.handlers pin handler⟩
  joystick := running.joystick
  buttons button inside :=
    iff_of_false (running.buttons button inside) fun uncleared => call.2 button uncleared.2.1

omit running in
theorem run_of_registered {callback : Option Obj} {run : Nat} {obj : Obj}
    (same : p.registered callback = .callback run obj) : run = p.run := by
  cases callback with
  | none => nomatch same
  | some other => exact (RootPointer.callback.inj same).1.symm

/-- A callback that is registered now is of the present run. -/
theorem not_outdated (word : Nat) (callback : Option Obj) :
    ¬(p.setRootPointer word (p.registered callback)).Outdated word := by
  rintro ⟨run, obj, same, old⟩
  rw [setRootPointer_rootPointer_self] at same
  obtain rfl := run_of_registered same
  exact absurd (running.swept ▸ old) (Nat.lt_irrefl _)

theorem setGpio {pin : Nat} {value : GpioPin}
    (handler : value.callback = some .gpioCallback → ¬p.Outdated (pinirqCallback pin))
    (button : value.callback = some .tildaGpioCallback → pin + joyCenter < buttonsMax) :
    (p.setGpio pin value).Running where
  swept := running.swept
  semaphore := running.semaphore
  registered := running.registered
  handlers other same := by
    rcases p.callback_setGpio same with ⟨rfl, set⟩ | ⟨-, old⟩
    · exact handler set
    · exact running.handlers other old
  joystick other same := by
    rcases p.callback_setGpio same with ⟨rfl, set⟩ | ⟨-, old⟩
    · exact button set
    · exact running.joystick other old
  buttons := running.buttons

theorem setRootPointer (word : Nat) (callback : Option Obj) :
    (p.setRootPointer word (p.registered callback)).Running := by
  have outdated : ∀ {other},
      (p.setRootPointer word (p.registered callback)).Outdated other → p.Outdated other := by
    rintro other ⟨run, obj, same, old⟩
    rcases p.rootPointer_setRootPointer same with ⟨rfl, -⟩ | ⟨-, kept⟩
    · exact absurd ⟨run, obj, same, old⟩ (running.not_outdated other callback)
    · exact ⟨run, obj, kept, old⟩
  refine ⟨running.swept, running.semaphore, fun other run obj same => ?_,
    fun pin handler old => running.handlers pin handler (outdated old), running.joystick,
    fun button inside old => running.buttons button inside (outdated old)⟩
  rcases p.rootPointer_setRootPointer same with ⟨-, set⟩ | ⟨-, kept⟩
  · exact Nat.le_of_eq (run_of_registered set)
  · exact running.registered other run obj kept

theorem setModes (button : Nat) (modes : CallbackModes) : (p.setModes button modes).Running :=
  ⟨running.swept, running.semaphore, running.registered, running.handlers, running.joystick,
    running.buttons⟩

theorem setIrqInUse (pin : Nat) : (p.exec (.setIrqInUse pin)).Running :=
  ⟨running.swept, running.semaphore, running.registered, running.handlers, running.joystick,
    running.buttons⟩

end Port.Running

/-- The statements of a call that only concern buttons. -/
def Statement.ForButton : Statement Obj → Prop
  | .setRootPointer _ _ | .setModes _ _ | .setConfig _ _ _ | .disableInt _ | .enableInt _ => True
  | .setCallback pin callback => callback = .tildaGpioCallback ∧ pin + joyCenter < buttonsMax
  | _ => False

namespace Port.Settled

variable {p : Port Obj} (settled : p.Settled)
include settled

theorem setGpio {pin : Nat} {value : GpioPin}
    (handler : value.callback = some .gpioCallback → (p.gpio pin).callback = some .gpioCallback)
    (button : value.callback = some .tildaGpioCallback → pin + joyCenter < buttonsMax) :
    (p.setGpio pin value).Settled where
  toRunning :=
    settled.toRunning.setGpio (fun same => settled.handlers pin (handler same)) button
  inUse other same := by
    rcases p.callback_setGpio same with ⟨rfl, set⟩ | ⟨-, old⟩
    · exact settled.inUse other (handler set)
    · exact settled.inUse other old

theorem exec {statement : Statement Obj} (kind : statement.ForButton) :
    (p.exec statement).Settled := by
  cases statement with
  | setRootPointer word callback =>
    exact ⟨settled.toRunning.setRootPointer word callback, settled.inUse⟩
  | setModes button modes => exact ⟨settled.toRunning.setModes button modes, settled.inUse⟩
  | setConfig pin intRising intFalling => exact settled.setGpio id (settled.joystick pin)
  | disableInt pin => exact settled.setGpio id (settled.joystick pin)
  | enableInt pin => exact settled.setGpio id (settled.joystick pin)
  | setCallback pin callback =>
    obtain ⟨rfl, inside⟩ := kind
    exact settled.setGpio nofun fun _ => inside
  | _ => exact kind.elim

theorem buttonCall {program : List (Statement Obj)}
    (kinds : ∀ statement ∈ program, statement.ForButton) :
    Throughout Port.exec Current Port.Settled program p := by
  have call : ScriptCall program :=
    ⟨fun member => kinds _ member, fun button member => kinds _ member⟩
  have held : Throughout Port.exec (fun p todo => p.Settled ∧ todo ⊆ program) Port.Settled
      program p :=
    throughout_of_invariant settled fun statement member _ held =>
      Port.Settled.exec held (kinds statement member)
  exact held.mono (fun ⟨inv, subset⟩ => inv.current (call.subset subset)) id

theorem registerButtonCallback {button : Nat} (inside : button < buttonsMax)
    (callback : Option Obj) (onPress onRelease : Bool) :
    Throughout Port.exec Current Port.Settled
      (registerButtonCallback button callback onPress onRelease) p := by
  refine settled.buttonCall fun statement member => ?_
  rcases List.mem_append.mp member with first | later
  · simp only [List.mem_cons, List.not_mem_nil, or_false] at first
    rcases first with rfl | rfl <;> trivial
  · split at later
    next onPin =>
      simp only [List.mem_cons, List.not_mem_nil, or_false] at later
      rcases later with rfl | rfl | rfl | rfl
      · trivial
      · trivial
      · exact ⟨rfl, by omega⟩
      · trivial
    next => exact absurd later List.not_mem_nil

theorem unregisterButtonCallback (button : Nat) :
    Throughout Port.exec Current Port.Settled (unregisterButtonCallback button) p := by
  refine settled.buttonCall fun statement member => ?_
  rcases List.mem_append.mp member with first | later
  · simp only [List.mem_cons, List.not_mem_nil, or_false] at first
    rcases first with rfl | rfl <;> trivial
  · split at later
    next =>
      rw [List.mem_singleton] at later
      subst later
      trivial
    next => exact absurd later List.not_mem_nil

/-- A pin gets the callback that looks for its handler. -/
theorem handle {pin : Nat} (inside : pin < numPins) (fresh : ¬p.Outdated (pinirqCallback pin)) :
    (p.exec (.setCallback pin .gpioCallback)).Running ∧
      ((p.exec (.setCallback pin .gpioCallback)).exec (.setIrqInUse pin)).Settled := by
  have called : (p.exec (.setCallback pin .gpioCallback)).Running :=
    settled.toRunning.setGpio (fun _ => fresh) nofun
  refine ⟨called, called.setIrqInUse pin, fun other same => ?_⟩
  rcases p.callback_setGpio same with ⟨rfl, -⟩ | ⟨differs, old⟩
  · exact ⟨Function.update_self .., inside⟩
  · obtain ⟨inUse, inside'⟩ := settled.inUse other old
    exact ⟨(Function.update_of_ne differs ..).trans inUse, inside'⟩

/-- The handler is stored before the pin gets its callback, and the pin is in use
before the call is over. -/
theorem machinePinIrq {pin : Nat} (inside : pin < numPins) (handler : Option Obj) :
    Throughout Port.exec Current Port.Settled (machinePinIrq pin handler) p := by
  have call : ScriptCall (Reset.machinePinIrq pin handler) := by
    simp [ScriptCall, Reset.machinePinIrq]
  have disabled : (p.exec (.disableInt pin)).Settled := settled.exec trivial
  have stored : ((p.exec (.disableInt pin)).exec
      (.setRootPointer (pinirqCallback pin) handler)).Settled := disabled.exec trivial
  obtain ⟨called, used⟩ :=
    stored.handle inside (disabled.toRunning.not_outdated (pinirqCallback pin) handler)
  exact ⟨settled.current call, disabled.current call.tail, stored.current call.tail.tail,
    called.current call.tail.tail.tail, used.current call.tail.tail.tail.tail, used.exec trivial⟩

end Port.Settled

/-! ## The soft reset -/

/-- From the label `soft_reset_exit` on, while `pins` have still to be torn down. -/
structure Port.Leaving (p : Port Obj) (pins : List Nat) : Prop where
  swept : p.run = p.swept + 1
  semaphore : p.machineSleepSem = true
  registered : ∀ word run obj, p.rootPointer word = .callback run obj → run ≤ p.swept
  handlers : ∀ pin, (p.gpio pin).callback = some .gpioCallback →
    p.irqInUse pin = true ∧ pin ∈ pins ∧ ¬p.Outdated (pinirqCallback pin)
  joystick : ∀ pin, (p.gpio pin).callback = some .tildaGpioCallback → pin + joyCenter < buttonsMax
  buttons : ∀ button < buttonsMax, ¬p.Outdated (tildaButtonCallback button)

/-- The heap has been swept, and `buttons` have still to be cleared. -/
structure Port.Swept (p : Port Obj) (buttons : List Nat) : Prop where
  swept : p.swept = p.run
  registered : ∀ word run obj, p.rootPointer word = .callback run obj → run < p.run
  handlers : ∀ pin, (p.gpio pin).callback ≠ some .gpioCallback
  joystick : ∀ pin, (p.gpio pin).callback = some .tildaGpioCallback → pin + joyCenter < buttonsMax
  cleared : ∀ button < buttonsMax, p.HasCallback (tildaButtonCallback button) → button ∈ buttons

namespace Port.Leaving

variable {p : Port Obj} {pins : List Nat} (leaving : p.Leaving pins)
include leaving

theorem current {todo : List (Statement Obj)} (deleting : .semaphoreDelete ∈ todo)
    (sweeping : .gcSweepAll ∈ todo) : Current p todo where
  semaphore := iff_of_true leaving.semaphore fun deleted => deleted.2 deleting
  handlers pin handler :=
    ⟨fun deleted => deleted.2 deleting, (leaving.handlers pin handler).2.2⟩
  joystick := leaving.joystick
  buttons button inside :=
    iff_of_false (leaving.buttons button inside) fun uncleared => uncleared.1 sweeping

theorem setGpio {pin : Nat} {value : GpioPin} (same : value.callback = (p.gpio pin).callback) :
    (p.setGpio pin value).Leaving pins := by
  have kept : ∀ {other callback}, ((p.setGpio pin value).gpio other).callback = some callback →
      (p.gpio other).callback = some callback := by
    intro other callback found
    rcases p.callback_setGpio found with ⟨rfl, set⟩ | ⟨-, old⟩
    · exact same.symm.trans set
    · exact old
  exact ⟨leaving.swept, leaving.semaphore, leaving.registered,
    fun other handler => leaving.handlers other (kept handler),
    fun other button => leaving.joystick other (kept button), leaving.buttons⟩

end Port.Leaving

namespace Port.Leaving

variable {p : Port Obj} {pin : Nat} {pins : List Nat} (leaving : p.Leaving (pin :: pins))
include leaving

theorem disableIntInUse : (p.exec (.disableIntInUse pin)).Leaving (pin :: pins) := by
  rw [Port.exec]
  split
  · exact leaving.setGpio rfl
  · exact leaving

theorem clearCallbackInUse : (p.exec (.clearCallbackInUse pin)).Leaving pins ∧
    ((p.exec (.clearCallbackInUse pin)).gpio pin).callback ≠ some .gpioCallback := by
  have others : ∀ other, other ≠ pin → (p.gpio other).callback = some .gpioCallback →
      p.irqInUse other = true ∧ other ∈ pins ∧ ¬p.Outdated (pinirqCallback other) := by
    intro other differs handler
    obtain ⟨inUse, member, fresh⟩ := leaving.handlers other handler
    exact ⟨inUse, (List.mem_cons.mp member).resolve_left differs, fresh⟩
  rw [Port.exec]
  split
  next inUse =>
    refine ⟨⟨leaving.swept, leaving.semaphore, leaving.registered, fun other handler => ?_,
      fun other button => ?_, leaving.buttons⟩, ?_⟩
    · rcases p.callback_setGpio handler with ⟨-, set⟩ | ⟨differs, old⟩
      · nomatch set
      · exact others other differs old
    · rcases p.callback_setGpio button with ⟨-, set⟩ | ⟨-, old⟩
      · nomatch set
      · exact leaving.joystick other old
    · rw [setGpio_gpio_self]
      nofun
  next unused =>
    have none_ : (p.gpio pin).callback ≠ some .gpioCallback := fun handler =>
      unused (leaving.handlers pin handler).1
    refine ⟨{ leaving with handlers := fun other handler => others other ?_ handler }, none_⟩
    intro equal
    exact none_ (equal ▸ handler)

end Port.Leaving

namespace Port.Leaving

variable {p : Port Obj} {pin : Nat} {pins : List Nat} (leaving : p.Leaving pins)
include leaving

theorem clearIrqInUse (none_ : (p.gpio pin).callback ≠ some .gpioCallback) :
    (p.exec (.clearIrqInUse pin)).Leaving pins := by
  refine ⟨leaving.swept, leaving.semaphore, leaving.registered, fun other handler => ?_,
    leaving.joystick, leaving.buttons⟩
  obtain ⟨inUse, member, fresh⟩ := leaving.handlers other handler
  have differs : other ≠ pin := fun equal => none_ (equal ▸ handler)
  exact ⟨(Function.update_of_ne differs ..).trans inUse, member, fresh⟩

end Port.Leaving

namespace Port.Leaving

variable {p : Port Obj} (torn : p.Leaving [])
include torn

/-- Once all pins are torn down, nothing looks for a handler. -/
theorem semaphoreDelete {todo : List (Statement Obj)} (deleted : SemaphoreDeleted todo)
    (sweeping : .gcSweepAll ∈ todo) : Current (p.exec .semaphoreDelete) todo where
  semaphore := iff_of_false Bool.false_ne_true fun kept => kept deleted
  handlers pin handler := absurd (torn.handlers pin handler).2.1 List.not_mem_nil
  joystick := torn.joystick
  buttons button inside :=
    iff_of_false (torn.buttons button inside) fun uncleared => uncleared.1 sweeping

theorem gcSweepAll :
    ((p.exec .semaphoreDelete).exec .gcSweepAll).Swept (List.range buttonsMax) where
  swept := rfl
  registered word run obj same :=
    torn.swept ▸ Nat.lt_succ_of_le (torn.registered word run obj same)
  handlers pin handler := List.not_mem_nil (torn.handlers pin handler).2.1
  joystick := torn.joystick
  cleared _ inside _ := List.mem_range.mpr inside

end Port.Leaving

theorem clearCallback_mem {button : Nat} {buttons : List Nat} (member : button ∈ buttons) :
    .clearCallback button ∈ buttons.flatMap (@buttonInit0 Obj) :=
  List.mem_flatMap.mpr ⟨button, member, List.mem_cons_self⟩

theorem machineSetup_notMem (buttons : List Nat) :
    .machineSetup ∉ buttons.flatMap (@buttonInit0 Obj) := by
  simp [buttonInit0]

theorem gcSweepAll_notMem (buttons : List Nat) :
    .gcSweepAll ∉ buttons.flatMap (@buttonInit0 Obj) := by
  simp [buttonInit0]

namespace Port.Swept

variable {p : Port Obj} {buttons : List Nat}

/-- All callbacks that are left are of runs that have been swept. -/
theorem current (swept : p.Swept buttons) {todo : List (Statement Obj)}
    (semaphore : p.machineSleepSem = true ↔ ¬SemaphoreDeleted todo)
    (sweeping : .gcSweepAll ∉ todo) (clearing : ∀ button ∈ buttons, .clearCallback button ∈ todo) :
    Current p todo where
  semaphore := semaphore
  handlers pin handler := absurd handler (swept.handlers pin)
  joystick := swept.joystick
  buttons button inside := by
    constructor
    · rintro ⟨run, obj, same, old⟩
      have left : p.HasCallback (tildaButtonCallback button) := ⟨run, obj, same⟩
      exact ⟨sweeping, clearing button (swept.cleared button inside left), left⟩
    · rintro ⟨-, -, run, obj, same⟩
      exact ⟨run, obj, same, swept.swept ▸ swept.registered _ run obj same⟩

/-- The same with the semaphore there, once `machine_setup` is behind. -/
theorem current_of_semaphore (swept : p.Swept buttons) (semaphore : p.machineSleepSem = true)
    {todo : List (Statement Obj)} (setup : .machineSetup ∉ todo) (sweeping : .gcSweepAll ∉ todo)
    (clearing : ∀ button ∈ buttons, .clearCallback button ∈ todo) : Current p todo :=
  swept.current (iff_of_true semaphore fun deleted => setup deleted.1) sweeping clearing

theorem clearCallback {button : Nat} (swept : p.Swept (button :: buttons)) :
    (p.exec (.clearCallback button)).Swept buttons where
  swept := swept.swept
  registered word run obj same := by
    rcases p.rootPointer_setRootPointer same with ⟨-, set⟩ | ⟨-, kept⟩
    · nomatch set
    · exact swept.registered word run obj kept
  handlers := swept.handlers
  joystick := swept.joystick
  cleared other inside := by
    rintro ⟨run, obj, same⟩
    rcases p.rootPointer_setRootPointer same with ⟨-, set⟩ | ⟨elsewhere, kept⟩
    · nomatch set
    · have differs : other ≠ button := fun equal =>
        elsewhere (congrArg tildaButtonCallback equal)
      have member := swept.cleared other inside ⟨run, obj, kept⟩
      exact (List.mem_cons.mp member).resolve_left differs

theorem settled (swept : p.Swept []) (semaphore : p.machineSleepSem = true) : p.Settled where
  swept := swept.swept
  semaphore := semaphore
  registered word run obj same := Nat.le_of_lt (swept.registered word run obj same)
  handlers pin handler := absurd handler (swept.handlers pin)
  joystick := swept.joystick
  buttons button inside := fun ⟨run, obj, same, _⟩ =>
    List.not_mem_nil (swept.cleared button inside ⟨run, obj, same⟩)
  inUse pin handler := absurd handler (swept.handlers pin)

theorem buttonInit0 {button : Nat} (swept : p.Swept (button :: buttons))
    (semaphore : p.machineSleepSem = true) :
    Throughout Port.exec
      (fun p todo => Current p (todo ++ (buttons.flatMap Reset.buttonInit0 ++ [])))
      (fun p => p.Swept buttons ∧ p.machineSleepSem = true) (Reset.buttonInit0 button) p := by
  have notSetup := @machineSetup_notMem Obj buttons
  have notSweep := @gcSweepAll_notMem Obj buttons
  have kept : (p.exec (.clearCallback button)).Swept buttons := swept.clearCallback
  refine ⟨swept.current_of_semaphore semaphore ?_ ?_ ?_,
    kept.current_of_semaphore semaphore ?_ ?_ ?_, ?_⟩
  · simpa using notSetup
  · simpa using notSweep
  · intro other member
    rcases List.mem_cons.mp member with rfl | later
    · exact List.mem_cons_self
    · exact List.mem_append_right _ (List.mem_append_left _ (clearCallback_mem later))
  · simpa using notSetup
  · simpa using notSweep
  · intro other member
    exact List.mem_append_right _ (List.mem_append_left _ (clearCallback_mem member))
  · exact ⟨⟨kept.swept, kept.registered, kept.handlers, kept.joystick, kept.cleared⟩, semaphore⟩

theorem softReset (swept : p.Swept (List.range buttonsMax)) (deleted : p.machineSleepSem = false) :
    Throughout Port.exec Current Port.Settled softReset p := by
  have notSetup := @machineSetup_notMem Obj (List.range buttonsMax)
  have notSweep := @gcSweepAll_notMem Obj (List.range buttonsMax)
  have clearing : ∀ button ∈ List.range buttonsMax,
      .clearCallback button ∈ (tildaInit0 : List (Statement Obj)) :=
    fun button member => clearCallback_mem member
  have created : (p.exec .machineSetup).Swept (List.range buttonsMax) :=
    ⟨swept.swept, swept.registered, swept.handlers, swept.joystick, swept.cleared⟩
  have init0 : Throughout Port.exec Current Port.Settled tildaInit0 (p.exec .machineSetup) := by
    rw [tildaInit0, ← List.append_nil (List.flatMap _ _)]
    refine throughout_loop (I := fun buttons p => p.Swept buttons ∧ p.machineSleepSem = true)
      Reset.buttonInit0 (fun holds => holds.1.buttonInit0 holds.2) (fun holds => ?_)
      (List.range buttonsMax) ⟨created, rfl⟩
    exact holds.1.settled holds.2
  have setUp : ∀ {todo : List (Statement Obj)}, .machineSetup ∉ todo → .gcSweepAll ∉ todo →
      tildaInit0 ⊆ todo → Current (p.exec .machineSetup) todo :=
    fun setup sweeping clears => created.current_of_semaphore rfl setup sweeping
      fun button member => clears (clearing button member)
  refine ⟨swept.current ?_ ?_ ?_, setUp ?_ ?_ ?_, setUp ?_ ?_ ?_, init0⟩
  · exact iff_of_false (by rw [deleted]; exact Bool.false_ne_true) fun kept =>
      kept ⟨List.mem_cons_self, by simp [tildaInit0, Reset.buttonInit0]⟩
  · simpa [tildaInit0] using notSweep
  · exact fun button member => List.mem_cons_of_mem _
      (List.mem_cons_of_mem _ (List.mem_cons_of_mem _ (clearing button member)))
  · simpa [tildaInit0] using notSetup
  · simpa [tildaInit0] using notSweep
  · exact fun _ member => List.mem_cons_of_mem _ (List.mem_cons_of_mem _ member)
  · simpa [tildaInit0] using notSetup
  · simpa [tildaInit0] using notSweep
  · exact List.subset_cons_self ..

end Port.Swept

theorem Port.Leaving.pinTeardown {p : Port Obj} {pin : Nat} {pins : List Nat}
    (leaving : p.Leaving (pin :: pins)) {rest : List (Statement Obj)}
    (deleting : .semaphoreDelete ∈ rest) (sweeping : .gcSweepAll ∈ rest) :
    Throughout Port.exec (fun p todo => Current p (todo ++ (pins.flatMap Reset.pinTeardown ++ rest)))
      (fun p => p.Leaving pins) (Reset.pinTeardown pin) p := by
  have ahead : ∀ todo, rest ⊆ todo ++ (pins.flatMap Reset.pinTeardown ++ rest) := fun todo =>
    List.subset_append_of_subset_right _ (List.subset_append_right _ _)
  have disabled := leaving.disableIntInUse
  obtain ⟨cleared, none_⟩ := disabled.clearCallbackInUse
  exact ⟨leaving.current (ahead _ deleting) (ahead _ sweeping),
    disabled.current (ahead _ deleting) (ahead _ sweeping),
    cleared.current (ahead _ deleting) (ahead _ sweeping), cleared.clearIrqInUse none_⟩

theorem Port.Settled.softResetExit {p : Port Obj} (settled : p.Settled) :
    Throughout Port.exec Current Port.Settled softResetExit { p with run := p.run + 1 } := by
  have leaving : Port.Leaving { p with run := p.run + 1 } (List.range numPins) :=
    { swept := congrArg (· + 1) settled.swept.symm
      semaphore := settled.semaphore
      registered := fun word run obj same => settled.swept ▸ settled.registered word run obj same
      handlers := fun pin handler =>
        have ⟨inUse, inside⟩ := settled.inUse pin handler
        ⟨inUse, List.mem_range.mpr inside, settled.handlers pin handler⟩
      joystick := settled.joystick
      buttons := settled.buttons }
  have setup : .machineSetup ∈ (softReset : List (Statement Obj)) := List.mem_cons_self
  have notDelete : .semaphoreDelete ∉ (softReset : List (Statement Obj)) := by
    simp [softReset, tildaInit0, buttonInit0]
  have deletion : ∀ {p : Port Obj}, p.Leaving [] → Throughout Port.exec Current Port.Settled
      ([.elsewhere .mpDeinit, .gcSweepAll] ++ softReset) (p.exec .semaphoreDelete) := by
    intro p torn
    refine ⟨torn.semaphoreDelete ⟨?_, ?_⟩ ?_, torn.semaphoreDelete ⟨?_, ?_⟩ ?_,
      torn.gcSweepAll.softReset rfl⟩
    · exact List.mem_cons_of_mem _ (List.mem_cons_of_mem _ setup)
    · simpa using notDelete
    · simp
    · exact List.mem_cons_of_mem _ setup
    · simpa using notDelete
    · exact List.mem_cons_self
  have teardown : ∀ {p : Port Obj}, p.Leaving [] → Throughout Port.exec Current Port.Settled
      ([.elsewhere .machineI2cTeardown, .elsewhere .machineSpiTeardown,
        .elsewhere .machineUartTeardown, .elsewhere .machinePwmTeardown,
        .elsewhere .machineAdcTeardown, .elsewhere .machineRtcTeardown, .semaphoreDelete] ++
          ([.elsewhere .mpDeinit, .gcSweepAll] ++ softReset)) p := by
    intro p torn
    refine ⟨?_, ?_, ?_, ?_, ?_, ?_, ?_, deletion torn⟩
    all_goals exact torn.current (by simp) (by simp)
  refine ⟨leaving.current (by simp [machineTeardown]) (by simp), ?_⟩
  rw [machineTeardown, List.append_assoc, machinePinTeardown]
  exact throughout_loop (I := fun pins p => p.Leaving pins) pinTeardown
    (fun leaving => leaving.pinTeardown (by simp) (by simp)) (fun torn => teardown torn)
    (List.range numPins) leaving

end TildaMk4.Reset
