import TildaMk4.Lib.Transition
import TildaMk4.Buttons.TildaThread

/-!
# Keypad edges

A TCA event whose read succeeds schedules one callback for each button that changed
in a direction it is registered for. The comparison also runs after a failed read:
it then repeats the last edges, unless none of them is registered
(`FailuresQuiet`).
-/

namespace TildaMk4.Buttons

open Transition

variable {Obj : Type}

/-- What may happen to the keypad: a TCA event, and the calls that change the
callbacks. -/
inductive KeypadAct (Obj : Type)
  | tca (read : TcaRead)
  | register (button : Button) (callback : Option Obj) (onPress onRelease : Bool)
  | unregister (button : Button)
  | init0

/-- What is scheduled, and the state after it. -/
def Tilda.perform (s : Tilda Obj) : KeypadAct Obj → List (Obj × TcaButton) × Tilda Obj
  | .tca read => s.handleTca read
  | .register button callback onPress onRelease =>
    ([], s.registerButtonCallback button callback onPress onRelease)
  | .unregister button => ([], s.unregisterButtonCallback button)
  | .init0 => ([], s.tildaInit0)

def Tilda.machine : Machine (Tilda Obj) (KeypadAct Obj) (List (Obj × TcaButton)) where
  perform := Tilda.perform

/-- A button's callback and the directions it is registered for. -/
abbrev Registration (Obj : Type) := Option Obj × CallbackModes

/-- The callback that a change of the port from `old` to `new` is registered for. -/
def edge (registration : Registration Obj) (old new : UInt16) (button : TcaButton) : Option Obj :=
  let pressed := portBit old button && !portBit new button
  let released := !portBit old button && portBit new button
  if registration.2.onPress && pressed || registration.2.onRelease && released then registration.1
  else none

namespace KeypadAct

/-- The port value of a successful read. -/
def portRead : KeypadAct Obj → Option UInt16
  | tca read => read.map portValue
  | register .. | unregister _ | init0 => none

/-- The registration that a call makes for a button. -/
def registers (button : Button) : KeypadAct Obj → Option (Registration Obj)
  | tca _ => none
  | register other callback onPress onRelease =>
    if other = button then some (callback, ⟨onPress, onRelease⟩) else none
  | unregister other => if other = button then some (none, ⟨false, false⟩) else none
  | init0 => some (none, ⟨false, false⟩)

end KeypadAct

/-- The last value that was read successfully. -/
def lastRead (initial : UInt16) (acts : List (KeypadAct Obj)) : UInt16 :=
  acts.foldl (fun value act => act.portRead.getD value) initial

/-- The last registration of a button. -/
def lastRegistration (button : Button) (initial : Registration Obj)
    (acts : List (KeypadAct Obj)) : Registration Obj :=
  acts.foldl (fun registration act => (act.registers button).getD registration) initial

namespace Tilda

variable (s : Tilda Obj)

def registration (button : Button) : Registration Obj :=
  (s.tildaButtonCallback button, s.tildaButtonCallbackModes button)

/-- Every TCA event of the run schedules, for each button, the callback that the
change since the last successful read is registered for, and nothing if its own
read fails. -/
def EdgesOnce (acts : List (KeypadAct Obj)) : Prop :=
  ∀ before read after, acts = before ++ .tca read :: after → ∀ button : TcaButton,
    ((machine.after s before).perform (.tca read)).1.filter (·.2 = button) =
      match read with
      | none => []
      | some readBuffer =>
        ((edge (lastRegistration button.name (s.registration button.name) before)
          (lastRead s.buttonState before) (portValue readBuffer) button).map (·, button)).toList

/-- At each failed read of the run, no button is registered for a change between the
last two successful reads. -/
def FailuresQuiet (acts : List (KeypadAct Obj)) : Prop :=
  ∀ before after, acts = before ++ .tca none :: after → ∀ button : TcaButton,
    edge ((machine.after s before).registration button.name)
      (machine.after s before).lastButtonState (machine.after s before).buttonState button = none

theorem registration_setCallback_getD (button other : Button) (callback : Option Obj)
    (modes : CallbackModes) : (s.setCallback other callback modes).registration button =
      (if other = button then some (callback, modes) else none).getD (s.registration button) := by
  by_cases same : other = button
  · subst same
    simp [registration, setCallback]
  · have differs : button ≠ other := fun equal => same equal.symm
    simp [registration, setCallback, same, differs]

theorem registration_perform (button : Button) (act : KeypadAct Obj) :
    (s.perform act).2.registration button =
      (act.registers button).getD (s.registration button) := by
  cases act with
  | tca read => cases read <;> rfl
  | register other callback onPress onRelease =>
    have unframed : (s.registerButtonCallback other callback onPress onRelease).registration button =
        (s.setCallback other callback ⟨onPress, onRelease⟩).registration button := by
      unfold registerButtonCallback
      split <;> rfl
    exact unframed.trans (s.registration_setCallback_getD button other _ _)
  | unregister other =>
    have unframed : (s.unregisterButtonCallback other).registration button =
        (s.setCallback other none ⟨false, false⟩).registration button := by
      unfold unregisterButtonCallback
      split <;> rfl
    exact unframed.trans (s.registration_setCallback_getD button other _ _)
  | init0 => rfl

theorem buttonState_perform (act : KeypadAct Obj) :
    (s.perform act).2.buttonState = act.portRead.getD s.buttonState := by
  cases act with
  | tca read => cases read <;> rfl
  | register other callback onPress onRelease =>
    change (s.registerButtonCallback other callback onPress onRelease).buttonState = s.buttonState
    unfold registerButtonCallback
    split <;> rfl
  | unregister other =>
    change (s.unregisterButtonCallback other).buttonState = s.buttonState
    unfold unregisterButtonCallback
    split <;> rfl
  | init0 => rfl

theorem registration_after (button : Button) (acts : List (KeypadAct Obj)) :
    (machine.after s acts).registration button =
      lastRegistration button (s.registration button) acts :=
  machine.after_eq_foldl (·.registration button)
    (fun registration act => (act.registers button).getD registration)
    (fun s act => s.registration_perform button act) acts s

theorem buttonState_after (acts : List (KeypadAct Obj)) :
    (machine.after s acts).buttonState = lastRead s.buttonState acts :=
  machine.after_eq_foldl (·.buttonState) (fun value act => act.portRead.getD value)
    (fun s act => s.buttonState_perform act) acts s

/-- The two tests of a round are the two directions of an edge, at most one of which
can hold. -/
theorem checkButton_eq_edge (button : TcaButton) :
    s.checkButton button = ((edge (s.registration button.name) s.lastButtonState s.buttonState
      button).map (·, button)).toList := by
  unfold checkButton edge registration firesOnPress firesOnRelease
  cases s.tildaButtonCallback button.name with
  | none => simp
  | some callback =>
    cases portBit s.lastButtonState button <;> cases portBit s.buttonState button <;>
      cases (s.tildaButtonCallbackModes button.name).onPress <;>
      cases (s.tildaButtonCallbackModes button.name).onRelease <;> rfl

theorem filter_checkButton (button other : TcaButton) :
    (s.checkButton other).filter (·.2 = button) =
      if other = button then s.checkButton button else [] := by
  rw [checkButton_eq_edge, checkButton_eq_edge]
  by_cases same : other = button
  · subst same
    cases edge (s.registration other.name) s.lastButtonState s.buttonState other <;> simp
  · cases edge (s.registration other.name) s.lastButtonState s.buttonState other <;> simp [same]

/-- Of a loop over distinct indices, one index sees its own round only. -/
theorem flatMap_single {Index Item : Type} [DecidableEq Index] (index : Index) (items : List Item)
    (indices : List Index) (distinct : indices.Nodup) :
    (indices.flatMap fun other => if other = index then items else []) =
      if index ∈ indices then items else [] := by
  induction indices with
  | nil => simp
  | cons first rest inductionHypothesis =>
    obtain ⟨fresh, distinctRest⟩ := List.nodup_cons.mp distinct
    rw [List.flatMap_cons, inductionHypothesis distinctRest]
    by_cases same : first = index
    · subst same
      simp [fresh]
    · have differs : index ≠ first := fun equal => same equal.symm
      simp [same, differs]

theorem filter_handleTca (read : TcaRead) (button : TcaButton) :
    (s.handleTca read).1.filter (·.2 = button) = (s.readTcaButtons read).checkButton button := by
  change ((List.finRange joyCenter).flatMap (s.readTcaButtons read).checkButton).filter
    (·.2 = button) = _
  rw [List.filter_flatMap]
  simp only [filter_checkButton]
  rw [flatMap_single button _ _ (List.nodup_finRange _), if_pos (List.mem_finRange button)]

theorem checkButton_of_read (readBuffer : UInt8 × UInt8) (button : TcaButton) :
    (s.readTcaButtons (some readBuffer)).checkButton button =
      ((edge (s.registration button.name) s.buttonState (portValue readBuffer)
        button).map (·, button)).toList :=
  checkButton_eq_edge (s.readTcaButtons (some readBuffer)) button

theorem checkButton_eq_nil_iff (button : TcaButton) :
    s.checkButton button = [] ↔
      edge (s.registration button.name) s.lastButtonState s.buttonState button = none := by
  rw [checkButton_eq_edge]
  cases edge (s.registration button.name) s.lastButtonState s.buttonState button <;> simp

/-- From the first read of the thread on, every edge is delivered once exactly when no
read fails while a button is registered for the last edges. -/
theorem edgesOnce_iff (readBuffer : UInt8 × UInt8) (acts : List (KeypadAct Obj)) :
    (s.initialRead readBuffer).EdgesOnce acts ↔ (s.initialRead readBuffer).FailuresQuiet acts := by
  constructor
  · intro once before after split button
    have nothing := once before none after split button
    rw [perform, filter_handleTca] at nothing
    exact (checkButton_eq_nil_iff _ button).mp nothing
  · intro quiet before read after split button
    rw [perform, filter_handleTca]
    cases read with
    | none => exact (checkButton_eq_nil_iff _ button).mpr (quiet before after split button)
    | some readBuffer =>
      rw [checkButton_of_read, registration_after, buttonState_after]

/-- The thread at power-up, with no callback. -/
def powerUp : Tilda Obj where
  buttonState := 0
  lastButtonState := 0
  tildaButtonCallback := fun _ => none
  tildaButtonCallbackModes := fun _ => ⟨false, false⟩
  gpio := fun _ => ⟨false, false, false, none⟩

/-- Button 0 is registered for presses and pressed, and then a read fails. -/
def pressThenFailure : List (KeypadAct Unit) :=
  [.register 0 (some ()) true false, .tca (some (0xfe, 0xff)), .tca none]

theorem edgesOnce_fails : ¬(powerUp.initialRead (0xff, 0xff)).EdgesOnce pressThenFailure := by
  intro once
  have nothing := once (pressThenFailure.take 2) none [] rfl 0
  exact absurd nothing (by decide)

end Tilda

end TildaMk4.Buttons
