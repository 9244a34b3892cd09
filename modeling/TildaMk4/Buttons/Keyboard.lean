import TildaMk4.Buttons.Keypad

/-!
# The keyboard

The 16 buttons on the port expander and the six on GPIO pins are one keyboard: a change of any
button schedules what the button is registered for, and nothing else is ever scheduled.
-/

namespace TildaMk4.Buttons

open Transition

variable {Obj : Type}

/-- The buttons on GPIO pins, in the order of the pins. -/
abbrev GpioButton := Fin 6

def GpioButton.name (index : GpioButton) : Button := index.natAdd joyCenter

/-- `button - Buttons_JOY_Center` -/
def Button.pin (button : Button) : GpioButton :=
  ⟨button.val - joyCenter, by
    have bound : button.val < 22 := button.isLt
    change button.val - 16 < 6
    omega⟩

/-- What may happen to the buttons: what the keypad knows, and a pin that takes a level. -/
inductive BoardAct (Obj : Type)
  | keypad (act : KeypadAct Obj)
  | level (index : GpioButton) (high : Bool)

/-- The static variables, and what `GPIO_read` finds. -/
structure Board (Obj : Type) where
  tilda : Tilda Obj
  gpioRead : GpioButton → Bool

/-- What is passed to `mp_sched_schedule`, and whether `machine_sleep_sem` is posted. -/
structure Wake (Obj : Type) where
  scheduled : List (Obj × Button)
  posted : Bool

namespace Board

variable (s : Board Obj)

def getButtonState (button : Button) : Bool :=
  if tca : button.val < joyCenter then !portBit s.tilda.buttonState ⟨button, tca⟩
  else if button.val < btnMenu then s.gpioRead button.pin
  else !s.gpioRead button.pin

def getAllButtonStates : UInt32 :=
  (List.finRange buttonsMax).foldl (fun allButtonStates button =>
    allButtonStates ||| (s.getButtonState button).toUInt32 <<< UInt32.ofNat button) 0

/-- Whether or not there is a callback, the semaphore is posted. -/
def tildaGpioCallback (index : GpioButton) : Wake Obj where
  scheduled := ((s.tilda.tildaButtonCallback index.name).map (·, index.name)).toList
  posted := true

/-- A pin interrupts at the edges in its configuration. -/
def interrupts (index : GpioButton) (high : Bool) : Bool :=
  let pin := s.tilda.gpio index
  pin.intEnabled && (if high then pin.intRising else pin.intFalling) &&
    pin.callback = some .tildaGpioCallback

def takeLevel (index : GpioButton) (high : Bool) : Wake Obj × Board Obj :=
  (if s.gpioRead index ≠ high ∧ s.interrupts index high = true then s.tildaGpioCallback index
    else ⟨[], false⟩,
    { s with gpioRead := Function.update s.gpioRead index high })

def perform : BoardAct Obj → Wake Obj × Board Obj
  | .keypad act =>
    let (scheduled, tilda) := s.tilda.perform act
    (⟨scheduled.map fun call => (call.1, call.2.name), !scheduled.isEmpty⟩, { s with tilda })
  | .level index high => s.takeLevel index high

def machine : Machine (Board Obj) (BoardAct Obj) (Wake Obj) where
  perform := perform

/-- `tilda_init0` and the first read of the thread. -/
def start (readBuffer : UInt8 × UInt8) : Board Obj :=
  { s with tilda := s.tilda.tildaInit0.initialRead readBuffer }

end Board

/-- Which buttons are down, and who waits for which change of theirs. -/
structure Keyboard (Obj : Type) where
  pressed : Button → Bool
  registration : Button → Registration Obj

/-- The transfer of a read does not fail. -/
def BoardAct.Readable (act : BoardAct Obj) : Prop := act ≠ .keypad (.tca none)

/-- What is seen of a button, and what was before where nothing is. -/
def BoardAct.seen (before : Button → Bool) : BoardAct Obj → Button → Bool
  | .keypad act, button =>
    match act.portRead with
    | none => before button
    | some value =>
      if tca : button.val < joyCenter then !portBit value ⟨button, tca⟩ else before button
  | .level index high, button =>
    if button = index.name then (if button.val = btnMenu then !high else high) else before button

def BoardAct.registers (button : Button) : BoardAct Obj → Option (Registration Obj)
  | .keypad act => act.registers button
  | .level .. => none

namespace Keyboard

variable (k : Keyboard Obj)

/-- The callback that the change of a button to `now` is registered for. -/
def response (button : Button) (now : Bool) : Option Obj :=
  let modes := (k.registration button).2
  if modes.onPress && (!k.pressed button && now) || modes.onRelease && (k.pressed button && !now)
  then (k.registration button).1 else none

def perform (act : BoardAct Obj) : List (Obj × Button) × Keyboard Obj :=
  let now := act.seen k.pressed
  ((List.finRange buttonsMax).flatMap fun button =>
      ((k.response button (now button)).map (·, button)).toList,
    ⟨now, fun button => (act.registers button).getD (k.registration button)⟩)

def machine : Machine (Keyboard Obj) (BoardAct Obj) (List (Obj × Button)) where
  perform := perform

end Keyboard

/-- The pin of a button with a callback is set up for what the button is registered for. -/
def Tilda.WiredAt (t : Tilda Obj) (index : GpioButton) : Prop :=
  t.tildaButtonCallback index.name ≠ none →
    t.gpio index = Tilda.buttonPin index.name (t.tildaButtonCallbackModes index.name).onPress
      (t.tildaButtonCallbackModes index.name).onRelease

namespace Board

variable (s : Board Obj)

def keyboard : Keyboard Obj := ⟨s.getButtonState, s.tilda.registration⟩

/-- The pin of every button is set up for its callback. -/
def Wired : Prop := ∀ index : GpioButton, s.tilda.WiredAt index

theorem getButtonState_tca (button : TcaButton) :
    s.getButtonState button.name = !portBit s.tilda.buttonState button :=
  dif_pos button.isLt

theorem getButtonState_gpio (index : GpioButton) : s.getButtonState index.name =
    if index.name.val = btnMenu then !s.gpioRead index else s.gpioRead index := by
  have high : ¬index.name.val < joyCenter := Nat.not_lt.mpr (Nat.le_add_right 16 index)
  have pin : Button.pin index.name = index := Fin.ext (Nat.add_sub_cancel_left ..)
  rw [getButtonState, dif_neg high, pin]
  by_cases menu : index.name.val = btnMenu
  · rw [if_neg (by rw [menu]; exact Nat.lt_irrefl _), if_pos menu]
  · have below : index.name.val < btnMenu :=
      Nat.lt_of_le_of_ne (Nat.le_of_lt_succ index.name.isLt) menu
    rw [if_pos below, if_neg menu]

end Board

/-- Every button is of one kind or of the other. -/
theorem button_cases (button : Button) :
    (∃ tca : TcaButton, button = tca.name) ∨ ∃ index : GpioButton, button = index.name := by
  rcases Nat.lt_or_ge button.val joyCenter with low | high
  · exact .inl ⟨⟨button, low⟩, rfl⟩
  · exact .inr ⟨Button.pin button, Fin.ext (Nat.add_sub_of_le high).symm⟩

theorem name_ne_name (tca : TcaButton) (index : GpioButton) : tca.name ≠ index.name := by
  intro same
  have below : index.name.val < joyCenter := by
    rw [← same]
    exact tca.isLt
  exact Nat.not_lt.mpr (Nat.le_add_right 16 index.val) below

theorem finRange_buttonsMax : List.finRange buttonsMax =
    (List.finRange joyCenter).map TcaButton.name ++ (List.finRange 6).map GpioButton.name := by
  decide

section Seen

variable (before : Button → Bool)

theorem seen_tca (value : UInt16) {act : KeypadAct Obj} (read : act.portRead = some value)
    (button : TcaButton) :
    (BoardAct.keypad act).seen before button.name = !portBit value button := by
  rw [BoardAct.seen, read]
  exact dif_pos button.isLt

theorem seen_gpio (act : KeypadAct Obj) (index : GpioButton) :
    (BoardAct.keypad act).seen before index.name = before index.name := by
  have high : ¬index.name.val < joyCenter := Nat.not_lt.mpr (Nat.le_add_right 16 index)
  rw [BoardAct.seen]
  cases act.portRead with
  | none => rfl
  | some value => exact dif_neg high

end Seen

section Response

variable (k : Keyboard Obj)

/-- A button that does not change schedules nothing. -/
theorem response_unchanged (button : Button) : k.response button (k.pressed button) = none := by
  rw [Keyboard.response]
  cases k.pressed button <;> simp

/-- Where one button is seen, it is the only one to respond. -/
theorem flatMap_response (now : Button → Bool) (button : Button)
    (others : ∀ other, other ≠ button → now other = k.pressed other) :
    ((List.finRange buttonsMax).flatMap fun other =>
      ((k.response other (now other)).map (·, other)).toList) =
        ((k.response button (now button)).map (·, button)).toList := by
  have alone (other : Button) : ((k.response other (now other)).map (·, other)).toList =
      if other = button then ((k.response button (now button)).map (·, button)).toList else [] := by
    split
    next same => rw [same]
    next differs =>
      rw [others other differs, response_unchanged]
      rfl
  rw [funext alone, Tilda.flatMap_single button _ _ (List.nodup_finRange _),
    if_pos (List.mem_finRange button)]

/-- Where the port is read, its buttons respond in their order. -/
theorem flatMap_response_tca (now : Button → Bool)
    (others : ∀ index : GpioButton, now index.name = k.pressed index.name) :
    ((List.finRange buttonsMax).flatMap fun button =>
      ((k.response button (now button)).map (·, button)).toList) =
        (List.finRange joyCenter).flatMap fun button : TcaButton =>
          ((k.response button.name (now button.name)).map (·, button.name)).toList := by
  have silent : ((List.finRange 6).flatMap fun index : GpioButton =>
      ((k.response index.name (now index.name)).map (·, index.name)).toList) = [] := by
    refine List.flatMap_eq_nil_iff.mpr fun index _ => ?_
    rw [others, response_unchanged]
    rfl
  rw [finRange_buttonsMax, List.flatMap_append, List.flatMap_map, List.flatMap_map, silent,
    List.append_nil]

end Response

namespace Board

variable (s : Board Obj)

/-- The two tests of the thread are the response to the new level of a button. -/
theorem edge_eq_response (new : UInt16) (button : TcaButton) :
    edge (s.tilda.registration button.name) s.tilda.buttonState new button =
      s.keyboard.response button.name (!portBit new button) := by
  have before : s.keyboard.pressed button.name = !portBit s.tilda.buttonState button :=
    s.getButtonState_tca button
  rw [Keyboard.response, before, edge]
  cases portBit s.tilda.buttonState button <;> cases portBit new button <;> simp [keyboard]

/-- With the pin wired, the handler of an interrupt is the response to the new level. -/
theorem scheduled_takeLevel (wired : s.Wired) (index : GpioButton) (high : Bool) :
    (s.takeLevel index high).1.scheduled =
      ((s.keyboard.response index.name (if index.name.val = btnMenu then !high else high)).map
        (·, index.name)).toList := by
  have before : s.keyboard.pressed index.name = _ := s.getButtonState_gpio index
  cases waiting : s.tilda.tildaButtonCallback index.name with
  | none =>
    have silent : s.keyboard.response index.name
        (if index.name.val = btnMenu then !high else high) = none := by
      have unregistered : (s.keyboard.registration index.name).1 = none := waiting
      rw [Keyboard.response, unregistered, ite_self]
    rw [takeLevel, silent, tildaGpioCallback, waiting]
    split <;> rfl
  | some callback =>
    have pin := wired index (by rw [waiting]; exact Option.some_ne_none callback)
    have registered : (s.keyboard.registration index.name).1 = some callback := waiting
    have modes : (s.keyboard.registration index.name).2 =
      s.tilda.tildaButtonCallbackModes index.name := rfl
    rw [takeLevel, interrupts, pin, Keyboard.response, registered, before, modes,
      tildaGpioCallback, waiting, Tilda.buttonPin]
    -- The menu button is low when it is pressed: its edges are the other way round.
    by_cases menu : index.name.val = btnMenu
    · simp only [menu]
      cases s.gpioRead index <;> cases high <;>
        cases (s.tilda.tildaButtonCallbackModes index.name).onPress <;>
        cases (s.tilda.tildaButtonCallbackModes index.name).onRelease <;> rfl
    · simp only [menu]
      cases s.gpioRead index <;> cases high <;>
        cases (s.tilda.tildaButtonCallbackModes index.name).onPress <;>
        cases (s.tilda.tildaButtonCallbackModes index.name).onRelease <;> rfl

end Board

section Calls

variable {t : Tilda Obj} {index : GpioButton}

theorem wiredAt_setCallback {button : Button} (differs : index.name ≠ button)
    (callback : Option Obj) (modes : CallbackModes) (wired : t.WiredAt index) :
    (t.setCallback button callback modes).WiredAt index := by
  have callback_ : (t.setCallback button callback modes).tildaButtonCallback index.name =
    t.tildaButtonCallback index.name := Function.update_of_ne differs _ _
  have modes_ : (t.setCallback button callback modes).tildaButtonCallbackModes index.name =
    t.tildaButtonCallbackModes index.name := Function.update_of_ne differs _ _
  rw [Tilda.WiredAt, callback_, modes_]
  exact wired

theorem wiredAt_setGpio {button : Button} (high : joyCenter ≤ button.val)
    (differs : index.name ≠ button) (pin : GpioPin) (wired : t.WiredAt index) :
    (t.setGpio (button.val - joyCenter) pin).WiredAt index := by
  have apart : index.val ≠ button.val - joyCenter := by
    intro same
    refine differs (Fin.ext ?_)
    change joyCenter + index.val = button.val
    omega
  have gpio : (t.setGpio (button.val - joyCenter) pin).gpio index = t.gpio index :=
    Function.update_of_ne apart _ _
  rw [Tilda.WiredAt, gpio]
  exact wired

theorem wiredAt_registerButtonCallback (button : Button) (callback : Option Obj)
    (onPress onRelease : Bool) (wired : t.WiredAt index) :
    (t.registerButtonCallback button callback onPress onRelease).WiredAt index := by
  by_cases same : index.name = button
  · subst same
    have high : joyCenter ≤ index.name.val := Nat.le_add_right 16 index
    have pin : index.name.val - joyCenter = index.val := Nat.add_sub_cancel_left ..
    intro _
    rw [Tilda.registerButtonCallback, if_pos high, pin]
    simp [Tilda.setGpio, Tilda.setCallback]
  · rw [Tilda.registerButtonCallback]
    split
    next high => exact wiredAt_setGpio high same _ (wiredAt_setCallback same _ _ wired)
    next => exact wiredAt_setCallback same _ _ wired

theorem wiredAt_unregisterButtonCallback (button : Button) (wired : t.WiredAt index) :
    (t.unregisterButtonCallback button).WiredAt index := by
  by_cases same : index.name = button
  · subst same
    intro waiting
    refine absurd ?_ waiting
    rw [Tilda.unregisterButtonCallback]
    split <;> exact Function.update_self ..
  · rw [Tilda.unregisterButtonCallback]
    split
    next high => exact wiredAt_setGpio high same _ (wiredAt_setCallback same _ _ wired)
    next => exact wiredAt_setCallback same _ _ wired

end Calls

namespace Board

/-- What the pins of the buttons are set up for is kept by every call. -/
theorem Wired.perform {s : Board Obj} (wired : s.Wired) (act : BoardAct Obj) :
    (s.perform act).2.Wired := by
  intro index
  cases act with
  | level index high => exact wired _
  | keypad act =>
    cases act with
    | tca read => cases read <;> exact wired index
    | init0 => exact fun waiting => absurd rfl waiting
    | register button callback onPress onRelease =>
      exact wiredAt_registerButtonCallback button callback onPress onRelease (wired index)
    | unregister button => exact wiredAt_unregisterButtonCallback button (wired index)

/-- After every call the buttons are pressed and registered as the keyboard has them. -/
theorem keyboard_perform (s : Board Obj) (act : BoardAct Obj) :
    (s.perform act).2.keyboard = (s.keyboard.perform act).2 := by
  have pressed : (s.perform act).2.getButtonState = act.seen s.getButtonState := by
    funext button
    rcases button_cases button with ⟨tca, rfl⟩ | ⟨index, rfl⟩
    · rw [getButtonState_tca]
      cases act with
      | keypad act =>
        have state : (s.perform (.keypad act)).2.tilda.buttonState = _ :=
          s.tilda.buttonState_perform act
        rw [state]
        cases read : act.portRead with
        | none =>
          rw [BoardAct.seen, read]
          exact (s.getButtonState_tca tca).symm
        | some value => exact (seen_tca _ value read tca).symm
      | level index high =>
        rw [BoardAct.seen, if_neg (name_ne_name tca index)]
        exact (s.getButtonState_tca tca).symm
    · rw [getButtonState_gpio]
      cases act with
      | keypad act =>
        rw [seen_gpio]
        exact (s.getButtonState_gpio index).symm
      | level other high =>
        change (if index.name.val = btnMenu then !Function.update s.gpioRead other high index
          else Function.update s.gpioRead other high index) = _
        by_cases same : index = other
        · subst same
          rw [Function.update_self, BoardAct.seen, if_pos rfl]
        · have apart : index.name ≠ other.name := fun names =>
            same (Fin.natAdd_inj joyCenter |>.mp names)
          rw [Function.update_of_ne same, BoardAct.seen, if_neg apart]
          exact (s.getButtonState_gpio index).symm
  have registration : (s.perform act).2.tilda.registration =
      fun button => (act.registers button).getD (s.tilda.registration button) := by
    funext button
    cases act with
    | keypad act => exact s.tilda.registration_perform button act
    | level index high => rfl
  rw [keyboard, pressed, registration]
  rfl

/-- Unless a read fails, every call schedules what the keyboard responds. -/
theorem scheduled_perform {s : Board Obj} (wired : s.Wired) {act : BoardAct Obj}
    (readable : act.Readable) : (s.perform act).1.scheduled = (s.keyboard.perform act).1 := by
  have unseen (act : KeypadAct Obj) (unread : act.portRead = none) :
      ((List.finRange buttonsMax).flatMap fun button => ((s.keyboard.response button
        ((BoardAct.keypad act).seen s.keyboard.pressed button)).map (·, button)).toList) = [] := by
    refine List.flatMap_eq_nil_iff.mpr fun button _ => ?_
    rw [BoardAct.seen, unread, response_unchanged]
    rfl
  cases act with
  | level index high =>
    have alone := flatMap_response s.keyboard
      ((BoardAct.level index high : BoardAct Obj).seen s.keyboard.pressed) index.name
      fun other differs => if_neg differs
    rw [BoardAct.seen, if_pos rfl] at alone
    exact (s.scheduled_takeLevel wired index high).trans alone.symm
  | keypad act =>
    cases act with
    | tca read =>
      cases read with
      | none => exact absurd rfl readable
      | some readBuffer =>
        have read : (KeypadAct.tca (some readBuffer) : KeypadAct Obj).portRead =
          some (portValue readBuffer) := rfl
        have round (button : TcaButton) :
            ((s.tilda.readTcaButtons (some readBuffer)).checkButton button).map
                (fun call => (call.1, TcaButton.name call.2)) =
              ((s.keyboard.response button.name ((BoardAct.keypad (.tca (some readBuffer)) :
                BoardAct Obj).seen s.keyboard.pressed button.name)).map
                  (·, button.name)).toList := by
          rw [Tilda.checkButton_of_read, edge_eq_response, seen_tca _ _ read]
          cases s.keyboard.response button.name _ <;> rfl
        refine Eq.trans ?_ (flatMap_response_tca s.keyboard _ fun index =>
          seen_gpio s.keyboard.pressed _ index).symm
        rw [← funext round]
        exact List.map_flatMap ..
    | register button callback onPress onRelease => exact (unseen _ rfl).symm
    | unregister button => exact (unseen _ rfl).symm
    | init0 => exact (unseen _ rfl).symm

/-- Nothing is scheduled without waking the thread that runs it. -/
theorem posted_perform (s : Board Obj) (act : BoardAct Obj) :
    (s.perform act).1.scheduled ≠ [] → (s.perform act).1.posted = true := by
  intro scheduled
  cases act with
  | keypad act =>
    change (!List.isEmpty _) = true
    rw [Bool.not_eq_true', List.isEmpty_eq_false_iff]
    exact fun nothing => scheduled (List.map_eq_nil_iff.mpr nothing)
  | level index high =>
    change (Prod.fst (s.takeLevel index high)).scheduled ≠ [] at scheduled
    change (Prod.fst (s.takeLevel index high)).posted = true
    rw [takeLevel] at scheduled ⊢
    split at scheduled
    next fires => rw [if_pos fires]; rfl
    next => exact absurd rfl scheduled

end Board

section States

/-- The bit that the round of a button sets. -/
theorem testBit_shiftLeft (on : Bool) (button bit : Button) :
    (on.toUInt32 <<< UInt32.ofNat button).toNat.testBit bit = (on && decide (button = bit)) := by
  have small : button.val < 22 := button.isLt
  have shift : button.val % 2 ^ 32 % 32 = button.val := by
    rw [Nat.mod_eq_of_lt (by omega), Nat.mod_eq_of_lt (by omega)]
  have fits : 2 ^ button.val < 2 ^ 32 := Nat.pow_lt_pow_right (by decide) (by omega)
  cases on with
  | false => simp [Bool.toUInt32]
  | true =>
    have value : ((true.toUInt32 <<< UInt32.ofNat button).toNat) = 2 ^ button.val := by
      rw [UInt32.toNat_shiftLeft, UInt32.toNat_ofNat', shift]
      change 1 <<< button.val % 2 ^ 32 = _
      rw [Nat.one_shiftLeft, Nat.mod_eq_of_lt fits]
    rw [value, Nat.testBit_two_pow]
    simp [Fin.ext_iff]

theorem testBit_foldl_or (on : Button → Bool) (bit : Button) (buttons : List Button) :
    ∀ states : UInt32, (buttons.foldl (fun states button =>
      states ||| (on button).toUInt32 <<< UInt32.ofNat button) states).toNat.testBit bit =
        (states.toNat.testBit bit || (decide (bit ∈ buttons) && on bit)) := by
  induction buttons with
  | nil => simp
  | cons button rest ih =>
    intro states
    rw [List.foldl_cons, ih, UInt32.toNat_or, Nat.testBit_or, testBit_shiftLeft]
    by_cases same : button = bit
    · subst same
      cases states.toNat.testBit button <;> cases on button <;> simp
    · have differs : bit ≠ button := fun equal => same equal.symm
      simp [same, differs]

theorem testBit_getAllButtonStates (s : Board Obj) (button : Button) :
    s.getAllButtonStates.toNat.testBit button = s.getButtonState button := by
  rw [Board.getAllButtonStates, testBit_foldl_or]
  simp

end States

/-- The keyboard that is behind the two kinds of buttons: from the start of the thread on, and
as long as no read of the port expander fails, every act schedules what the keyboard responds
to it, the sleeping thread is woken with it, and the states that are read are the keyboard's. -/
theorem keyboard_refines (powerUp : Board Obj) (readBuffer : UInt8 × UInt8)
    (acts : List (BoardAct Obj)) (readable : ∀ act ∈ acts, act.Readable) :
    (Board.machine.answers (powerUp.start readBuffer) acts).map Wake.scheduled =
        Keyboard.machine.answers (powerUp.start readBuffer).keyboard acts ∧
      (∀ wake ∈ Board.machine.answers (powerUp.start readBuffer) acts,
        wake.scheduled ≠ [] → wake.posted = true) ∧
      ∀ button : Button,
        (Board.machine.after (powerUp.start readBuffer) acts).getAllButtonStates.toNat.testBit button =
          (Keyboard.machine.after (powerUp.start readBuffer).keyboard acts).pressed button := by
  have wired : (powerUp.start readBuffer).Wired := fun _ waiting => absurd rfl waiting
  have step (s : Board Obj) (k : Keyboard Obj) (act : BoardAct Obj)
      (related : s.Wired ∧ s.keyboard = k) (readable : act.Readable) :
      Machine.Simulates (Board.machine.mapOut Wake.scheduled) Keyboard.machine
        (fun s k => s.Wired ∧ s.keyboard = k) s k act := by
    obtain ⟨wired, rfl⟩ := related
    exact ⟨Board.scheduled_perform wired readable, wired.perform act, s.keyboard_perform act⟩
  obtain ⟨answers, -, after⟩ :=
    Machine.answers_eq_of_simulates_allowed step acts readable ⟨wired, rfl⟩
  rw [Machine.answers_mapOut] at answers
  rw [Machine.after_mapOut] at after
  refine ⟨answers, Machine.forall_mem_answers _ Board.posted_perform acts, fun button => ?_⟩
  rw [testBit_getAllButtonStates, ← after]
  rfl

/-- Button 0 on the port expander and the menu button are registered and pressed. -/
def bothPressed : List (BoardAct Unit) :=
  [.keypad (.register 0 (some ()) true false), .keypad (.register 21 (some ()) true false),
    .keypad (.tca (some (0xfe, 0xff))), .level 5 false, .level 5 true]

/-- The board at power-up: every pin is high. -/
def poweredBoard : Board Unit := ⟨Tilda.powerUp, fun _ => true⟩

theorem keyboard_refines_pressed :
    (Board.machine.answers (poweredBoard.start (0xff, 0xff)) bothPressed).map Wake.scheduled =
      [[], [], [((), 0)], [((), 21)], []] := by
  have readable : ∀ act ∈ bothPressed, act.Readable := by
    simp [bothPressed, BoardAct.Readable]
  rw [(keyboard_refines poweredBoard (0xff, 0xff) bothPressed readable).1]
  rfl

end TildaMk4.Buttons
