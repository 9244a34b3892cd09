import TildaMk4.Reset.MpMain

/-!
# Calls and events that nothing disturbs

The statements of a call, executed without anything in between, do to the buttons what
the call does taken whole, and a TCA event that is handled without anything in between
schedules what it schedules taken whole and then wakes the interpreter if that is
something.
-/

namespace TildaMk4.Reset

open Buttons Program

variable {Obj : Type}

/-! ## Calls -/

namespace Port

theorem buttonCallback_of_ne (p : Port Obj) {button other : Nat} (differs : other ≠ button)
    (value : RootPointer Obj) :
    (p.setRootPointer (tildaButtonCallback button) value).buttonCallback other =
      p.buttonCallback other := by
  have elsewhere : tildaButtonCallback other ≠ tildaButtonCallback button := fun word =>
    differs (Nat.add_left_cancel word)
  rw [buttonCallback, setRootPointer_rootPointer_of_ne _ _ elsewhere]
  rfl

theorem buttonCallback_setRootPointer (p : Port Obj) (button : Button) (callback : Option Obj) :
    (fun other : Button =>
      (p.setRootPointer (tildaButtonCallback button) (p.registered callback)).buttonCallback other) =
    Function.update (fun other : Button => p.buttonCallback other) button
      (callback.map (.callback p.run)) := by
  funext other
  by_cases same : other = button
  · subst same
    rw [Function.update_self, buttonCallback, setRootPointer_rootPointer_self]
    cases callback <;> rfl
  · have differs : other.val ≠ button.val := fun equal => same (Fin.ext equal)
    rw [Function.update_of_ne same]
    exact p.buttonCallback_of_ne differs _

theorem modes_setModes (p : Port Obj) (button : Button) (modes : CallbackModes) :
    (fun other : Button => (p.setModes button modes).modes other) =
      Function.update (fun other : Button => p.modes other) button modes :=
  (Function.update_comp_eq_of_injective p.modes Fin.val_injective button modes)

theorem gpio_configure (p : Port Obj) (pin : Nat) (intRising intFalling : Bool)
    (callback : GpioCallback) :
    (execAll Port.exec [.setConfig pin intRising intFalling, .disableInt pin,
      .setCallback pin callback, .enableInt pin] p).gpio =
    Function.update p.gpio pin ⟨intRising, intFalling, true, some callback⟩ := by
  simp [execAll, Port.exec, Port.setGpio]

end Port

/-- All but `buttons` have been cleared, and no pin has been touched. -/
structure Cleared (p : Port Obj) (buttons : List Nat) (q : Port Obj) : Prop where
  callback : ∀ button < buttonsMax, button ∉ buttons → q.buttonCallback button = none
  modes : ∀ button < buttonsMax, button ∉ buttons → q.modes button = ⟨false, false⟩
  gpio : q.gpio = p.gpio

theorem Cleared.buttonInit0 {p q : Port Obj} {button : Nat} {buttons : List Nat}
    (cleared : Cleared p (button :: buttons) q) :
    Cleared p buttons (execAll Port.exec (buttonInit0 button) q) := by
  refine ⟨fun other inside done => ?_, fun other inside done => ?_, cleared.gpio⟩
  · change (q.setRootPointer (tildaButtonCallback button) .constNone).buttonCallback other = none
    by_cases same : other = button
    · subst same
      rw [Port.buttonCallback, Port.setRootPointer_rootPointer_self]
    · rw [q.buttonCallback_of_ne same]
      exact cleared.callback other inside (List.not_mem_cons_of_ne_of_not_mem same done)
  · change Function.update q.modes button ⟨false, false⟩ other = ⟨false, false⟩
    by_cases same : other = button
    · subst same
      exact Function.update_self ..
    · rw [Function.update_of_ne same]
      exact cleared.modes other inside (List.not_mem_cons_of_ne_of_not_mem same done)

namespace State

variable (s : State Obj)

/-- The state after the statements of a call. -/
def afterCall (program : List (Statement Obj)) : State Obj :=
  { s with port := execAll Port.exec program s.port }

theorem tilda_registerButtonCallback (button : Button) (callback : Option Obj)
    (onPress onRelease : Bool) :
    (s.afterCall (registerButtonCallback button callback onPress onRelease)).tilda =
      s.tilda.registerButtonCallback button (callback.map (.callback s.port.run))
        onPress onRelease := by
  have callbacks := s.port.buttonCallback_setRootPointer button callback
  have modes := s.port.modes_setModes button ⟨onPress, onRelease⟩
  unfold registerButtonCallback Tilda.registerButtonCallback
  by_cases onPin : joyCenter ≤ button.val
  · rw [if_pos onPin, if_pos onPin]
    exact (Tilda.mk.injEq ..).mpr ⟨rfl, rfl, callbacks, modes, Port.gpio_configure ..⟩
  · rw [if_neg onPin, if_neg onPin]
    exact (Tilda.mk.injEq ..).mpr ⟨rfl, rfl, callbacks, modes, rfl⟩

theorem tilda_unregisterButtonCallback (button : Button) :
    (s.afterCall (unregisterButtonCallback button)).tilda =
      s.tilda.unregisterButtonCallback button := by
  have callbacks := s.port.buttonCallback_setRootPointer button none
  have modes := s.port.modes_setModes button ⟨false, false⟩
  unfold unregisterButtonCallback Tilda.unregisterButtonCallback
  by_cases onPin : joyCenter ≤ button.val
  · rw [if_pos onPin, if_pos onPin]
    exact (Tilda.mk.injEq ..).mpr ⟨rfl, rfl, callbacks, modes, rfl⟩
  · rw [if_neg onPin, if_neg onPin]
    exact (Tilda.mk.injEq ..).mpr ⟨rfl, rfl, callbacks, modes, rfl⟩

theorem tilda_tildaInit0 : (s.afterCall tildaInit0).tilda = s.tilda.tildaInit0 := by
  have loop : Throughout Port.exec (fun _ _ => True) (Cleared s.port [])
      (tildaInit0 ++ []) s.port :=
    throughout_loop (I := Cleared s.port) buttonInit0
      (fun cleared => ⟨trivial, trivial, cleared.buttonInit0⟩) id (List.range buttonsMax)
      ⟨fun button inside done => absurd (List.mem_range.mpr inside) done,
        fun button inside done => absurd (List.mem_range.mpr inside) done, rfl⟩
  rw [List.append_nil] at loop
  have cleared := loop.after
  exact (Tilda.mk.injEq ..).mpr ⟨rfl, rfl,
    funext fun button => cleared.callback button button.isLt List.not_mem_nil,
    funext fun button => cleared.modes button button.isLt List.not_mem_nil, cleared.gpio⟩

end State

/-! ## A TCA event -/

/-- Steps of the tilda thread, one after the other, and what they use. -/
inductive Undisturbed (read : TcaRead) : State Obj → List (Use Obj) → State Obj → Prop
  | done (s : State Obj) : Undisturbed read s [] s
  | step {s s' t : State Obj} {uses later : List (Use Obj)} :
      s.threadStep read = some (s', some uses) → Undisturbed read s' later t →
      Undisturbed read s (uses ++ later) t

section Undisturbed

variable {read : TcaRead} {s t u : State Obj} {uses later : List (Use Obj)}

theorem Undisturbed.one (stepped : s.threadStep read = some (t, some uses)) :
    Undisturbed read s uses t := by
  have both := Undisturbed.step stepped (.done t)
  rwa [List.append_nil] at both

theorem Undisturbed.trans (first : Undisturbed read s uses t)
    (second : Undisturbed read t later u) : Undisturbed read s (uses ++ later) u := by
  induction first with
  | done => exact second
  | step stepped _ ih =>
    rw [List.append_assoc]
    exact .step stepped (ih second)

end Undisturbed

namespace State

variable (s : State Obj)

/-- The state with the thread somewhere else in its loop. -/
def standing (pc : ThreadPc) (scheduled : Bool) : State Obj :=
  { s with thread := { s.thread with pc := pc, scheduled := scheduled } }

/-- What `mp_sched_schedule` is called with. -/
def scheduled (calls : List (RootPointer Obj × TcaButton)) : List (Use Obj) :=
  calls.map fun call => .schedule call.1 s.port.swept

theorem rootPointer_of_buttonCallback {button : Nat} {callback : RootPointer Obj}
    (held : s.port.buttonCallback button = some callback) :
    s.port.rootPointer (Reset.tildaButtonCallback button) = callback := by
  unfold Port.buttonCallback at held
  split at held
  next => nomatch held
  next => exact Option.some.inj held

/-- The two tests of a round, each followed by what it schedules. -/
theorem tests (read : TcaRead) (button : TcaButton) (flag : Bool) {callback : RootPointer Obj}
    (held : s.port.buttonCallback button = some callback) :
    Undisturbed read (s.standing (.onPress button) flag) (s.scheduled (s.tilda.checkButton button))
      (s.standing (.after button) (flag || !(s.tilda.checkButton button).isEmpty)) := by
  have pointer := s.rootPointer_of_buttonCallback held
  have registered : s.tilda.tildaButtonCallback button.name = some callback := held
  have press : (s.standing (.schedulePress button) flag).threadStep read =
      some (s.standing (.onRelease button) true, some [.schedule callback s.port.swept]) := by
    rw [← pointer]
    rfl
  have release (flag : Bool) : (s.standing (.scheduleRelease button) flag).threadStep read =
      some (s.standing (.after button) true, some [.schedule callback s.port.swept]) := by
    rw [← pointer]
    rfl
  have testPress : (s.standing (.onPress button) flag).threadStep read =
      some (s.standing (if s.tilda.firesOnPress button then .schedulePress button
        else .onRelease button) flag, some []) := rfl
  have testRelease (flag : Bool) : (s.standing (.onRelease button) flag).threadStep read =
      some (s.standing (if s.tilda.firesOnRelease button then .scheduleRelease button
        else .after button) flag, some []) := rfl
  rw [Tilda.checkButton, registered]
  cases pressed : s.tilda.firesOnPress button <;> cases released : s.tilda.firesOnRelease button
  all_goals
    rw [pressed] at testPress
    simp only [released] at testRelease
  · simpa using .step testPress (.one (testRelease flag))
  · simpa using .step testPress (.step (testRelease flag) (.one (release flag)))
  · simpa using .step testPress (.step press (.one (testRelease true)))
  · simpa using .step testPress (.step press (.step (testRelease true) (.one (release true))))

theorem round (read : TcaRead) (button : TcaButton) (flag : Bool) :
    Undisturbed read (s.standing (.check button) flag) (s.scheduled (s.tilda.checkButton button))
      (s.standing (.after button) (flag || !(s.tilda.checkButton button).isEmpty)) := by
  have check : (s.standing (.check button) flag).threadStep read =
      some (s.standing (if (s.port.buttonCallback button).isSome then .onPress button
        else .after button) flag, some []) := rfl
  cases held : s.port.buttonCallback button with
  | none =>
    have unregistered : s.tilda.tildaButtonCallback button.name = none := held
    rw [held] at check
    rw [Tilda.checkButton, unregistered, List.isEmpty_nil, Bool.not_true, Bool.or_false]
    exact .one check
  | some callback =>
    rw [held] at check
    exact .step check (s.tests read button flag held)

theorem loop (read : TcaRead) (k : Nat) (flag : Bool) (inside : k ≤ joyCenter) :
    Undisturbed read
      (s.standing (if more : k < joyCenter then .check ⟨k, more⟩ else .wake) flag)
      (s.scheduled (((List.finRange joyCenter).drop k).flatMap s.tilda.checkButton))
      (s.standing .wake (flag ||
        !(((List.finRange joyCenter).drop k).flatMap s.tilda.checkButton).isEmpty)) := by
  induction left : joyCenter - k generalizing k flag with
  | zero =>
    obtain rfl : k = joyCenter := by omega
    rw [dif_neg (Nat.lt_irrefl _), List.drop_of_length_le (by rw [List.length_finRange])]
    rw [List.flatMap_nil, List.isEmpty_nil, Bool.not_true, Bool.or_false]
    exact .done _
  | succ left_ ih =>
    have more : k < joyCenter := by omega
    have split : (List.finRange joyCenter).drop k =
        ⟨k, more⟩ :: (List.finRange joyCenter).drop (k + 1) := by
      rw [List.drop_eq_getElem_cons (by rwa [List.length_finRange]), List.getElem_finRange]
      rfl
    have first := s.round read ⟨k, more⟩ flag
    have rest := ih (k + 1) (flag || !(s.tilda.checkButton ⟨k, more⟩).isEmpty) more (by omega)
    have both := first.trans rest
    have empty (first second : List (RootPointer Obj × TcaButton)) :
        (first ++ second).isEmpty = (first.isEmpty && second.isEmpty) := by
      cases first <;> rfl
    rw [dif_pos more, split, List.flatMap_cons, empty, Bool.not_and, ← Bool.or_assoc, scheduled,
      List.map_append]
    exact both

/-- A TCA event that nothing disturbs. -/
theorem undisturbed_handleTca (read : TcaRead) (idle : s.thread.pc = .pend)
    (posted : s.thread.tcaInt = true) : ∃ t : State Obj, t.tilda = (s.tilda.handleTca read).2 ∧
      t.thread.pc = .pend ∧ Undisturbed read s
        (s.scheduled (s.tilda.handleTca read).1 ++
          if (s.tilda.handleTca read).1.isEmpty then [] else [.post s.port.machineSleepSem]) t := by
  have pend : s.threadStep read = some (s.readTca read, some []) := by
    rw [threadStep, idle, posted]
    rfl
  have same : (s.readTca read).tilda = s.tilda.readTcaButtons read := by
    cases read <;> rfl
  have loop := (s.readTca read).loop read 0 false (Nat.zero_le _)
  have wake (flag : Bool) : ((s.readTca read).standing .wake flag).threadStep read =
      some ((s.readTca read).standing .pend flag,
        some (if flag then [.post s.port.machineSleepSem] else [])) := rfl
  rw [List.drop_zero, same, Bool.false_or] at loop
  have whole := Undisturbed.step pend (loop.trans (.one (wake _)))
  refine ⟨(s.readTca read).standing .pend !(s.tilda.handleTca read).1.isEmpty, same, rfl, ?_⟩
  rw [Tilda.handleTca]
  cases empty : ((List.finRange joyCenter).flatMap
      (s.tilda.readTcaButtons read).checkButton).isEmpty with
  | true =>
    rw [empty] at whole
    exact whole
  | false =>
    rw [empty] at whole
    exact whole

end State

end TildaMk4.Reset
