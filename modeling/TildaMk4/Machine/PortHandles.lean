import TildaMk4.Machine.Ports

/-!
# The handles of SPI, I2C and PWM

A port's field holds the handle that the driver has open on it, or `NULL` if there is
none. So the only call that can go wrong is an operation on a port that is not open.
-/

namespace TildaMk4.Machine

open Resources Transition

namespace Ports

variable {n : Nat} {Config Args Params Op : Type} {s : Ports n Config Params}

/-- The fields are the handles that are open. -/
def Synced (s : Ports n Config Params) : Prop :=
  ∀ port id, s.handle port = some id ↔ ∃ params, s.ledger.held id = some (port, params)

/-- What a part of an operation does: the fields stay in step with the ledger, which
records the calls of the driver. -/
structure Does (s s' : Ports n Config Params) (events : List (Event (Fin n × Params))) :
    Prop where
  synced : Synced s'
  keeps : Keeps s.ledger s'.ledger events

theorem Does.refl (synced : Synced s) : Does s s [] := ⟨synced, .refl _⟩

theorem Does.trans {first second third : Ports n Config Params}
    {events later : List (Event (Fin n × Params))} (does : Does first second events)
    (then_ : Does second third later) : Does first third (events ++ later) :=
  ⟨then_.synced, does.keeps.trans then_.keeps⟩

theorem closePort_handle (port : Fin n) :
    (s.closePort port).1.handle = Function.update s.handle port none := by
  rw [closePort]
  split
  next => rfl
  next closed => rw [← closed, Function.update_eq_self]

theorem closePort_closed (port : Fin n) : (s.closePort port).1.handle port = none := by
  rw [closePort_handle, Function.update_self]

theorem closePort_does (synced : Synced s) (port : Fin n) :
    Does s (s.closePort port).1 (s.closePort port).2 := by
  rw [closePort]
  split
  next handle opened =>
    obtain ⟨params, held⟩ := (synced port handle).mp opened
    refine ⟨fun other id => ?_, .release held⟩
    dsimp only
    by_cases closed : id = handle
    · rw [closed, Ledger.held_release_self]
      refine iff_of_false (fun kept => ?_) nofun
      by_cases same : other = port
      · rw [same, Function.update_self] at kept
        nomatch kept
      · rw [Function.update_of_ne same] at kept
        obtain ⟨params', held'⟩ := (synced other handle).mp kept
        rw [held] at held'
        exact same (congrArg Prod.fst (Option.some.inj held')).symm
    · rw [Ledger.held_release_of_ne closed, ← synced]
      by_cases same : other = port
      · rw [same, Function.update_self, opened]
        exact iff_of_false nofun fun still => closed (Option.some.inj still).symm
      · rw [Function.update_of_ne same]
  next => exact .refl synced

theorem isOpen_of_synced (synced : Synced s) {port : Fin n} (closed : s.handle port = none) :
    s.isOpen port = false := by
  rw [isOpen, List.any_eq_false]
  intro id _ held
  rw [Option.any_eq_true] at held
  obtain ⟨⟨other, params⟩, held, same⟩ := held
  obtain rfl : other = port := of_decide_eq_true same
  have opened := (synced other id).mpr ⟨params, held⟩
  rw [closed] at opened
  nomatch opened

/-- Opening a port whose field is `NULL`. -/
theorem openPort_does (synced : Synced s) {port : Fin n} (closed : s.handle port = none)
    (params : Params) (opens : Bool) :
    Does s (s.openPort port params opens).1 (s.openPort port params opens).2 := by
  rw [openPort, isOpen_of_synced synced closed]
  split
  next =>
    refine ⟨fun other id => ?_, .issue ..⟩
    dsimp only
    by_cases newest : id = s.ledger.issued
    · rw [newest, Ledger.held_issue_self]
      by_cases same : other = port
      · rw [same, Function.update_self]
        exact iff_of_true rfl ⟨params, rfl⟩
      · rw [Function.update_of_ne same]
        refine iff_of_false (fun opened => ?_) fun ⟨_, issued⟩ => ?_
        · obtain ⟨_, held⟩ := (synced other _).mp opened
          exact Nat.lt_irrefl _ (Ledger.lt_of_held held)
        · exact same (congrArg Prod.fst (Option.some.inj issued)).symm
    · have kept : (s.ledger.issue (port, params)).held id = s.ledger.held id :=
        Function.update_of_ne newest ..
      rw [kept, ← synced]
      by_cases same : other = port
      · rw [same, Function.update_self, closed]
        exact iff_of_false (fun issued => newest (Option.some.inj issued).symm) nofun
      · rw [Function.update_of_ne same]
  next =>
    have unchanged : Function.update s.handle port none = s.handle := by
      rw [← closed, Function.update_eq_self]
    refine ⟨fun other id => ?_, .refl _⟩
    rw [unchanged]
    exact synced other id

section Driver

variable (drv : PortDriver Config Args Params Op)

theorem initHelper_does (synced : Synced s) (port : Fin n) (args : Option Args) (opens : Bool) :
    Does s (s.initHelper drv port args opens).1 (s.initHelper drv port args opens).2 := by
  cases args with
  | none => exact .refl synced
  | some args =>
    have configured : Synced { s with
        config := Function.update s.config port (drv.configure (s.config port) args) } := synced
    have closed := closePort_does configured port
    have opened := openPort_does closed.synced (closePort_closed port)
      (drv.params (drv.configure (s.config port) args)) opens
    have both := closed.trans opened
    rw [initHelper]
    dsimp only
    split
    next started =>
      obtain ⟨-, some_⟩ := Bool.and_eq_true_iff.mp started
      obtain ⟨handle, field⟩ := Option.isSome_iff_exists.mp some_
      obtain ⟨params, held⟩ := (opened.synced port handle).mp field
      rw [field]
      exact ⟨both.synced, both.keeps.trans (.use held)⟩
    next =>
      rw [List.append_nil]
      exact ⟨both.synced, both.keeps⟩

theorem makeNew_does (synced : Synced s) (id : Int) (args : Option (Option Args)) (opens : Bool) :
    Does s (s.makeNew drv id args opens).1 (s.makeNew drv id args opens).2 := by
  rw [makeNew]
  split
  next =>
    cases args with
    | some args => exact initHelper_does drv synced _ args opens
    | none =>
      dsimp only
      split
      next => exact initHelper_does drv synced _ _ opens
      next => exact .refl synced
  next => exact .refl synced

theorem closePorts_does (synced : Synced s) (ports : List (Fin n)) :
    Does s (s.closePorts ports).1 (s.closePorts ports).2 ∧
      ∀ port, port ∈ ports ∨ s.handle port = none → (s.closePorts ports).1.handle port = none := by
  induction ports generalizing s with
  | nil => exact ⟨.refl synced, fun port closed => closed.resolve_left List.not_mem_nil⟩
  | cons first rest ih =>
    have closed := closePort_does synced first
    obtain ⟨later, all⟩ := ih closed.synced
    refine ⟨closed.trans later, fun port before => all port ?_⟩
    rw [closePort_handle]
    by_cases same : port = first
    · rw [same, Function.update_self]
      exact .inr rfl
    · rw [Function.update_of_ne same]
      exact before.imp (fun member => (List.mem_cons.mp member).resolve_left same) id

theorem teardown_does (synced : Synced s) :
    Does s s.teardown.1 s.teardown.2 ∧ ∀ id, s.teardown.1.ledger.held id = none := by
  obtain ⟨does, all⟩ := closePorts_does synced (List.finRange n)
  refine ⟨does, fun id => Option.eq_none_iff_forall_ne_some.mpr fun ⟨port, params⟩ held => ?_⟩
  have opened := (does.synced port id).mpr ⟨params, held⟩
  rw [all port (.inl (List.mem_finRange port))] at opened
  nomatch opened

/-- An operation that calls the driver is on a port that is open. -/
def Admits (s : Ports n Config Params) : PortAct n Args Op → Prop
  | .operate port op => drv.calls op ≠ 0 → s.handle port ≠ none
  | .makeNew _ _ _ | .init _ _ _ | .deinit _ | .teardown => True

theorem operate_does (synced : Synced s) {port : Fin n} {op : Op}
    (admitted : drv.calls op ≠ 0 → s.handle port ≠ none) :
    Does s (s.operate drv port op).1 (s.operate drv port op).2 := by
  refine ⟨synced, ?_⟩
  rw [operate]
  by_cases silent : drv.calls op = 0
  · rw [silent]
    exact .refl _
  · obtain ⟨handle, field⟩ := Option.ne_none_iff_exists'.mp (admitted silent)
    obtain ⟨params, held⟩ := (synced port handle).mp field
    rw [field]
    exact .uses held _

theorem perform_does (synced : Synced s) {act : PortAct n Args Op} (admitted : Admits drv s act) :
    Does s (s.perform drv act).1 (s.perform drv act).2 := by
  cases act with
  | makeNew id args opens => exact makeNew_does drv synced id args opens
  | init port args opens => exact initHelper_does drv synced port args opens
  | deinit port => exact .refl synced
  | operate port op => exact operate_does drv synced admitted
  | teardown => exact (teardown_does synced).1

/-- The handles of a module are used only while they are open, in the runs that
operate only on open ports, and in no other. -/
theorem respects : Respects (system drv) (start drv : Ports n Config Params) (·.ledger)
    (· = .teardown) (fun _ _ => True) (Admits drv) := by
  refine respects_of_steps Synced (fun _ _ => iff_of_false nofun fun ⟨_, held⟩ => nomatch held) rfl
    ?_ (fun _ => trivial) ?_ ?_
  · rintro s act s' events stepped rfl
    nomatch stepped
  · intro s act s' events synced stepped admitted
    cases stepped
    have does := perform_does drv synced admitted
    refine ⟨does.synced, does.keeps, fun down => ?_⟩
    rw [down]
    exact (teardown_does synced).2
  · intro s act s' events trace synced tracks stepped _ lawful _
    cases stepped
    cases act with
    | operate port op =>
      intro calls closed
      have allowed := Ledger.allowsAll_of_lawful tracks lawful fun id info member =>
        nomatch List.eq_of_mem_replicate member
      obtain ⟨count, calls⟩ := Nat.exists_eq_succ_of_ne_zero calls
      rw [perform, operate, calls, closed, List.replicate_succ] at allowed
      obtain ⟨handle, _, missing, -⟩ := allowed.1
      nomatch missing
    | makeNew id args opens => trivial
    | init port args opens => trivial
    | deinit port => trivial
    | teardown => trivial

end Driver

end Ports

end TildaMk4.Machine
