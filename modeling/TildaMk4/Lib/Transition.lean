import Mathlib.Data.Option.Basic
import Mathlib.Data.List.Basic

/-!
# Labelled transition systems with a history

A system takes deterministic steps that are chosen by a label; all the
nondeterminism of an interleaving is in the labels. A step may be refused and
may emit one observation. `Run` is the unbounded semantics; `exec` follows one
list of labels and is its executable counterpart. A `Machine` is the
deterministic case, where an operation always answers.
-/

namespace TildaMk4.Transition

universe u v w

section History

variable {Obs : Type w}

/-- Every observation of a history stands in `P` to the history before it. -/
def Along (P : List Obs → Obs → Prop) (history : List Obs) : Prop :=
  ∀ before o after, history = before ++ o :: after → P before o

theorem along_nil (P : List Obs → Obs → Prop) : Along P [] :=
  fun before _ _ split => absurd split.symm (List.append_ne_nil_of_right_ne_nil before nofun)

theorem Along.append {P : List Obs → Obs → Prop} {history : List Obs} (along : Along P history)
    {emitted : Option Obs} (last : ∀ o, emitted = some o → P history o) :
    Along P (history ++ emitted.toList) := by
  intro before o after split
  cases emitted with
  | none => exact along before o after (by simpa using split)
  | some e =>
    rcases List.eq_nil_or_concat after with rfl | ⟨after', e', rfl⟩
    · obtain ⟨rfl, same⟩ := List.append_inj' split rfl
      exact last o (congrArg _ (List.head_eq_of_cons_eq same))
    · rw [List.concat_eq_append, ← List.cons_append, ← List.append_assoc] at split
      exact along before o after' (List.append_inj' split rfl).1

theorem Along.concat {P : List Obs → Obs → Prop} {history : List Obs} (along : Along P history)
    {o : Obs} (last : P history o) : Along P (history ++ [o]) := by
  refine along.append (fun _ same => ?_ : ∀ o', some o = some o' → P history o')
  exact Option.some.inj same ▸ last

theorem along_concat {P : List Obs → Obs → Prop} {history : List Obs} {o : Obs} :
    Along P (history ++ [o]) ↔ Along P history ∧ P history o := by
  refine ⟨fun along => ⟨fun before o' after split => ?_, along history o [] rfl⟩,
    fun along => along.1.concat along.2⟩
  exact along before o' (after ++ [o]) (by rw [split, List.append_assoc, List.cons_append])

end History

/-- The steps of a system: `none` refuses the label in that state. -/
structure System (State : Type u) (Act : Type v) (Obs : Type w) where
  step : State → Act → Option (State × Option Obs)

namespace System

variable {State : Type u} {Act : Type v} {Obs : Type w}

/-- The runs from `start` all of whose steps satisfy `ok` in the state they are
taken from, with the observations in the order they were emitted. -/
inductive Run (sys : System State Act Obs) (ok : State → Act → Prop) (start : State) :
    List Obs → State → Prop where
  | start : Run sys ok start [] start
  | next {history s a s' emitted} : Run sys ok start history s → ok s a →
      sys.step s a = some (s', emitted) → Run sys ok start (history ++ emitted.toList) s'

variable {sys : System State Act Obs} {ok ok' : State → Act → Prop} {start : State}

/-- The induction over a run, stated once: an invariant of the start that every
admitted step keeps holds throughout. -/
theorem Run.invariant (Inv : List Obs → State → Prop) (base : Inv [] start)
    (keep : ∀ {history s a s' emitted}, Inv history s → ok s a →
      sys.step s a = some (s', emitted) → Inv (history ++ emitted.toList) s')
    {history : List Obs} {s : State} (run : sys.Run ok start history s) : Inv history s := by
  induction run with
  | start => exact base
  | next _ admitted stepped ih => exact keep ih admitted stepped

theorem Run.mono (weaker : ∀ s a, ok s a → ok' s a) {history : List Obs} {s : State}
    (run : sys.Run ok start history s) : sys.Run ok' start history s := by
  induction run with
  | start => exact .start
  | next _ admitted stepped ih => exact .next ih (weaker _ _ admitted) stepped

/-- Follow a list of labels, stopping with `none` at the first label that is
refused or not admitted. -/
def exec (sys : System State Act Obs) (ok : State → Act → Prop)
    [∀ s a, Decidable (ok s a)] (history : List Obs) (s : State) :
    List Act → Option (List Obs × State)
  | [] => some (history, s)
  | a :: rest =>
    if ok s a then
      match sys.step s a with
      | some (s', emitted) => exec sys ok (history ++ emitted.toList) s' rest
      | none => none
    else none

theorem Run.exec [∀ s a, Decidable (ok s a)] {history : List Obs} {s : State}
    (run : sys.Run ok start history s) (labels : List Act) {result : List Obs × State}
    (done : sys.exec ok history s labels = some result) :
    sys.Run ok start result.1 result.2 := by
  induction labels generalizing history s with
  | nil =>
    cases done
    exact run
  | cons a rest ih =>
    simp only [System.exec] at done
    split at done
    next admitted =>
      split at done
      next s' emitted stepped => exact ih (run.next admitted stepped) done
      next => cases done
    next => cases done

/-- A run is exhibited by executing it: if the check passes on the result of a
list of labels, some run ends in a result that passes it. -/
theorem exists_run_of_exec (sys : System State Act Obs) (ok : State → Act → Prop)
    [∀ s a, Decidable (ok s a)] (start : State) (labels : List Act)
    (check : List Obs × State → Bool)
    (passed : (sys.exec ok [] start labels).any check = true) :
    ∃ history s, sys.Run ok start history s ∧ check (history, s) = true := by
  obtain ⟨⟨history, s⟩, done, checked⟩ := (Option.any_eq_true _ _).mp passed
  exact ⟨history, s, Run.start.exec labels done, checked⟩

/-- The runs of `ok` steps observe only what is `good`, and where a run of any steps has
come to, a next step observes only what is `good` if and only if it is `ok`. -/
def Characterises (sys : System State Act Obs) (start : State) (ok : State → Act → Prop)
    (good : Obs → Prop) : Prop :=
  (∀ history s, sys.Run ok start history s → ∀ o ∈ history, good o) ∧
    ∀ history s, sys.Run (fun _ _ => True) start history s →
      ∀ a s' emitted, sys.step s a = some (s', emitted) →
        ((∀ o, emitted = some o → good o) ↔ ok s a)

/-- An invariant of all steps under which a step is `ok` exactly if it observes only
what is `good`. -/
theorem characterises_of_invariant {good : Obs → Prop} (Inv : State → Prop) (base : Inv start)
    (keep : ∀ {s a s' emitted}, Inv s → sys.step s a = some (s', emitted) → Inv s')
    (decided : ∀ {s a s' emitted}, Inv s → sys.step s a = some (s', emitted) →
      ((∀ o, emitted = some o → good o) ↔ ok s a)) : sys.Characterises start ok good := by
  refine ⟨fun history s run => ?_, fun history s run a s' emitted stepped => ?_⟩
  · refine (run.invariant (fun history s => Inv s ∧ ∀ o ∈ history, good o)
      ⟨base, nofun⟩ ?_).2
    intro history s a s' emitted ⟨inv, all⟩ admitted stepped
    refine ⟨keep inv stepped, fun o member => ?_⟩
    rcases List.mem_append.mp member with earlier | last
    · exact all o earlier
    · exact (decided inv stepped).mpr admitted o (Option.mem_toList.mp last)
  · exact decided (run.invariant (fun _ s => Inv s) base fun inv _ stepped => keep inv stepped)
      stepped

/-- As far as the steps are `ok` the observations are `good`, and the first step that is
not `ok` observes something that is not. -/
def Separates (sys : System State Act Obs) (start : State) (ok : State → Act → Prop)
    (good : Obs → Prop) : Prop :=
  ∀ history s, sys.Run ok start history s → (∀ o ∈ history, good o) ∧
    ∀ a s' emitted, sys.step s a = some (s', emitted) →
      ((∀ o, emitted = some o → good o) ↔ ok s a)

/-- An invariant of the `ok` steps under which a step is `ok` exactly if it observes only
what is `good`. -/
theorem separates_of_invariant {good : Obs → Prop} (Inv : State → Prop) (base : Inv start)
    (keep : ∀ {s a s' emitted}, Inv s → ok s a → sys.step s a = some (s', emitted) → Inv s')
    (decided : ∀ {s a s' emitted}, Inv s → sys.step s a = some (s', emitted) →
      ((∀ o, emitted = some o → good o) ↔ ok s a)) : sys.Separates start ok good := by
  intro history s run
  have reached := run.invariant (fun history s => Inv s ∧ ∀ o ∈ history, good o) ⟨base, nofun⟩ ?_
  · exact ⟨reached.2, fun _ _ _ stepped => decided reached.1 stepped⟩
  · intro history s a s' emitted ⟨inv, all⟩ admitted stepped
    refine ⟨keep inv admitted stepped, fun o member => ?_⟩
    rcases List.mem_append.mp member with earlier | last
    · exact all o earlier
    · exact (decided inv stepped).mpr admitted o (Option.mem_toList.mp last)

/-- As far as the steps are `ok` the observations are `good`, and there a step that is
`judged` is `ok` exactly if it observes only what is `good`. -/
def SeparatesOn (sys : System State Act Obs) (start : State) (ok : State → Act → Prop)
    (judged : Act → Prop) (good : Obs → Prop) : Prop :=
  ∀ history s, sys.Run ok start history s → (∀ o ∈ history, good o) ∧
    ∀ a, judged a → ∀ s' emitted, sys.step s a = some (s', emitted) →
      ((∀ o, emitted = some o → good o) ↔ ok s a)

/-- An invariant of the `ok` steps under which they observe only what is `good`, and a
`judged` step that does so is `ok`. -/
theorem separatesOn_of_invariant {judged : Act → Prop} {good : Obs → Prop} (Inv : State → Prop)
    (base : Inv start)
    (keep : ∀ {s a s' emitted}, Inv s → ok s a → sys.step s a = some (s', emitted) → Inv s')
    (sound : ∀ {s a s' emitted}, Inv s → ok s a → sys.step s a = some (s', emitted) →
      ∀ o, emitted = some o → good o)
    (exact_ : ∀ {s a s' emitted}, Inv s → judged a → sys.step s a = some (s', emitted) →
      (∀ o, emitted = some o → good o) → ok s a) :
    sys.SeparatesOn start ok judged good := by
  intro history s run
  have reached := run.invariant (fun history s => Inv s ∧ ∀ o ∈ history, good o) ⟨base, nofun⟩ ?_
  · obtain ⟨inv, all⟩ := reached
    exact ⟨all, fun a chosen _ _ stepped =>
      ⟨exact_ inv chosen stepped, fun admitted => sound inv admitted stepped⟩⟩
  · intro history s a s' emitted ⟨inv, all⟩ admitted stepped
    refine ⟨keep inv admitted stepped, fun o member => ?_⟩
    rcases List.mem_append.mp member with earlier | last
    · exact all o earlier
    · exact sound inv admitted stepped o (Option.mem_toList.mp last)

end System

/-- A deterministic machine: every operation gives an answer and a next state. -/
structure Machine (State : Type u) (Op : Type v) (Out : Type w) where
  perform : State → Op → Out × State

namespace Machine

variable {State State' : Type u} {Op : Type v} {Out : Type w}

def answers (machine : Machine State Op Out) (s : State) : List Op → List Out
  | [] => []
  | op :: rest => (machine.perform s op).1 :: machine.answers (machine.perform s op).2 rest

def after (machine : Machine State Op Out) (s : State) : List Op → State
  | [] => s
  | op :: rest => machine.after (machine.perform s op).2 rest

theorem after_cons (machine : Machine State Op Out) (s : State) (op : Op) (rest : List Op) :
    machine.after s (op :: rest) = machine.after (machine.perform s op).2 rest := rfl

theorem after_append (machine : Machine State Op Out) (ops more : List Op) :
    ∀ s, machine.after s (ops ++ more) = machine.after (machine.after s ops) more := by
  induction ops with
  | nil => exact fun _ => rfl
  | cons op rest ih => exact fun s => ih (machine.perform s op).2

theorem answers_append (machine : Machine State Op Out) (ops more : List Op) :
    ∀ s, machine.answers s (ops ++ more) =
      machine.answers s ops ++ machine.answers (machine.after s ops) more := by
  induction ops with
  | nil => exact fun _ => rfl
  | cons op rest ih => exact fun s => congrArg (List.cons _) (ih (machine.perform s op).2)

/-- The machine with a part of each answer. -/
def mapOut {Out' : Type w} (machine : Machine State Op Out) (f : Out → Out') :
    Machine State Op Out' where
  perform s op := (f (machine.perform s op).1, (machine.perform s op).2)

theorem answers_mapOut {Out' : Type w} (machine : Machine State Op Out) (f : Out → Out')
    (ops : List Op) : ∀ s, (machine.mapOut f).answers s ops = (machine.answers s ops).map f := by
  induction ops with
  | nil => exact fun _ => rfl
  | cons op rest ih => exact fun s => congrArg (List.cons _) (ih (machine.perform s op).2)

theorem after_mapOut {Out' : Type w} (machine : Machine State Op Out) (f : Out → Out')
    (ops : List Op) : ∀ s, (machine.mapOut f).after s ops = machine.after s ops := by
  induction ops with
  | nil => exact fun _ => rfl
  | cons op rest ih => exact fun s => ih (machine.perform s op).2

/-- `left` in `s` and `right` in `t` answer `op` alike and stay related. -/
def Simulates (left : Machine State Op Out) (right : Machine State' Op Out)
    (related : State → State' → Prop) (s : State) (t : State') (op : Op) : Prop :=
  (left.perform s op).1 = (right.perform t op).1 ∧
    related (left.perform s op).2 (right.perform t op).2

/-- Two machines that answer every operation alike from related states cannot be
told apart by any sequence of operations. -/
theorem answers_eq_of_simulates {left : Machine State Op Out} {right : Machine State' Op Out}
    {related : State → State' → Prop}
    (step : ∀ s t op, related s t → Simulates left right related s t op) (ops : List Op) :
    ∀ {s : State} {t : State'}, related s t →
      left.answers s ops = right.answers t ops ∧
        related (left.after s ops) (right.after t ops) := by
  induction ops with
  | nil => exact fun same => ⟨rfl, same⟩
  | cons op rest ih =>
    intro s t same
    obtain ⟨answer, next⟩ := step s t op same
    obtain ⟨answers, after⟩ := ih next
    exact ⟨congrArg₂ List.cons answer answers, after⟩

/-- The same where only the allowed operations are answered alike. -/
theorem answers_eq_of_simulates_allowed {left : Machine State Op Out}
    {right : Machine State' Op Out} {related : State → State' → Prop} {allowed : Op → Prop}
    (step : ∀ s t op, related s t → allowed op → Simulates left right related s t op)
    (ops : List Op) : ∀ {s : State} {t : State'}, (∀ op ∈ ops, allowed op) → related s t →
      left.answers s ops = right.answers t ops ∧
        related (left.after s ops) (right.after t ops) := by
  induction ops with
  | nil => exact fun _ same => ⟨rfl, same⟩
  | cons op rest ih =>
    intro s t all same
    obtain ⟨permitted, others⟩ := List.forall_mem_cons.mp all
    obtain ⟨answer, next⟩ := step s t op same permitted
    obtain ⟨answers, after⟩ := ih others next
    exact ⟨congrArg₂ List.cons answer answers, after⟩

theorem forall_mem_answers (machine : Machine State Op Out) {P : Out → Prop}
    (each : ∀ s op, P (machine.perform s op).1) (ops : List Op) :
    ∀ {s}, ∀ o ∈ machine.answers s ops, P o := by
  induction ops with
  | nil => exact nofun
  | cons op rest ih => exact fun {s} => List.forall_mem_cons.mpr ⟨each s op, ih⟩

/-- The induction over the outputs of a sequence of operations: what every
operation keeps, of the outputs so far and the state, the sequence keeps. -/
theorem outputs_keep {Obs : Type w} (machine : Machine State Op (List Obs))
    (Inv : List Obs → State → Prop)
    (keep : ∀ {sent s} op, Inv sent s →
      Inv (sent ++ (machine.perform s op).1) (machine.perform s op).2) (ops : List Op) :
    ∀ {sent s}, Inv sent s → Inv (sent ++ (machine.answers s ops).flatten) (machine.after s ops) := by
  induction ops with
  | nil =>
    intro sent s holds
    simpa only [answers, after, List.flatten_nil, List.append_nil] using holds
  | cons op rest ih =>
    intro sent s holds
    have held := ih (keep op holds)
    rwa [List.append_assoc] at held

theorem after_keep (machine : Machine State Op Out) (Inv : State → Prop)
    (keep : ∀ {s} op, Inv s → Inv (machine.perform s op).2) (ops : List Op) :
    ∀ {s}, Inv s → Inv (machine.after s ops) := by
  induction ops with
  | nil => exact fun holds => holds
  | cons op rest ih => exact fun holds => ih (keep op holds)

/-- Bounded response: where something waits, an operation without an answer keeps it waiting and
does not raise the rank, and one that serves lowers it; then as many serving operations as the
rank, and one more, bring an answer. -/
theorem response_within {Obs : Type w} (machine : Machine State Op (List Obs))
    (Waiting : State → Prop) (rank : State → Nat) (serves : Op → Bool) (allowed : Op → Prop)
    (answered : Obs → Prop)
    (progress : ∀ {s} op, Waiting s → allowed op → (∀ o ∈ (machine.perform s op).1, ¬answered o) →
      Waiting (machine.perform s op).2 ∧ rank (machine.perform s op).2 ≤ rank s ∧
        (serves op = true → rank (machine.perform s op).2 < rank s)) (ops : List Op) :
    ∀ {s}, (∀ op ∈ ops, allowed op) → Waiting s → rank s < ops.countP serves →
      ∃ o ∈ (machine.answers s ops).flatten, answered o := by
  induction ops with
  | nil => exact fun _ _ few => absurd few (Nat.not_lt_zero _)
  | cons op rest ih =>
    intro s all waiting many
    obtain ⟨permitted, others⟩ := List.forall_mem_cons.mp all
    by_cases silent : ∀ o ∈ (machine.perform s op).1, ¬answered o
    · obtain ⟨still, lower, nearer⟩ := progress op waiting permitted silent
      have enough : rank (machine.perform s op).2 < rest.countP serves := by
        rw [List.countP_cons] at many
        split at many
        next serving => exact Nat.lt_of_lt_of_le (nearer serving) (Nat.le_of_lt_succ many)
        next => exact Nat.lt_of_le_of_lt lower many
      obtain ⟨o, member, answer⟩ := ih others still enough
      exact ⟨o, List.mem_append_right _ member, answer⟩
    · simp only [not_forall, not_not, exists_prop] at silent
      obtain ⟨o, member, answer⟩ := silent
      exact ⟨o, List.mem_append_left _ member, answer⟩

/-- Every operation satisfies `P` in the state that it is performed in. -/
def EachStep (machine : Machine State Op Out) (P : State → Op → Prop) (s : State) :
    List Op → Prop
  | [] => True
  | op :: rest => P s op ∧ machine.EachStep P (machine.perform s op).2 rest

/-- Two properties of the steps hold along the same sequences, if an invariant of the steps
with the second one makes them equivalent. -/
theorem eachStep_iff_of_keep (machine : Machine State Op Out) {P Q : State → Op → Prop}
    (Inv : State → Prop) (keep : ∀ {s} op, Inv s → Q s op → Inv (machine.perform s op).2)
    (decided : ∀ {s} op, Inv s → (P s op ↔ Q s op)) (ops : List Op) :
    ∀ {s}, Inv s → (machine.EachStep P s ops ↔ machine.EachStep Q s ops) := by
  induction ops with
  | nil => exact fun _ => Iff.rfl
  | cons op rest ih =>
    intro s holds
    constructor
    · rintro ⟨here, later⟩
      have step := (decided op holds).mp here
      exact ⟨step, (ih (keep op holds step)).mp later⟩
    · rintro ⟨step, later⟩
      exact ⟨(decided op holds).mpr step, (ih (keep op holds step)).mpr later⟩

theorem eachStep_iff_of_invariant (machine : Machine State Op Out) {P Q : State → Op → Prop}
    (Inv : State → Prop) (keep : ∀ {s} op, Inv s → Inv (machine.perform s op).2)
    (decided : ∀ {s} op, Inv s → (P s op ↔ Q s op)) (ops : List Op) :
    ∀ {s}, Inv s → (machine.EachStep P s ops ↔ machine.EachStep Q s ops) :=
  eachStep_iff_of_keep machine Inv (fun op holds _ => keep op holds) decided ops

theorem EachStep.append {machine : Machine State Op Out} {P : State → Op → Prop} {op : Op}
    (ops : List Op) : ∀ {s}, machine.EachStep P s (ops ++ [op]) → P (machine.after s ops) op := by
  induction ops with
  | nil => exact fun each => each.1
  | cons first rest ih => exact fun each => ih each.2

/-- What is read of the state follows the operations on its own, if each of them
determines it from what was read before. -/
theorem after_eq_foldl {Value : Type w} (machine : Machine State Op Out) (read : State → Value)
    (update : Value → Op → Value)
    (step : ∀ s op, read (machine.perform s op).2 = update (read s) op) (ops : List Op) (s : State) :
    read (machine.after s ops) = ops.foldl update (read s) := by
  induction ops generalizing s with
  | nil => rfl
  | cons op rest ih =>
    have later := ih (machine.perform s op).2
    rw [step] at later
    exact later

/-- Some sequence of allowed operations leads from `s` into `Q`. -/
def Reaches (machine : Machine State Op Out) (allowed : Op → Prop) (Q : State → Prop)
    (s : State) : Prop :=
  ∃ ops, (∀ op ∈ ops, allowed op) ∧ Q (machine.after s ops)

section Reaches

variable {machine : Machine State Op Out} {allowed : Op → Prop} {Q : State → Prop} {s : State}

theorem Reaches.here (holds : Q s) : machine.Reaches allowed Q s :=
  ⟨[], nofun, holds⟩

theorem Reaches.step {op : Op} (permitted : allowed op)
    (rest : machine.Reaches allowed Q (machine.perform s op).2) : machine.Reaches allowed Q s := by
  obtain ⟨ops, all, holds⟩ := rest
  exact ⟨op :: ops, List.forall_mem_cons.mpr ⟨permitted, all⟩, holds⟩

theorem Reaches.bind {P : State → Prop} (first : machine.Reaches allowed P s)
    (second : ∀ {t}, P t → machine.Reaches allowed Q t) : machine.Reaches allowed Q s := by
  obtain ⟨ops, all, holds⟩ := first
  induction ops generalizing s with
  | nil => exact second holds
  | cons op rest inductionHypothesis =>
    obtain ⟨permitted, others⟩ := List.forall_mem_cons.mp all
    exact .step permitted (inductionHypothesis others holds)

/-- An invariant of the allowed operations that excludes `Q` is a trap. -/
theorem not_reaches_of_keep (Inv : State → Prop)
    (keep : ∀ {s} op, allowed op → Inv s → Inv (machine.perform s op).2)
    (excludes : ∀ {s}, Inv s → ¬Q s) (holds : Inv s) : ¬machine.Reaches allowed Q s := by
  rintro ⟨ops, all, reached⟩
  have kept : ∀ {s}, Inv s → Inv (machine.after s ops) := by
    clear reached holds
    induction ops with
    | nil => exact fun holds => holds
    | cons op rest inductionHypothesis =>
      obtain ⟨permitted, others⟩ := List.forall_mem_cons.mp all
      exact fun holds => inductionHypothesis others (keep op permitted holds)
  exact excludes (kept holds) reached

end Reaches

section Repetition

variable {Obs : Type w} (machine : Machine State Op (List Obs)) (op : Op)

/-- The state after `count` repetitions of `op`. -/
def repeated (s : State) (count : Nat) : State := machine.after s (List.replicate count op)

/-- What `count` repetitions of `op` emit. -/
def emitted (s : State) (count : Nat) : List Obs :=
  (machine.answers s (List.replicate count op)).flatten

theorem repeated_succ (s : State) (count : Nat) : machine.repeated op s (count + 1) =
    machine.repeated op (machine.perform s op).2 count := rfl

theorem emitted_succ (s : State) (count : Nat) : machine.emitted op s (count + 1) =
    (machine.perform s op).1 ++ machine.emitted op (machine.perform s op).2 count := rfl

theorem repeated_add (count more : Nat) : ∀ s, machine.repeated op s (count + more) =
    machine.repeated op (machine.repeated op s count) more := by
  induction count with
  | zero =>
    intro s
    rw [Nat.zero_add]
    rfl
  | succ count ih =>
    intro s
    rw [Nat.succ_add]
    exact ih (machine.perform s op).2

theorem emitted_add (count more : Nat) : ∀ s, machine.emitted op s (count + more) =
    machine.emitted op s count ++ machine.emitted op (machine.repeated op s count) more := by
  induction count with
  | zero =>
    intro s
    rw [Nat.zero_add]
    rfl
  | succ count ih =>
    intro s
    rw [Nat.succ_add]
    rw [emitted_succ, emitted_succ, ih, List.append_assoc, repeated_succ]

/-- From `P`, `count` repetitions of `op` emit `sent` and end in `Q`, and every
state before the end satisfies `during`. -/
structure Leads (during : State → Prop) (count : Nat) (P : State → Prop) (sent : List Obs)
    (Q : State → Prop) : Prop where
  emits : ∀ {s}, P s → machine.emitted op s count = sent
  ends : ∀ {s}, P s → Q (machine.repeated op s count)
  stays : ∀ {s}, P s → ∀ k < count, during (machine.repeated op s k)

variable {machine op} {during P Q R : State → Prop} {count more : Nat} {sent later : List Obs}

theorem Leads.refl : machine.Leads op during 0 P [] P where
  emits _ := rfl
  ends holds := holds
  stays _ _ impossible := absurd impossible (Nat.not_lt_zero _)

theorem Leads.one
    (step : ∀ {s}, P s → during s ∧ ∃ s', machine.perform s op = (sent, s') ∧ Q s') :
    machine.Leads op during 1 P sent Q where
  emits holds := by
    obtain ⟨_, s', performed, _⟩ := step holds
    exact (List.append_nil _).trans (congrArg Prod.fst performed)
  ends holds := by
    obtain ⟨_, s', performed, next⟩ := step holds
    have after : machine.repeated op _ 1 = s' := congrArg Prod.snd performed
    exact after.symm ▸ next
  stays holds k first := by
    obtain rfl : k = 0 := by omega
    exact (step holds).1

theorem Leads.trans (first : machine.Leads op during count P sent Q)
    (second : machine.Leads op during more Q later R) :
    machine.Leads op during (count + more) P (sent ++ later) R where
  emits holds := by rw [emitted_add, first.emits holds, second.emits (first.ends holds)]
  ends holds := by
    rw [repeated_add]
    exact second.ends (first.ends holds)
  stays {s} holds k inside := by
    rcases Nat.lt_or_ge k count with early | late
    · exact first.stays holds k early
    · obtain ⟨j, rfl⟩ := Nat.exists_eq_add_of_le late
      rw [repeated_add]
      exact second.stays (first.ends holds) j (by omega)

/-- A loop of `rounds` rounds, each of which moves an indexed invariant on by one. -/
theorem Leads.iterate {I : Nat → State → Prop} {O : Nat → List Obs} (rounds : Nat)
    (body : ∀ i < rounds, machine.Leads op during count (I i) (O i) (I (i + 1))) :
    machine.Leads op during (rounds * count) (I 0) ((List.range rounds).flatMap O) (I rounds) := by
  induction rounds with
  | zero =>
    rw [Nat.zero_mul]
    exact .refl
  | succ rounds ih =>
    have before := ih fun i inside => body i (Nat.lt_succ_of_lt inside)
    have last := body rounds (Nat.lt_succ_self rounds)
    rw [Nat.succ_mul, List.range_succ, List.flatMap_append, List.flatMap_cons, List.flatMap_nil,
      List.append_nil]
    exact before.trans last

theorem Leads.iterate_silent {I : Nat → State → Prop} (rounds : Nat)
    (body : ∀ i < rounds, machine.Leads op during 1 (I i) [] (I (i + 1))) :
    machine.Leads op during rounds (I 0) [] (I rounds) := by
  have loop := Leads.iterate rounds body
  rwa [Nat.mul_one, List.flatMap_eq_nil_iff.mpr fun _ _ => rfl] at loop

end Repetition

end Machine

end TildaMk4.Transition
