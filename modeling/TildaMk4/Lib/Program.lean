import Mathlib.Data.List.Basic

/-!
# Straight-line programs and what is seen between their statements

A program is a list of statements, executed one after the other while other parties
may look at the state in between. `Throughout` is the assertion that covers them: one
predicate of the state and the statements still to come holds before each statement,
and another one of the state holds at the end.
-/

namespace TildaMk4.Program

universe u v w

variable {State : Type u} {Statement : Type v} {Index : Type w}

def Throughout (exec : Statement → State → State) (P : State → List Statement → Prop)
    (Q : State → Prop) : List Statement → State → Prop
  | [], s => Q s
  | statement :: rest, s =>
    P s (statement :: rest) ∧ Throughout exec P Q rest (exec statement s)

/-- The state after a whole program. -/
def execAll (exec : Statement → State → State) (program : List Statement) (s : State) : State :=
  program.foldl (fun s statement => exec statement s) s

variable {exec : Statement → State → State} {P P' : State → List Statement → Prop}
  {Q Q' : State → Prop} {program rest : List Statement} {s : State}

theorem Throughout.mono (holds : Throughout exec P Q program s)
    (before : ∀ {s rest}, P s rest → P' s rest) (after : ∀ {s}, Q s → Q' s) :
    Throughout exec P' Q' program s := by
  induction program generalizing s with
  | nil => exact after holds
  | cons statement rest ih => exact ⟨before holds.1, ih holds.2⟩

/-- A program in two parts: the end of the first is where the second starts. -/
theorem throughout_append : Throughout exec P Q (program ++ rest) s ↔
    Throughout exec (fun s todo => P s (todo ++ rest)) (Throughout exec P Q rest) program s := by
  induction program generalizing s with
  | nil => rfl
  | cons statement program ih => exact and_congr_right fun _ => ih

/-- What is seen where a program stands, whether or not it has ended. -/
theorem Throughout.here (holds : Throughout exec P Q program s) (ended : ∀ {s}, Q s → P s []) :
    P s program := by
  cases program with
  | nil => exact ended holds
  | cons statement rest => exact holds.1

theorem Throughout.after (holds : Throughout exec P Q program s) :
    Q (execAll exec program s) := by
  induction program generalizing s with
  | nil => exact holds
  | cons statement rest ih => exact ih holds.2

theorem throughout_of_invariant {I : State → Prop} (start : I s)
    (keep : ∀ statement ∈ program, ∀ {s}, I s → I (exec statement s)) :
    Throughout exec (fun s todo => I s ∧ todo ⊆ program) I program s := by
  induction program generalizing s with
  | nil => exact start
  | cons statement rest ih =>
    refine ⟨⟨start, List.Subset.refl _⟩, ?_⟩
    have later := ih (keep statement List.mem_cons_self start)
      fun other member => keep other (List.mem_cons_of_mem _ member)
    exact later.mono (fun holds => ⟨holds.1, List.subset_cons_of_subset _ holds.2⟩) id

/-- The rule for a loop over a list of indices, followed by `rest`: the invariant is
about the indices that are still to come. -/
theorem throughout_loop {I : List Index → State → Prop} (body : Index → List Statement)
    (round : ∀ {index indices s}, I (index :: indices) s →
      Throughout exec (fun s todo => P s (todo ++ (indices.flatMap body ++ rest))) (I indices)
        (body index) s)
    (after : ∀ {s}, I [] s → Throughout exec P Q rest s) (indices : List Index) :
    ∀ {s}, I indices s → Throughout exec P Q (indices.flatMap body ++ rest) s := by
  induction indices with
  | nil => exact after
  | cons index indices ih =>
    intro s holds
    rw [List.flatMap_cons, List.append_assoc, throughout_append]
    exact (round holds).mono id ih

end TildaMk4.Program
