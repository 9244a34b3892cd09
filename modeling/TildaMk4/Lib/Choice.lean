import Mathlib.Data.Option.Basic

/-!
# Ordered choice

The first of several kinds of candidates of which there is one.
-/

namespace TildaMk4.Choice

universe u

variable {α : Type u}

/-- A candidate of the first kind that has any; nothing, if none has. -/
inductive FirstOf : List (α → Prop) → Option α → Prop where
  | nothing : FirstOf [] none
  | here {kind : α → Prop} {rest : List (α → Prop)} {x : α} : kind x →
      FirstOf (kind :: rest) (some x)
  | later {kind : α → Prop} {rest : List (α → Prop)} {chosen : Option α} : (∀ x, ¬kind x) →
      FirstOf rest chosen → FirstOf (kind :: rest) chosen

variable {kind : α → Prop} {rest : List (α → Prop)} {chosen : Option α}

theorem FirstOf.of_none (absent : ∀ x, ¬kind x) :
    FirstOf (kind :: rest) chosen ↔ FirstOf rest chosen := by
  constructor
  · intro first
    cases first with
    | here candidate => exact absurd candidate (absent _)
    | later _ first => exact first
  · exact .later absent

theorem FirstOf.of_some {x : α} (candidate : kind x) :
    FirstOf (kind :: rest) chosen ↔ ∃ y, kind y ∧ chosen = some y := by
  constructor
  · intro first
    cases first with
    | here other => exact ⟨_, other, rfl⟩
    | later absent _ => exact absurd candidate (absent x)
  · rintro ⟨y, other, rfl⟩
    exact .here other

end TildaMk4.Choice
