/-!
# Attempts that are repeated

An attempt is made again while its answer is transient and repetitions are left.
-/

namespace TildaMk4.Retry

universe u

variable {Answer : Type u} (attempt : Nat → Answer) (transient : Answer → Bool)

/-- The last answer from attempt `i` on, and how often one has been made again. -/
def retry : Nat → Nat → Answer × Nat
  | 0, i => (attempt i, 0)
  | left + 1, i =>
    if transient (attempt i) then
      let later := retry left (i + 1)
      (later.1, later.2 + 1)
    else (attempt i, 0)

variable {attempt transient}

/-- The first answer that is not transient is the one, if it comes soon enough. -/
theorem retry_settled {left k : Nat} (soon : k ≤ left) : ∀ {i : Nat},
    (∀ j < k, transient (attempt (i + j)) = true) → transient (attempt (i + k)) = false →
      retry attempt transient left i = (attempt (i + k), k) := by
  induction k generalizing left with
  | zero =>
    intro i _ settled
    rw [Nat.add_zero] at settled ⊢
    cases left with
    | zero => rfl
    | succ left => simp [retry, settled]
  | succ k ih =>
    intro i failing settled
    obtain ⟨left, rfl⟩ := Nat.exists_eq_succ_of_ne_zero (Nat.ne_zero_of_lt soon)
    have shift (j : Nat) : i + 1 + j = i + (j + 1) := by omega
    have later := ih (Nat.le_of_succ_le_succ soon) (i := i + 1)
      (fun j inside => by rw [shift]; exact failing (j + 1) (Nat.succ_lt_succ inside))
      (by rw [shift]; exact settled)
    have first : transient (attempt i) = true := failing 0 (Nat.succ_pos k)
    rw [retry, if_pos first, later, shift]

/-- Where every answer is transient, the one of the last repetition stands. -/
theorem retry_exhausted {left : Nat} : ∀ {i : Nat},
    (∀ j ≤ left, transient (attempt (i + j)) = true) →
      retry attempt transient left i = (attempt (i + left), left) := by
  induction left with
  | zero => exact fun _ => rfl
  | succ left ih =>
    intro i failing
    have shift (j : Nat) : i + 1 + j = i + (j + 1) := by omega
    have later := ih (i := i + 1) fun j inside => by
      rw [shift]
      exact failing (j + 1) (Nat.succ_le_succ inside)
    have first : transient (attempt i) = true := failing 0 (Nat.zero_le _)
    rw [retry, if_pos first, later, shift]

variable (attempt transient) in
/-- However the answers turn out, the one that stands came after transient ones only, and it is
transient itself only if no repetition was left. -/
theorem retry_stops (left : Nat) : ∀ i, ∃ k ≤ left,
    retry attempt transient left i = (attempt (i + k), k) ∧
      (∀ j < k, transient (attempt (i + j)) = true) ∧
      (transient (attempt (i + k)) = false ∨ k = left) := by
  induction left with
  | zero => exact fun i => ⟨0, Nat.le_refl 0, rfl, nofun, .inr rfl⟩
  | succ left ih =>
    intro i
    cases first : transient (attempt i) with
    | false =>
      refine ⟨0, Nat.zero_le _, ?_, nofun, .inl first⟩
      rw [retry, first]
      rfl
    | true =>
      obtain ⟨k, bound, later, failing, settled⟩ := ih (i + 1)
      have shift (j : Nat) : i + 1 + j = i + (j + 1) := by omega
      rw [shift] at later settled
      refine ⟨k + 1, Nat.succ_le_succ bound, ?_, ?_, ?_⟩
      · rw [retry, if_pos first, later]
      · intro j inside
        cases j with
        | zero => exact first
        | succ j =>
          rw [← shift]
          exact failing j (Nat.lt_of_succ_lt_succ inside)
      · exact settled.imp_right (congrArg (· + 1))

end TildaMk4.Retry
