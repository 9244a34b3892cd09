import Mathlib.Data.Nat.Basic
import Mathlib.Tactic.SplitIfs

/-!
# Byte-addressed memories and block copies

A memory is a total function of the address. `blit` is `memcpy` between two of
them; its lemmas say where it changes the destination, that a copy may be made
in pieces, and when a copy has no effect.
-/

namespace TildaMk4.Memory

universe u

variable {Cell : Type u}

/-- `dst` after the `len` cells at `src + s` are copied to `dst + d`. -/
def blit (dst : Nat → Cell) (d : Nat) (src : Nat → Cell) (s len : Nat) : Nat → Cell :=
  fun a => if d ≤ a ∧ a < d + len then src (s + (a - d)) else dst a

theorem blit_inside {dst src : Nat → Cell} {d s len a : Nat} (low : d ≤ a) (high : a < d + len) :
    blit dst d src s len a = src (s + (a - d)) :=
  if_pos ⟨low, high⟩

theorem blit_outside {dst src : Nat → Cell} {d s len a : Nat} (outside : a < d ∨ d + len ≤ a) :
    blit dst d src s len a = dst a :=
  if_neg (by omega)

theorem blit_offset {dst src : Nat → Cell} {d s len i : Nat} (bound : i < len) :
    blit dst d src s len (d + i) = src (s + i) := by
  rw [blit_inside (by omega) (by omega)]
  congr 1
  omega

@[simp] theorem blit_zero (dst src : Nat → Cell) (d s : Nat) : blit dst d src s 0 = dst := by
  funext a
  exact blit_outside (by omega)

theorem blit_blit_add (dst src : Nat → Cell) (d s n m : Nat) :
    blit (blit dst d src s n) (d + n) src (s + n) m = blit dst d src s (n + m) := by
  funext a
  unfold blit
  split_ifs
  any_goals omega
  · congr 1
    omega
  · rfl
  · rfl

/-- Copying over a copy of the same place leaves only the later one. -/
theorem blit_blit_self (dst src src' : Nat → Cell) (d s s' len : Nat) :
    blit (blit dst d src s len) d src' s' len = blit dst d src' s' len := by
  funext a
  unfold blit
  split_ifs <;> rfl

theorem blit_eq_self {dst src : Nat → Cell} {d s len : Nat}
    (same : ∀ i < len, src (s + i) = dst (d + i)) : blit dst d src s len = dst := by
  funext a
  by_cases inside : d ≤ a ∧ a < d + len
  · rw [blit_inside inside.1 inside.2, same _ (by omega)]
    congr 1
    omega
  · exact blit_outside (by omega)

theorem blit_congr_src {dst src src' : Nat → Cell} {d s s' len : Nat}
    (same : ∀ i < len, src (s + i) = src' (s' + i)) :
    blit dst d src s len = blit dst d src' s' len := by
  funext a
  by_cases inside : d ≤ a ∧ a < d + len
  · rw [blit_inside inside.1 inside.2, blit_inside inside.1 inside.2, same _ (by omega)]
  · rw [blit_outside (by omega), blit_outside (by omega)]

/-- A copy into a window of the destination that is itself a copy of `src` at
`s` amounts to copying first into the source. -/
theorem blit_window (dst src piece : Nat → Cell) (d s len at_ p n : Nat) (fits : at_ + n ≤ len) :
    blit dst d (blit src (s + at_) piece p n) s len =
      blit (blit dst d src s len) (d + at_) piece p n := by
  funext a
  unfold blit
  split_ifs
  any_goals omega
  · congr 1
    omega
  · rfl
  · rfl

end TildaMk4.Memory
