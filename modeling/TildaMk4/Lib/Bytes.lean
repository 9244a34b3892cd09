import Mathlib.Algebra.GroupWithZero.Nat
import Mathlib.Data.List.GetD
import TildaMk4.Lib.Memory

/-!
# Byte strings in memory, and the numbers that they encode
-/

namespace TildaMk4.Memory

/-- `m` with the bytes `bytes` stored from `at_` on. -/
def storeBytes (m : Nat → UInt8) (at_ : Nat) (bytes : List UInt8) : Nat → UInt8 :=
  blit m at_ (fun i => bytes.getD i 0) 0 bytes.length

theorem storeBytes_inside {m : Nat → UInt8} {at_ a : Nat} {bytes : List UInt8}
    (low : at_ ≤ a) (high : a < at_ + bytes.length) :
    storeBytes m at_ bytes a = bytes.getD (a - at_) 0 := by
  unfold storeBytes
  rw [blit_inside low high, Nat.zero_add]

theorem storeBytes_outside {m : Nat → UInt8} {at_ a : Nat} {bytes : List UInt8}
    (outside : a < at_ ∨ at_ + bytes.length ≤ a) : storeBytes m at_ bytes a = m a :=
  blit_outside outside

theorem storeBytes_append (m : Nat → UInt8) (at_ : Nat) (first second : List UInt8) :
    storeBytes (storeBytes m at_ first) (at_ + first.length) second =
      storeBytes m at_ (first ++ second) := by
  funext a
  rcases Nat.lt_or_ge a at_ with before | low
  · rw [storeBytes_outside (.inl (by omega)), storeBytes_outside (.inl before),
      storeBytes_outside (.inl before)]
  rcases Nat.lt_or_ge a (at_ + first.length) with inFirst | past
  · rw [storeBytes_outside (.inl inFirst), storeBytes_inside low inFirst,
      storeBytes_inside low (by simp only [List.length_append]; omega),
      List.getD_append _ _ _ _ (by omega)]
  rcases Nat.lt_or_ge a (at_ + first.length + second.length) with inSecond | after
  · rw [storeBytes_inside past inSecond,
      storeBytes_inside low (by simp only [List.length_append]; omega),
      List.getD_append_right _ _ _ _ (by omega)]
    congr 1
    omega
  · rw [storeBytes_outside (.inr after), storeBytes_outside (.inr past),
      storeBytes_outside (.inr (by simp only [List.length_append]; omega))]

/-- The `width` low bytes of `n`, least significant first. -/
def encodeLE : Nat → Nat → List UInt8
  | 0, _ => []
  | width + 1, n => UInt8.ofNat n :: encodeLE width (n / 256)

/-- The `width` low bytes of `n`, most significant first. -/
def encodeBE (width n : Nat) : List UInt8 := (encodeLE width n).reverse

def decodeLE : List UInt8 → Nat
  | [] => 0
  | byte :: rest => byte.toNat + 256 * decodeLE rest

theorem decodeLE_encodeLE {width n : Nat} (fits : n < 256 ^ width) :
    decodeLE (encodeLE width n) = n := by
  induction width generalizing n with
  | zero =>
    simp only [Nat.pow_zero, Nat.lt_one_iff] at fits
    simp [encodeLE, decodeLE, fits]
  | succ width ih =>
    have rest : n / 256 < 256 ^ width := by
      rw [Nat.pow_succ] at fits
      omega
    simp only [encodeLE, decodeLE, ih rest, UInt8.toNat_ofNat']
    omega

theorem encodeLE_decodeLE (bytes : List UInt8) : encodeLE bytes.length (decodeLE bytes) = bytes := by
  induction bytes with
  | nil => rfl
  | cons byte rest ih =>
    have low : UInt8.ofNat (byte.toNat + 256 * decodeLE rest) = byte := by
      apply UInt8.toNat_inj.mp
      rw [UInt8.toNat_ofNat']
      have fits := byte.toNat_lt
      omega
    have high : (byte.toNat + 256 * decodeLE rest) / 256 = decodeLE rest := by
      have fits := byte.toNat_lt
      omega
    rw [decodeLE, List.length_cons, encodeLE, low, high, ih]

theorem encodeLE_mod (width n : Nat) : encodeLE width (n % 256 ^ width) = encodeLE width n := by
  induction width generalizing n with
  | zero => rfl
  | succ width ih =>
    have low : UInt8.ofNat (n % 256 ^ (width + 1)) = .ofNat n := by
      apply UInt8.toNat_inj.mp
      rw [UInt8.toNat_ofNat', UInt8.toNat_ofNat', Nat.pow_succ']
      exact Nat.mod_mul_right_mod n 256 (256 ^ width)
    have rest : n % 256 ^ (width + 1) / 256 = n / 256 % 256 ^ width := by
      rw [Nat.pow_succ', Nat.mod_mul_right_div_self]
    rw [encodeLE, encodeLE, low, rest, ih]

/-- The number that bytes stand for, most significant first. -/
def decodeBE (bytes : List UInt8) : Nat := bytes.foldl (fun n byte => 256 * n + byte.toNat) 0

/-- The bytes from `at_` on. -/
def loadBytes (m : Nat → UInt8) (at_ len : Nat) : List UInt8 :=
  (List.range len).map fun i => m (at_ + i)

@[simp] theorem loadBytes_length (m : Nat → UInt8) (at_ len : Nat) :
    (loadBytes m at_ len).length = len := by
  simp [loadBytes]

theorem loadBytes_storeBytes (m : Nat → UInt8) (at_ : Nat) (bytes : List UInt8) :
    loadBytes (storeBytes m at_ bytes) at_ bytes.length = bytes := by
  apply List.ext_getElem (by simp)
  intro i left right
  have inside : storeBytes m at_ bytes (at_ + i) = bytes.getD i 0 := by
    rw [storeBytes_inside (by omega) (by omega), Nat.add_sub_cancel_left]
  simp [loadBytes, inside, right]

theorem loadBytes_add (m : Nat → UInt8) (at_ len more : Nat) :
    loadBytes m at_ (len + more) = loadBytes m at_ len ++ loadBytes m (at_ + len) more := by
  simp [loadBytes, List.range_add, Nat.add_assoc]

/-- Ranges, by their start and length, that are not empty and follow each other from
`start` to `stop`. -/
def Tiles (start stop : Nat) : List (Nat × Nat) → Prop
  | [] => start = stop
  | (at_, len) :: rest => at_ = start ∧ 0 < len ∧ Tiles (start + len) stop rest

theorem Tiles.le {stop : Nat} {ranges : List (Nat × Nat)} :
    ∀ {start}, Tiles start stop ranges → start ≤ stop := by
  induction ranges with
  | nil => exact fun same => Nat.le_of_eq same
  | cons range rest inductionHypothesis =>
    intro start tiles
    exact Nat.le_trans (Nat.le_add_right ..) (inductionHypothesis tiles.2.2)

theorem Tiles.inside {stop : Nat} {ranges : List (Nat × Nat)} :
    ∀ {start}, Tiles start stop ranges → ∀ range ∈ ranges,
      start ≤ range.1 ∧ 0 < range.2 ∧ range.1 + range.2 ≤ stop := by
  induction ranges with
  | nil => exact fun _ _ member => absurd member List.not_mem_nil
  | cons first rest inductionHypothesis =>
    rintro start ⟨rfl, some_, later⟩ range member
    rcases List.mem_cons.mp member with rfl | among
    · exact ⟨Nat.le_refl _, some_, later.le⟩
    · obtain ⟨after, inside⟩ := inductionHypothesis later range among
      exact ⟨Nat.le_trans (Nat.le_add_right ..) after, inside⟩

/-- What is loaded range by range is all that lies between the ends. -/
theorem Tiles.loadBytes {stop : Nat} {ranges : List (Nat × Nat)} (m : Nat → UInt8) :
    ∀ {start}, Tiles start stop ranges →
      ranges.flatMap (fun range => Memory.loadBytes m range.1 range.2) =
        Memory.loadBytes m start (stop - start) := by
  induction ranges with
  | nil =>
    rintro start rfl
    rw [Nat.sub_self]
    rfl
  | cons range rest inductionHypothesis =>
    rintro start ⟨rfl, _, later⟩
    have reach := later.le
    have split : stop - range.1 = range.2 + (stop - (range.1 + range.2)) := by omega
    rw [List.flatMap_cons, inductionHypothesis later, split, loadBytes_add]

theorem toNat_foldl_add (bytes : List UInt8) (start : UInt8) :
    (bytes.foldl (· + ·) start).toNat = (start.toNat + (bytes.map UInt8.toNat).sum) % 256 := by
  induction bytes generalizing start with
  | nil => simp [Nat.mod_eq_of_lt start.toNat_lt]
  | cons byte rest ih =>
    simp only [List.foldl_cons, ih, UInt8.toNat_add, List.map_cons, List.sum_cons]
    omega

/-- The number that bits stand for, most significant first. -/
def decodeBits (bits : List Bool) : Nat := bits.foldl (fun value bit => 2 * value + bit.toNat) 0

/-- `width` bits of a number, read from the highest down to bit `low`. -/
theorem decodeBits_testBit (n width : Nat) : ∀ low,
    decodeBits ((List.range width).map fun i => n.testBit (low + width - 1 - i)) =
      n / 2 ^ low % 2 ^ width := by
  induction width with
  | zero =>
    intro low
    rw [Nat.pow_zero, Nat.mod_one]
    rfl
  | succ width ih =>
    intro low
    have upper : ((List.range width).map fun i => n.testBit (low + (width + 1) - 1 - i)) =
        (List.range width).map fun i => n.testBit (low + 1 + width - 1 - i) := by
      congr 1
      funext i
      congr 2
      omega
    have lowest : (n.testBit low).toNat = n / 2 ^ low % 2 := by
      rw [Nat.testBit_eq_decide_div_mod_eq]
      rcases Nat.mod_two_eq_zero_or_one (n / 2 ^ low) with even | odd
      · rw [even]
        rfl
      · rw [odd]
        rfl
    rw [List.range_succ, List.map_append, decodeBits, List.foldl_append, upper, ← decodeBits, ih,
      List.map_singleton, List.foldl_cons, List.foldl_nil,
      show low + (width + 1) - 1 - width = low by omega, lowest, Nat.pow_succ 2 width,
      Nat.mul_comm (2 ^ width) 2, Nat.mod_mul, Nat.div_div_eq_div_mul, ← Nat.pow_succ,
      Nat.add_comm]

end TildaMk4.Memory
