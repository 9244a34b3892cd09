import Mathlib.Algebra.Group.Nat.Defs
import Mathlib.Tactic.Common

/-!
# Hexadecimal text

`sscanf` with `%x` conversions, and octets written as pairs of digits that a
separator joins.
-/

namespace TildaMk4.HexText

def hexDigit? (c : UInt8) : Option Nat :=
  if 0x30 ≤ c ∧ c ≤ 0x39 then some (c.toNat - 0x30)
  else if 0x41 ≤ c ∧ c ≤ 0x46 then some (c.toNat - 0x41 + 10)
  else if 0x61 ≤ c ∧ c ≤ 0x66 then some (c.toNat - 0x61 + 10)
  else none

/-! ## `sscanf` -/

/-- `isspace` -/
def isSpace (c : UInt8) : Bool := c = 0x20 || (0x09 ≤ c && c ≤ 0x0d)

def sign : List UInt8 → Bool × List UInt8
  | 0x2d :: str => (true, str)
  | 0x2b :: str => (false, str)
  | str => (false, str)

def skipPrefix : List UInt8 → List UInt8
  | 0x30 :: 0x78 :: str => str
  | 0x30 :: 0x58 :: str => str
  | str => str

/-- The digits that a text begins with, behind those of `n`. -/
def hexValue : Nat → List UInt8 → Nat × List UInt8
  | n, [] => (n, [])
  | n, c :: str =>
    match hexDigit? c with
    | some digit => hexValue (16 * n + digit) str
    | none => (n, c :: str)

/-- The conversion `%x` to an `unsigned int`: a matching failure, or the number and what
follows it. C leaves open what a number becomes that does not fit. -/
def scanHex (unfit : Nat → UInt32) (str : List UInt8) : Option (UInt32 × List UInt8) :=
  let signed := sign (str.dropWhile isSpace)
  match skipPrefix signed.2 with
  | [] => none
  | c :: digits =>
    if (hexDigit? c).isNone then none
    else
      let (n, rest) := hexValue 0 (c :: digits)
      some (if 2 ^ 32 ≤ n then unfit n else if signed.1 then -.ofNat n else .ofNat n, rest)

inductive Directive
  | hex
  | literal (c : UInt8)

/-- The values that `sscanf` assigns before the first directive that fails. -/
def sscanf (unfit : Nat → UInt32) : List Directive → List UInt8 → List UInt32
  | [], _ => []
  | .hex :: format, str =>
    match scanHex unfit str with
    | some (val, rest) => val :: sscanf unfit format rest
    | none => []
  | .literal _ :: _, [] => []
  | .literal c :: format, d :: str => if d = c then sscanf unfit format str else []

/-! ## Octets -/

/-- The octet that two digits write. -/
def octet? (high low : UInt8) : Option UInt8 :=
  match hexDigit? high, hexDigit? low with
  | some h, some l => some (.ofNat (16 * h + l))
  | _, _ => none

/-- The octets of a text that consists of pairs of digits joined by `sep`. -/
def octets? (sep : UInt8) : List UInt8 → Option (List UInt8)
  | [high, low] => (octet? high low).map fun octet => [octet]
  | high :: low :: c :: str =>
    if c = sep then
      match octet? high low, octets? sep str with
      | some octet, some octets => some (octet :: octets)
      | _, _ => none
    else none
  | _ => none

/-- The conversions of `%x`, joined by `sep`. -/
def hexFields (sep : UInt8) : Nat → List Directive
  | 0 => []
  | 1 => [.hex]
  | n + 1 => .hex :: .literal sep :: hexFields sep n

def hexChar (n : Nat) : UInt8 := if n < 10 then .ofNat (0x30 + n) else .ofNat (0x61 + (n - 10))

/-- The conversion `%02x` of a byte. -/
def hexPair (byte : UInt8) : List UInt8 := [hexChar (byte.toNat / 16), hexChar (byte.toNat % 16)]

theorem hexDigit?_hexChar : ∀ n < 16, hexDigit? (hexChar n) = some n := by decide

theorem hexDigit?_cases {c : UInt8} {digit : Nat} (known : hexDigit? c = some digit) :
    (48 ≤ c.toNat ∧ c.toNat ≤ 57 ∧ digit = c.toNat - 48) ∨
      (65 ≤ c.toNat ∧ c.toNat ≤ 70 ∧ digit = c.toNat - 65 + 10) ∨
      (97 ≤ c.toNat ∧ c.toNat ≤ 102 ∧ digit = c.toNat - 97 + 10) := by
  unfold hexDigit? at known
  split at known
  next decimal =>
    cases known
    exact .inl ⟨UInt8.le_iff_toNat_le.mp decimal.1, UInt8.le_iff_toNat_le.mp decimal.2, rfl⟩
  next =>
    split at known
    next upper =>
      cases known
      exact .inr (.inl ⟨UInt8.le_iff_toNat_le.mp upper.1, UInt8.le_iff_toNat_le.mp upper.2, rfl⟩)
    next =>
      split at known
      next lower =>
        cases known
        exact .inr (.inr ⟨UInt8.le_iff_toNat_le.mp lower.1, UInt8.le_iff_toNat_le.mp lower.2, rfl⟩)
      next => cases known

theorem hexDigit?_lt {c : UInt8} {digit : Nat} (known : hexDigit? c = some digit) : digit < 16 := by
  rcases hexDigit?_cases known with digit | digit | digit <;> omega

section Digit

variable {c : UInt8} {digit : Nat} (known : hexDigit? c = some digit)

include known

theorem ne_of_hexDigit? (other : UInt8) (none_ : hexDigit? other = none) : c ≠ other := by
  rintro rfl
  exact nomatch known.symm.trans none_

theorem isSpace_of_hexDigit? : isSpace c = false := by
  have outside : c ≠ 0x20 ∧ ¬ c ≤ 0x0d := by
    refine ⟨ne_of_hexDigit? known _ (by decide), ?_⟩
    rw [UInt8.le_iff_toNat_le]
    rcases hexDigit?_cases known with digit | digit | digit <;> simp <;> omega
  simp [isSpace, outside]

theorem dropWhile_of_hexDigit? (str : List UInt8) :
    (c :: str).dropWhile isSpace = c :: str := by
  simp [isSpace_of_hexDigit? known]

theorem sign_of_hexDigit? (str : List UInt8) : sign (c :: str) = (false, c :: str) := by
  have minus := ne_of_hexDigit? known 0x2d (by decide)
  have plus := ne_of_hexDigit? known 0x2b (by decide)
  simp [sign, minus, plus]

theorem skipPrefix_of_hexDigit? (first : UInt8) (str : List UInt8) :
    skipPrefix (first :: c :: str) = first :: c :: str := by
  have lower := ne_of_hexDigit? known 0x78 (by decide)
  have upper := ne_of_hexDigit? known 0x58 (by decide)
  simp [skipPrefix, lower, upper]

end Digit

theorem octet?_eq_some {high low octet : UInt8} (written : octet? high low = some octet) :
    ∃ h l, hexDigit? high = some h ∧ hexDigit? low = some l ∧ octet = .ofNat (16 * h + l) := by
  unfold octet? at written
  split at written
  next h l high low => exact ⟨h, l, high, low, (Option.some.inj written).symm⟩
  next => cases written

theorem hexValue_stops (n : Nat) {rest : List UInt8}
    (ends : ∀ c ∈ rest.head?, hexDigit? c = none) : hexValue n rest = (n, rest) := by
  cases rest with
  | nil => rfl
  | cons c rest => rw [hexValue, ends c rfl]

/-- A pair of digits before something that is no digit is converted to its octet. -/
theorem scanHex_octet (unfit : Nat → UInt32) {high low octet : UInt8} {rest : List UInt8}
    (written : octet? high low = some octet) (ends : ∀ c ∈ rest.head?, hexDigit? c = none) :
    scanHex unfit (high :: low :: rest) = some (octet.toUInt32, rest) := by
  obtain ⟨h, l, highDigit, lowDigit, rfl⟩ := octet?_eq_some written
  have small : 16 * h + l < 256 := by
    have := hexDigit?_lt highDigit
    have := hexDigit?_lt lowDigit
    omega
  have value : hexValue 0 (high :: low :: rest) = (16 * h + l, rest) := by
    simp only [hexValue, highDigit, lowDigit, hexValue_stops _ ends, Nat.mul_zero, Nat.zero_add]
  have fits : ¬ 2 ^ 32 ≤ 16 * h + l := by omega
  have same : UInt32.ofNat (16 * h + l) = (UInt8.ofNat (16 * h + l)).toUInt32 := by
    apply UInt32.toNat_inj.mp
    have wide : 16 * h + l < UInt32.size := Nat.lt_trans small (by decide)
    rw [UInt32.toNat_ofNat_of_lt' wide, UInt8.toNat_toUInt32, UInt8.toNat_ofNat_of_lt' small]
  simp only [scanHex, dropWhile_of_hexDigit? highDigit, sign_of_hexDigit? highDigit,
    skipPrefix_of_hexDigit? lowDigit, highDigit, Option.isNone_some, Bool.false_eq_true, value,
    fits, same, if_false]

theorem octets?_ne_nil {sep : UInt8} (str : List UInt8) : octets? sep str ≠ some [] := by
  fun_induction octets? sep str with
  | case1 high low => cases octet? high low <;> nofun
  | case2 | case3 | case4 | case5 => nofun

theorem hexFields_cons (sep : UInt8) {n : Nat} (more : n ≠ 0) :
    hexFields sep (n + 1) = .hex :: .literal sep :: hexFields sep n := by
  cases n with
  | zero => exact absurd rfl more
  | succ n => rfl

theorem octet?_digits {high low octet : UInt8} (written : octet? high low = some octet) :
    (hexDigit? high).isSome = true ∧ (hexDigit? low).isSome = true := by
  obtain ⟨h, l, highDigit, lowDigit, -⟩ := octet?_eq_some written
  rw [highDigit, lowDigit]
  exact ⟨rfl, rfl⟩

theorem mem_of_octets? {sep : UInt8} (str : List UInt8) : ∀ {octets : List UInt8},
    octets? sep str = some octets → ∀ c ∈ str, c = sep ∨ (hexDigit? c).isSome = true := by
  fun_induction octets? sep str with
  | case1 high low =>
    intro octets written
    obtain ⟨octet, pair, -⟩ := Option.map_eq_some_iff.mp written
    have digits := octet?_digits pair
    simp [digits]
  | case2 high low str octet others rest pair ih =>
    intro octets written
    have digits := octet?_digits pair
    simpa [digits] using ih rest
  | case3 => nofun
  | case4 => nofun
  | case5 => nofun

theorem sscanf_octets (unfit : Nat → UInt32) {sep : UInt8} (apart : hexDigit? sep = none)
    (str : List UInt8) : ∀ {octets : List UInt8}, octets? sep str = some octets →
      sscanf unfit (hexFields sep octets.length) str = octets.map UInt8.toUInt32 := by
  fun_induction octets? sep str with
  | case1 high low =>
    intro octets written
    obtain ⟨octet, pair, rfl⟩ := Option.map_eq_some_iff.mp written
    have scanned : scanHex unfit [high, low] = some (octet.toUInt32, []) :=
      scanHex_octet unfit pair nofun
    simp [hexFields, sscanf, scanned]
  | case2 high low str octet others rest pair ih =>
    intro octets written
    obtain rfl := Option.some.inj written
    have some_ : others ≠ [] := fun empty => octets?_ne_nil str (empty ▸ rest)
    have scanned : scanHex unfit (high :: low :: sep :: str) =
        some (octet.toUInt32, sep :: str) := by
      apply scanHex_octet unfit pair
      rintro c ⟨⟩
      exact apart
    rw [List.length_cons, hexFields_cons sep (mt List.length_eq_zero_iff.mp some_)]
    simp [sscanf, scanned, ih rest]
  | case3 => nofun
  | case4 => nofun
  | case5 => nofun

/-- Octets written as pairs of digits. -/
def writeOctets (sep : UInt8) : List UInt8 → List UInt8
  | [] => []
  | [octet] => hexPair octet
  | octet :: octets => hexPair octet ++ sep :: writeOctets sep octets

theorem octet?_hexPair (octet : UInt8) :
    octet? (hexChar (octet.toNat / 16)) (hexChar (octet.toNat % 16)) = some octet := by
  have small := octet.toNat_lt
  have whole : 16 * (octet.toNat / 16) + octet.toNat % 16 = octet.toNat := Nat.div_add_mod _ _
  rw [octet?, hexDigit?_hexChar _ (by omega), hexDigit?_hexChar _ (by omega)]
  dsimp only
  rw [whole, UInt8.ofNat_toNat]

theorem octets?_writeOctets (sep : UInt8) {octets : List UInt8} (some_ : octets ≠ []) :
    octets? sep (writeOctets sep octets) = some octets := by
  induction octets with
  | nil => exact absurd rfl some_
  | cons octet octets ih =>
    cases octets with
    | nil => simp [writeOctets, hexPair, octets?, octet?_hexPair]
    | cons next octets =>
      change octets? sep (hexChar _ :: hexChar _ :: sep :: writeOctets sep (next :: octets)) = _
      rw [octets?, if_pos rfl, octet?_hexPair, ih (List.cons_ne_nil _ _)]

end TildaMk4.HexText
