import Mathlib.Tactic.Common

/-!
# IPv4 literals

`inet_aton`: up to four sections, each octal, decimal or hexadecimal, the last of
which fills what the others leave of the address. A dotted quad is read as the
address it says.
-/

namespace TildaMk4.Net

/-- `htonl`, which is its own inverse on a little-endian machine. -/
def htonl (host : UInt32) : UInt32 :=
  let low : UInt32 := 0xFF00
  (host <<< 24) ||| ((host &&& low) <<< 8) ||| ((host >>> 8) &&& low) ||| (host >>> 24)

/-- How the digits of a section end. -/
inductive Section
  | dot (val : UInt32) (rest : List Char)
  | ended (val : UInt32)
  | bad
  deriving DecidableEq

/-- `c-'0'`, or the value of a hexadecimal digit in base 16. -/
def digit? (base : UInt32) (c : Char) : Option UInt32 :=
  if '0' ≤ c ∧ c ≤ '9' then some (.ofNat (c.toNat - '0'.toNat))
  else if base = 16 ∧ 'A' ≤ c ∧ c ≤ 'F' then some (.ofNat (c.toNat - 'A'.toNat + 10))
  else if base = 16 ∧ 'a' ≤ c ∧ c ≤ 'f' then some (.ofNat (c.toNat - 'a'.toNat + 10))
  else none

/-- "Now decode this number": the end of the string, a dot and a blank each have
their own meaning. -/
def decodeNumber (base val : UInt32) : List Char → Section
  | [] => .ended val
  | c :: rest =>
    match digit? base c with
    | some digit => decodeNumber base (val * base + digit) rest
    | none =>
      if c = '.' then .dot val rest
      else if c ≠ ' ' then .bad
      else decodeNumber base val rest

/-- "Get the base for this number": the base, and where the digits start. -/
def getBase : List Char → UInt32 × List Char
  | '0' :: 'x' :: rest => (16, rest)
  | '0' :: 'X' :: rest => (16, rest)
  | '0' :: rest => (8, rest)
  | str => (10, str)

/-- One section, from its base on. -/
def decodeSection (str : List Char) : Section :=
  decodeNumber (getBase str).1 0 (getBase str).2

/-- The loop over the sections, of which `more` may follow the next one. -/
def decodeSections : Nat → List UInt32 → List Char → Option (List UInt32)
  | _, vals, [] => some vals
  | 0, vals, c :: str =>
    match decodeSection (c :: str) with
    | .bad => none
    | .ended val => some (vals ++ [val])
    | .dot val _ => if 255 < val then none else some (vals ++ [val])
  | more + 1, vals, c :: str =>
    match decodeSection (c :: str) with
    | .bad => none
    | .ended val => some (vals ++ [val])
    | .dot val rest => if 255 < val then none else decodeSections more (vals ++ [val]) rest

/-- The switch over the number of sections; in host order. -/
def joinSections : List UInt32 → Option UInt32
  | [a] => some a
  | [a, b] => if 0xffffff < b then none else some ((a <<< 24) + b)
  | [a, b, c] => if 0xffff < c then none else some ((a <<< 24) + (b <<< 16) + c)
  | [a, b, c, d] => if 0xff < d then none else some ((a <<< 24) + (b <<< 16) + (c <<< 8) + d)
  | _ => none

/-- `inet_aton`: `s_addr`, or `none` for the result 0. -/
def inetAton (str : List Char) : Option UInt32 :=
  ((decodeSections 3 [] str).bind joinSections).map htonl

/-! ## Dotted quads -/

theorem decodeNumber_dot (base : UInt32) {str : List Char} (rest : List Char) :
    ∀ {val result}, decodeNumber base val str = .ended result →
      decodeNumber base val (str ++ '.' :: rest) = .dot result rest := by
  induction str with
  | nil =>
    intro val result ended
    cases ended
    have dot : digit? base '.' = none := by
      simp [digit?, Char.le_def]
    rw [List.nil_append, decodeNumber, dot]
    rfl
  | cons c str ih =>
    intro val result ended
    cases found : digit? base c with
    | some digit =>
      rw [decodeNumber, found] at ended
      rw [List.cons_append, decodeNumber, found]
      exact ih ended
    | none =>
      rw [decodeNumber, found] at ended
      rw [List.cons_append, decodeNumber, found]
      dsimp only at ended ⊢
      by_cases dot : c = '.'
      · rw [if_pos dot] at ended
        nomatch ended
      · by_cases other : c ≠ ' '
        · rw [if_neg dot, if_pos other] at ended
          nomatch ended
        · rw [if_neg dot, if_neg other] at ended ⊢
          exact ih ended

theorem getBase_dot {str : List Char} (some_ : str ≠ []) (rest : List Char) :
    getBase (str ++ '.' :: rest) = ((getBase str).1, (getBase str).2 ++ '.' :: rest) := by
  match str with
  | [] => exact absurd rfl some_
  | [c] =>
    by_cases octal : c = '0'
    · rw [octal]
      rfl
    · rw [List.singleton_append]
      simp [getBase, octal]
  | c :: c' :: str =>
    by_cases octal : c = '0'
    · rw [octal]
      by_cases hex : c' = 'x'
      · rw [hex]
        rfl
      · by_cases heX : c' = 'X'
        · rw [heX]
          rfl
        · simp [getBase, hex, heX]
    · simp [getBase, octal]

/-- One section in decimal. -/
def decimal (n : UInt8) : List Char := Nat.toDigits 10 n.toNat

theorem decimal_ne_nil : ∀ n : UInt8, decimal n ≠ [] := by
  intro n
  have all : ∀ n < 256, Nat.toDigits 10 n ≠ [] := by decide +kernel
  exact all n.toNat n.toNat_lt

/-- A section is read as its number; 0 is the octal one without digits. -/
theorem decodeSection_decimal (n : UInt8) : decodeSection (decimal n) = .ended n.toUInt32 := by
  have all : ∀ n < 256, decodeSection (Nat.toDigits 10 n) = .ended (.ofNat n) := by
    decide +kernel
  rw [decimal, all n.toNat n.toNat_lt]
  exact congrArg Section.ended (UInt32.toNat_inj.mp (by simp))

theorem decodeSection_decimal_dot (n : UInt8) (rest : List Char) :
    decodeSection (decimal n ++ '.' :: rest) = .dot n.toUInt32 rest := by
  have ended := decodeSection_decimal n
  rw [decodeSection] at ended
  rw [decodeSection, getBase_dot (decimal_ne_nil n)]
  exact decodeNumber_dot _ rest ended

theorem decodeSections_dot (n : UInt8) (more : Nat) (vals : List UInt32) (rest : List Char) :
    decodeSections (more + 1) vals (decimal n ++ '.' :: rest) =
      decodeSections more (vals ++ [n.toUInt32]) rest := by
  obtain ⟨c, str, text⟩ := List.exists_cons_of_ne_nil (decimal_ne_nil n)
  have byte : ¬255 < n.toUInt32 := by
    rw [UInt32.lt_iff_toNat_lt, UInt8.toNat_toUInt32]
    exact Nat.not_lt.mpr (Nat.le_of_lt_succ n.toNat_lt)
  have first := decodeSection_decimal_dot n rest
  rw [text, List.cons_append] at first ⊢
  rw [decodeSections, first]
  exact if_neg byte

theorem decodeSections_last (n : UInt8) (vals : List UInt32) :
    decodeSections 0 vals (decimal n) = some (vals ++ [n.toUInt32]) := by
  obtain ⟨c, str, text⟩ := List.exists_cons_of_ne_nil (decimal_ne_nil n)
  have ended := decodeSection_decimal n
  rw [text] at ended ⊢
  rw [decodeSections, ended]

/-- The text `a.b.c.d`. -/
def dotted (a b c d : UInt8) : List Char :=
  decimal a ++ '.' :: (decimal b ++ '.' :: (decimal c ++ '.' :: decimal d))

theorem inetAton_dotted (a b c d : UInt8) : inetAton (dotted a b c d) =
    some (htonl ((a.toUInt32 <<< 24) + (b.toUInt32 <<< 16) + (c.toUInt32 <<< 8) +
      d.toUInt32)) := by
  have byte : ¬0xff < d.toUInt32 := by
    rw [UInt32.lt_iff_toNat_lt, UInt8.toNat_toUInt32]
    exact Nat.not_lt.mpr (Nat.le_of_lt_succ d.toNat_lt)
  rw [inetAton, dotted, decodeSections_dot, decodeSections_dot, decodeSections_dot,
    decodeSections_last, Option.bind_some]
  exact congrArg (Option.map htonl) (if_neg byte)

end TildaMk4.Net
