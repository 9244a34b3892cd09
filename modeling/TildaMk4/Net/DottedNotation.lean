import Mathlib.Data.List.TakeDrop
import Mathlib.Tactic.IntervalCases
import TildaMk4.Lib.Bytes
import TildaMk4.Net.InetAton

/-!
# The dotted notation

What an address in dotted notation is, its sections being unbounded numbers, and which
strings `inet_aton` reads as that.
-/

namespace TildaMk4.Net

open Memory

/-- A section of a string, and whether a dot follows it. -/
structure Part where
  text : List Char
  dotted : Bool
  deriving DecidableEq

/-- The sections from the one on whose text `begun` has been read. -/
def split (begun : List Char) : List Char → List Part
  | [] => if begun = [] then [] else [⟨begun, false⟩]
  | c :: rest => if c = '.' then ⟨begun, true⟩ :: split [] rest else split (begun ++ [c]) rest

/-- The sections of a string up to a fourth dot. -/
def parts (str : List Char) : List Part := (split [] str).take 4

/-- The base of a section and its digits. -/
def numeral : List Char → Nat × List Char
  | '0' :: 'x' :: digits => (16, digits)
  | '0' :: 'X' :: digits => (16, digits)
  | '0' :: digits => (8, digits)
  | digits => (10, digits)

def digitValue (c : Char) : Option Nat :=
  if '0' ≤ c ∧ c ≤ '9' then some (c.toNat - '0'.toNat)
  else if 'A' ≤ c ∧ c ≤ 'F' then some (c.toNat - 'A'.toNat + 10)
  else if 'a' ≤ c ∧ c ≤ 'f' then some (c.toNat - 'a'.toNat + 10)
  else none

/-- The number that digits continue; what is no digit is skipped. -/
def valueFrom (base : Nat) : Nat → List Char → Nat
  | n, [] => n
  | n, c :: digits =>
    match digitValue c with
    | some digit => valueFrom base (n * base + digit) digits
    | none => valueFrom base n digits

namespace Part

def base (p : Part) : Nat := (numeral p.text).1

def digits (p : Part) : List Char := (numeral p.text).2

def value (p : Part) : Nat := valueFrom p.base 0 p.digits

/-- Every character is a blank or a digit of the section's base. -/
def Proper (p : Part) : Prop :=
  ∀ c ∈ p.digits, c = ' ' ∨ ∃ digit ∈ digitValue c, digit < p.base

end Part

/-- The bound of the last of `k` sections: it fills what the others leave. -/
def lastBound (k : Nat) : Nat := 2 ^ (8 * (5 - k)) - 1

/-- The sections are an address in dotted notation. -/
def Address (ps : List Part) : Prop :=
  ps ≠ [] ∧ (∀ p ∈ ps, p.Proper) ∧ (∀ p ∈ ps, p.dotted = true → p.value ≤ 255) ∧
    ∀ p ∈ ps.getLast?, p.value ≤ lastBound ps.length

/-- The sections as one number: each takes a byte from the highest free one on, and the
last takes the rest. -/
def combine : Nat → List Nat → Nat
  | _, [] => 0
  | _, [last] => last
  | free, val :: rest => val * 256 ^ free + combine (free - 1) rest

instance (p : Part) : Decidable p.Proper :=
  List.decidableBAll (fun c => c = ' ' ∨ ∃ digit ∈ digitValue c, digit < p.base) p.digits

instance (ps : List Part) : Decidable (Address ps) :=
  inferInstanceAs (Decidable (_ ∧ _ ∧ _ ∧ _))

/-- The bytes of the address that a string denotes. -/
def dottedNotation (str : List Char) : Option (List UInt8) :=
  if Address (parts str) then some (encodeBE 4 (combine 3 ((parts str).map Part.value))) else none

/-- The bytes of `s_addr` in memory. -/
def stored (addr : UInt32) : List UInt8 := encodeLE 4 addr.toNat

example : dottedNotation "192.0x.017.8".toList = some [192, 0, 15, 8] := by decide

/-- Every character is a blank or something that `inet_aton` takes for a digit: 8 and 9
are digits in every base. -/
def Loose (base : Nat) (digits : List Char) : Prop :=
  ∀ c ∈ digits, c = ' ' ∨ ∃ digit ∈ digitValue c, digit < 10 ∨ base = 16

instance (base : Nat) (digits : List Char) : Decidable (Loose base digits) :=
  List.decidableBAll (fun c => c = ' ' ∨ ∃ digit ∈ digitValue c, digit < 10 ∨ base = 16) digits

/-- The sections pass for an address if 8 and 9 are octal digits and sections are taken
modulo 2^32. -/
def Resembles (ps : List Part) : Prop :=
  ps ≠ [] ∧ (∀ p ∈ ps, Loose p.base p.digits) ∧
    (∀ p ∈ ps, p.dotted = true → p.value % 2 ^ 32 ≤ 255) ∧ ∀ p ∈ ps.getLast?, p.value % 2 ^ 32 ≤ lastBound ps.length

instance (ps : List Part) : Decidable (Resembles ps) :=
  inferInstanceAs (Decidable (_ ∧ _ ∧ _ ∧ _))

/-- An 8 or a 9 in an octal section or a section of 2^32 or more, and nothing else that
would be refused. -/
def Misread (ps : List Part) : Prop :=
  Resembles ps ∧ ∃ p ∈ ps, ¬ p.Proper ∨ 2 ^ 32 ≤ p.value

instance (ps : List Part) : Decidable (Misread ps) := inferInstanceAs (Decidable (_ ∧ _))

/-! ## Digits -/

theorem toNat_sub_lt_ten {c : Char} (decimal : '0' ≤ c ∧ c ≤ '9') : c.toNat - '0'.toNat < 10 := by
  have high : c.toNat ≤ '9'.toNat := UInt32.le_iff_toNat_le.mp decimal.2
  simp only [Char.reduceToNat] at high ⊢
  omega

theorem digit?_eq {base : Nat} (small : base < 2 ^ 32) (c : Char) :
    digit? (.ofNat base) c = (digitValue c).bind fun digit =>
      if digit < 10 ∨ base = 16 then some (.ofNat digit) else none := by
  have hex : UInt32.ofNat base = 16 ↔ base = 16 := by
    rw [← UInt32.toNat_inj, UInt32.toNat_ofNat_of_lt' small]
    rfl
  unfold digit? digitValue
  simp only [hex]
  have large (n : Nat) : ¬ n + 10 < 10 := Nat.not_lt.mpr (Nat.le_add_left 10 n)
  by_cases decimal : '0' ≤ c ∧ c ≤ '9'
  · simp only [if_pos decimal, Option.bind_some, if_pos (Or.inl (toNat_sub_lt_ten decimal))]
  · by_cases upper : 'A' ≤ c ∧ c ≤ 'F'
    · by_cases sixteen : base = 16 <;>
        simp only [decimal, upper, sixteen, large, if_true, if_false, Option.bind_some,
          true_and, false_and, or_true, or_false, and_self]
    · by_cases sixteen : base = 16 <;> by_cases lower : 'a' ≤ c ∧ c ≤ 'f' <;>
        simp only [decimal, upper, lower, sixteen, large, if_true, if_false, and_false,
          Option.bind_some, Option.bind_none, false_and, or_true, or_false, and_self]

theorem Part.base_cases (p : Part) : p.base = 16 ∨ p.base = 8 ∨ p.base = 10 := by
  unfold Part.base numeral
  split <;> simp

/-- What a digit of the base is, `inet_aton` takes for one. -/
theorem Part.Proper.loose {p : Part} (proper : p.Proper) : Loose p.base p.digits := by
  intro c member
  refine (proper c member).imp_right fun ⟨digit, known, low⟩ => ⟨digit, known, ?_⟩
  rcases p.base_cases with base | base | base <;> omega

theorem digitValue_dot : digitValue '.' = none := by decide

theorem digitValue_blank : digitValue ' ' = none := by decide

section Number

variable {base : Nat}

theorem decodeNumber_digit (small : base < 2 ^ 32) {c : Char} {digit : Nat}
    (known : digitValue c = some digit) (passes : digit < 10 ∨ base = 16) (n : Nat)
    (str : List Char) :
    decodeNumber (.ofNat base) (.ofNat n) (c :: str) =
      decodeNumber (.ofNat base) (.ofNat (n * base + digit)) str := by
  rw [decodeNumber, digit?_eq small, known, Option.bind_some, if_pos passes, UInt32.ofNat_add,
    UInt32.ofNat_mul]

theorem decodeNumber_none (small : base < 2 ^ 32) {c : Char}
    (none_ : ∀ digit ∈ digitValue c, ¬ (digit < 10 ∨ base = 16)) (val : UInt32)
    (str : List Char) :
    decodeNumber (.ofNat base) val (c :: str) =
      if c = '.' then .dot val str
      else if c ≠ ' ' then .bad
      else decodeNumber (.ofNat base) val str := by
  have nothing : digit? (.ofNat base) c = none := by
    rw [digit?_eq small]
    cases known : digitValue c with
    | none => rfl
    | some digit => exact if_neg (none_ digit known)
  rw [decodeNumber, nothing]

/-- The digits of a section before what follows it. -/
theorem decodeNumber_append (small : base < 2 ^ 32) {text : List Char} (after : List Char)
    (fresh : '.' ∉ text) : ∀ n, decodeNumber (.ofNat base) (.ofNat n) (text ++ after) =
      if Loose base text then decodeNumber (.ofNat base) (.ofNat (valueFrom base n text)) after
      else .bad := by
  induction text with
  | nil =>
    intro n
    exact (if_pos nofun).symm
  | cons c text ih =>
    intro n
    simp only [List.mem_cons, not_or] at fresh
    have notDot := Ne.symm fresh.1
    have ih := ih fresh.2
    by_cases passes : ∃ digit ∈ digitValue c, digit < 10 ∨ base = 16
    · obtain ⟨digit, known, passes⟩ := passes
      have same : Loose base (c :: text) ↔ Loose base text := by
        simp only [Loose, List.forall_mem_cons, and_iff_right_iff_imp]
        exact fun _ => .inr ⟨digit, known, passes⟩
      rw [List.cons_append, decodeNumber_digit small known passes, ih, valueFrom, known]
      simp only [same]
    · have refused : ∀ digit ∈ digitValue c, ¬ (digit < 10 ∨ base = 16) :=
        fun digit known ok => passes ⟨digit, known, ok⟩
      rw [List.cons_append, decodeNumber_none small refused, if_neg notDot]
      by_cases blank : c = ' '
      · subst blank
        have same : Loose base (' ' :: text) ↔ Loose base text := by
          simp [Loose]
        simp only [ne_eq, not_true_eq_false, if_false, ih, same, valueFrom, digitValue_blank]
      · rw [if_pos blank, if_neg]
        intro loose
        exact (loose c (List.mem_cons_self ..)).elim blank passes

end Number

/-! ## Sections -/

theorem getBase_eq (text : List Char) :
    getBase text = (.ofNat (numeral text).1, (numeral text).2) := by
  unfold getBase numeral
  split <;> simp_all

theorem getBase_text (text : List Char) (rest : List Char) :
    getBase (text ++ '.' :: rest) = (.ofNat (numeral text).1, (numeral text).2 ++ '.' :: rest) := by
  by_cases empty : text = []
  · subst empty
    rfl
  · rw [getBase_dot empty, getBase_eq]

namespace Part

variable (p : Part)

theorem base_lt : p.base < 2 ^ 32 := by
  rcases p.base_cases with base | base | base <;> omega

theorem dot_not_mem_digits {p : Part} (fresh : '.' ∉ p.text) : '.' ∉ p.digits := by
  intro member
  apply fresh
  apply mem_of_mem_getBase
  rw [getBase_eq]
  exact member

end Part

theorem decodeSection_last (p : Part) (fresh : '.' ∉ p.text) :
    decodeSection p.text =
      if Loose p.base p.digits then .ended (.ofNat p.value) else .bad := by
  have read := decodeNumber_append p.base_lt [] (Part.dot_not_mem_digits fresh) 0
  rw [List.append_nil] at read
  rw [decodeSection, getBase_eq]
  exact read

theorem decodeSection_dotted (p : Part) (fresh : '.' ∉ p.text) (rest : List Char) :
    decodeSection (p.text ++ '.' :: rest) =
      if Loose p.base p.digits then .dot (.ofNat p.value) rest else .bad := by
  have dot : ∀ val, decodeNumber (.ofNat p.base) val ('.' :: rest) = .dot val rest := by
    intro val
    rw [decodeNumber_none p.base_lt (by simp [digitValue_dot]), if_pos rfl]
  have read := decodeNumber_append p.base_lt ('.' :: rest) (Part.dot_not_mem_digits fresh) 0
  rw [dot] at read
  rw [decodeSection, getBase_text]
  exact read

section Split

variable {begun text : List Char}

theorem split_dotted (rest : List Char) (fresh : '.' ∉ text) :
    split begun (text ++ '.' :: rest) = ⟨begun ++ text, true⟩ :: split [] rest := by
  induction text generalizing begun with
  | nil => simp [split]
  | cons c text ih =>
    simp only [List.mem_cons, not_or] at fresh
    rw [List.cons_append, split, if_neg (Ne.symm fresh.1), ih fresh.2, List.append_assoc,
      List.singleton_append]

theorem split_last (fresh : '.' ∉ text) (some_ : begun ++ text ≠ []) :
    split begun text = [⟨begun ++ text, false⟩] := by
  induction text generalizing begun with
  | nil =>
    rw [List.append_nil] at some_ ⊢
    exact if_neg some_
  | cons c text ih =>
    simp only [List.mem_cons, not_or] at fresh
    rw [split, if_neg (Ne.symm fresh.1), ih fresh.2 (by simp), List.append_assoc,
      List.singleton_append]

end Split

/-- `inet_aton` goes on behind the section. -/
def Part.Passes (p : Part) : Prop :=
  Loose p.base p.digits ∧ (p.dotted = true → p.value % 2 ^ 32 ≤ 255)

instance (p : Part) : Decidable p.Passes := inferInstanceAs (Decidable (_ ∧ _))

/-- What `inet_aton` keeps of a section. -/
def readPart (p : Part) : Option UInt32 := if p.Passes then some (.ofNat p.value) else none

theorem exceeds_iff {bound : Nat} (small : bound < 2 ^ 32) (n : Nat) :
    UInt32.ofNat bound < .ofNat n ↔ ¬ n % 2 ^ 32 ≤ bound := by
  rw [UInt32.lt_iff_toNat_lt, UInt32.toNat_ofNat_of_lt' small, UInt32.toNat_ofNat', Nat.not_le]

theorem large_iff (n : Nat) : 255 < UInt32.ofNat n ↔ ¬ n % 2 ^ 32 ≤ 255 :=
  exceeds_iff (by decide) n

theorem decodeSections_of_ne_nil {more : Nat} {vals : List UInt32} {str : List Char}
    (some_ : str ≠ []) : decodeSections more vals str =
      match decodeSection str with
      | .bad => none
      | .ended val => some (vals ++ [val])
      | .dot val rest =>
        if 255 < val then none
        else
          match more with
          | 0 => some (vals ++ [val])
          | more + 1 => decodeSections more (vals ++ [val]) rest := by
  obtain ⟨c, str, rfl⟩ := List.exists_cons_of_ne_nil some_
  cases more <;> rfl

theorem decodeSections_dotted (more : Nat) (vals : List UInt32) (p : Part) (fresh : '.' ∉ p.text)
    (dotted : p.dotted = true) (rest : List Char) :
    decodeSections more vals (p.text ++ '.' :: rest) =
      (readPart p).bind fun val =>
        match more with
        | 0 => some (vals ++ [val])
        | more + 1 => decodeSections more (vals ++ [val]) rest := by
  rw [decodeSections_of_ne_nil (by simp), decodeSection_dotted p fresh, readPart]
  by_cases loose : Loose p.base p.digits
  · by_cases large : p.value % 2 ^ 32 ≤ 255
    · simp only [Part.Passes, loose, dotted, large, large_iff, if_true, not_true_eq_false, if_false,
        true_and, forall_const, Option.bind_some]
    · simp only [Part.Passes, loose, dotted, large, large_iff, if_true, not_false_eq_true, if_false,
        and_false, forall_const, Option.bind_none]
  · simp only [Part.Passes, loose, if_false, false_and, Option.bind_none]

theorem decodeSections_last_part (more : Nat) (vals : List UInt32) (p : Part)
    (fresh : '.' ∉ p.text) (some_ : p.text ≠ []) (last : p.dotted = false) :
    decodeSections more vals p.text = (readPart p).map fun val => vals ++ [val] := by
  rw [decodeSections_of_ne_nil some_, decodeSection_last p fresh, readPart]
  by_cases loose : Loose p.base p.digits <;> simp [Part.Passes, loose, last]

/-- A string without a dot has one section, or none. -/
theorem decodeSections_no_dot (more : Nat) (vals : List UInt32) {str : List Char}
    (fresh : '.' ∉ str) : decodeSections more vals str =
      (((split [] str).take (more + 1)).mapM readPart).map (vals ++ ·) := by
  by_cases empty : str = []
  · subst empty
    cases more <;> simp [decodeSections, split]
  · have whole : split [] str = [⟨str, false⟩] := split_last fresh empty
    rw [decodeSections_last_part more vals ⟨str, false⟩ fresh empty rfl, whole]
    cases read : readPart ⟨str, false⟩ <;> simp [read]

/-- The loop over the sections reads the first ones of the string. -/
theorem decodeSections_eq (more : Nat) : ∀ vals str, decodeSections more vals str =
    (((split [] str).take (more + 1)).mapM readPart).map (vals ++ ·) := by
  induction more with
  | zero =>
    intro vals str
    by_cases dot : '.' ∈ str
    · obtain ⟨text, rest, rfl, fresh⟩ := List.eq_append_cons_of_mem dot
      rw [split_dotted rest fresh, decodeSections_dotted 0 vals ⟨text, true⟩ fresh rfl]
      cases read : readPart ⟨text, true⟩ <;> simp [read]
    · exact decodeSections_no_dot 0 vals dot
  | succ more ih =>
    intro vals str
    by_cases dot : '.' ∈ str
    · obtain ⟨text, rest, rfl, fresh⟩ := List.eq_append_cons_of_mem dot
      rw [split_dotted rest fresh, decodeSections_dotted _ vals ⟨text, true⟩ fresh rfl]
      cases read : readPart ⟨text, true⟩ with
      | none => simp [read]
      | some val =>
        simp only [Option.bind_some, ih, List.take_succ_cons, List.nil_append, List.mapM_cons, read]
        cases ((split [] rest).take (more + 1)).mapM readPart <;> simp
    · exact decodeSections_no_dot _ vals dot

theorem mapM_readPart (ps : List Part) : ps.mapM readPart =
    if ∀ p ∈ ps, p.Passes then some (ps.map fun p => .ofNat p.value) else none := by
  induction ps with
  | nil => rfl
  | cons p ps ih =>
    rw [List.mapM_cons, ih, readPart]
    by_cases first : p.Passes
    · by_cases rest : ∀ q ∈ ps, q.Passes
      · rw [if_pos first, if_pos rest, if_pos (List.forall_mem_cons.mpr ⟨first, rest⟩)]
        rfl
      · rw [if_pos first, if_neg rest, if_neg fun all => rest (List.forall_mem_cons.mp all).2]
        rfl
    · rw [if_neg first, if_neg fun all => first (List.forall_mem_cons.mp all).1]
      rfl

theorem shiftLeft_ofNat (n free : Nat) (bits : UInt32) (whole : bits.toNat = 8 * free)
    (inside : free < 4) : UInt32.ofNat n <<< bits = .ofNat (n * 256 ^ free) := by
  have small : bits.toNat < 32 := by omega
  apply UInt32.toNat_inj.mp
  rw [UInt32.toNat_shiftLeft, Nat.mod_eq_of_lt small, Nat.shiftLeft_eq, UInt32.toNat_ofNat',
    UInt32.toNat_ofNat', Nat.mod_mul_mod, whole, Nat.pow_mul]

/-- The switch puts at most four sections together. -/
theorem joinSections_eq (vals : List Nat) (few : vals.length ≤ 4) :
    joinSections (vals.map .ofNat) =
      if vals ≠ [] ∧ ∀ last ∈ vals.getLast?, last % 2 ^ 32 ≤ lastBound vals.length then
        some (.ofNat (combine 3 vals))
      else none := by
  match vals with
  | [] => rfl
  | [a] =>
    have whole : a % 2 ^ 32 ≤ lastBound 1 := Nat.le_sub_one_of_lt (Nat.mod_lt a (by decide))
    simp only [List.length_singleton, List.getLast?_singleton, Option.mem_some_iff, forall_eq',
      whole, ne_eq, List.cons_ne_self, not_false_eq_true, and_self, if_true]
    rfl
  | [a, b] =>
    have exceeds : 0xffffff < UInt32.ofNat b ↔ _ := exceeds_iff (by decide) b
    have top : UInt32.ofNat a <<< 24 = _ := shiftLeft_ofNat a 3 24 rfl (by decide)
    simp only [List.map_cons, List.map_nil, joinSections, exceeds, top, ← UInt32.ofNat_add, ite_not]
    simp [combine, lastBound]
  | [a, b, c] =>
    have exceeds : 0xffff < UInt32.ofNat c ↔ _ := exceeds_iff (by decide) c
    have top : UInt32.ofNat a <<< 24 = _ := shiftLeft_ofNat a 3 24 rfl (by decide)
    have next : UInt32.ofNat b <<< 16 = _ := shiftLeft_ofNat b 2 16 rfl (by decide)
    simp only [List.map_cons, List.map_nil, joinSections, exceeds, top, next,
      ← UInt32.ofNat_add, ite_not]
    simp [combine, lastBound, Nat.add_assoc]
  | [a, b, c, d] =>
    have exceeds : 0xff < UInt32.ofNat d ↔ _ := exceeds_iff (by decide) d
    have top : UInt32.ofNat a <<< 24 = _ := shiftLeft_ofNat a 3 24 rfl (by decide)
    have next : UInt32.ofNat b <<< 16 = _ := shiftLeft_ofNat b 2 16 rfl (by decide)
    have third : UInt32.ofNat c <<< 8 = _ := shiftLeft_ofNat c 1 8 rfl (by decide)
    simp only [List.map_cons, List.map_nil, joinSections, exceeds, top, next, third,
      ← UInt32.ofNat_add, ite_not]
    simp [combine, lastBound, Nat.add_assoc]
  | _ :: _ :: _ :: _ :: _ :: _ =>
    simp only [List.length_cons] at few
    omega

/-! ## The address in memory -/

theorem toUInt8_shiftRight (addr bits : UInt32) (small : bits.toNat < 32) :
    (addr >>> bits).toUInt8 = .ofNat (addr.toNat / 2 ^ bits.toNat) := by
  apply UInt8.toNat_inj.mp
  rw [UInt32.toNat_toUInt8, UInt32.toNat_shiftRight, Nat.mod_eq_of_lt small,
    Nat.shiftRight_eq_div_pow, UInt8.toNat_ofNat']

theorem stored_eq_bytes (addr : UInt32) : stored addr =
    [addr.toUInt8, (addr >>> 8).toUInt8, (addr >>> 16).toUInt8, (addr >>> 24).toUInt8] := by
  rw [toUInt8_shiftRight addr 8 (by decide), toUInt8_shiftRight addr 16 (by decide),
    toUInt8_shiftRight addr 24 (by decide)]
  simp only [stored, encodeLE, Nat.div_div_eq_div_mul]
  rfl

/-- The byte that `htonl` moves from `source` bits up to `target` bits up. -/
theorem htonl_shiftRight (addr : UInt32) :
    (htonl addr).toUInt8 = (addr >>> 24).toUInt8 ∧
      (htonl addr >>> 8).toUInt8 = (addr >>> 16).toUInt8 ∧
      (htonl addr >>> 16).toUInt8 = (addr >>> 8).toUInt8 ∧
      (htonl addr >>> 24).toUInt8 = addr.toUInt8 := by
  refine ⟨?_, ?_, ?_, ?_⟩ <;> apply UInt8.eq_of_toBitVec_eq <;>
    apply BitVec.eq_of_getLsbD_eq <;> intro i bound <;> interval_cases i <;> simp [htonl]

theorem stored_htonl (addr : UInt32) : stored (htonl addr) = (stored addr).reverse := by
  obtain ⟨first, second, third, fourth⟩ := htonl_shiftRight addr
  rw [stored_eq_bytes, stored_eq_bytes, first, second, third, fourth]
  rfl

theorem stored_htonl_ofNat (n : Nat) : stored (htonl (.ofNat n)) = encodeBE 4 n := by
  rw [stored_htonl, stored, UInt32.toNat_ofNat', encodeBE]
  congr 1
  exact encodeLE_mod 4 n

theorem inetAton_eq (str : List Char) :
    (inetAton str).map stored =
      if Resembles (parts str) then some (encodeBE 4 (combine 3 ((parts str).map Part.value)))
      else none := by
  have few : ((parts str).map Part.value).length ≤ 4 := by
    rw [List.length_map]
    exact List.length_take_le 4 _
  have joined := joinSections_eq _ few
  rw [List.map_map, List.length_map, List.getLast?_map] at joined
  have sections : decodeSections 3 [] str = (parts str).mapM readPart := by
    rw [decodeSections_eq]
    exact Option.map_id'
  rw [inetAton, sections, mapM_readPart]
  by_cases read : ∀ p ∈ parts str, p.Passes
  · have same : Resembles (parts str) ↔ (parts str).map Part.value ≠ [] ∧
        ∀ last ∈ (parts str).getLast?.map Part.value,
          last % 2 ^ 32 ≤ lastBound (parts str).length := by
      constructor
      · rintro ⟨some_, -, -, last⟩
        exact ⟨by simpa using some_, by simpa using last⟩
      · rintro ⟨some_, last⟩
        exact ⟨by simpa using some_, fun p member => (read p member).1,
          fun p member => (read p member).2, by simpa using last⟩
    simp only [if_pos read, Option.bind_some]
    change Option.map stored (Option.map htonl (joinSections
      (List.map (UInt32.ofNat ∘ Part.value) _))) = _
    rw [joined]
    by_cases resembles : Resembles (parts str)
    · rw [if_pos resembles, if_pos (same.mp resembles), Option.map_some, Option.map_some,
        stored_htonl_ofNat]
    · rw [if_neg resembles, if_neg fun ok => resembles (same.mpr ok)]
      rfl
  · have refused : ¬ Resembles (parts str) := by
      rintro ⟨-, loose, low, -⟩
      exact read fun p member => ⟨loose p member, low p member⟩
    rw [if_neg read, if_neg refused]
    rfl

/-! ## What is misread -/

theorem dotted_of_mem_dropLast {begun str : List Char} {p : Part}
    (member : p ∈ (split begun str).dropLast) : p.dotted = true := by
  induction str generalizing begun with
  | nil =>
    rw [split] at member
    split at member <;> cases member
  | cons c str ih =>
    rw [split] at member
    split at member
    next =>
      by_cases last : split [] str = []
      · rw [last] at member
        cases member
      · rw [List.dropLast_cons_of_ne_nil last] at member
        rcases List.mem_cons.mp member with rfl | later
        · rfl
        · exact ih later
    next => exact ih member

theorem dotted_or_last {str : List Char} {p : Part} (member : p ∈ parts str) :
    p.dotted = true ∨ p ∈ (parts str).getLast? := by
  have some_ : parts str ≠ [] := List.ne_nil_of_mem member
  rw [← List.dropLast_concat_getLast some_] at member
  rcases List.mem_append.mp member with before | last
  · rw [parts, List.dropLast_take_eq_take_dropLast] at before
    exact .inl (dotted_of_mem_dropLast (List.mem_of_mem_take before))
  · right
    rw [List.getLast?_eq_some_getLast some_]
    exact congrArg some (List.mem_singleton.mp last).symm

theorem lastBound_lt {ps : List Part} (some_ : ps ≠ []) : lastBound ps.length < 2 ^ 32 := by
  have one : 1 ≤ ps.length := List.length_pos_iff.mpr some_
  have smaller : 2 ^ (8 * (5 - ps.length)) ≤ 2 ^ 32 := Nat.pow_le_pow_right (by decide) (by omega)
  have positive : 0 < 2 ^ (8 * (5 - ps.length)) := Nat.two_pow_pos _
  rw [lastBound]
  omega

/-- An address is what resembles one, with every digit below its base and no section too
long for 32 bits. -/
theorem address_iff (str : List Char) : Address (parts str) ↔
    Resembles (parts str) ∧ ∀ p ∈ parts str, p.Proper ∧ p.value < 2 ^ 32 := by
  constructor
  · rintro ⟨some_, proper, low, last⟩
    have small : ∀ p ∈ parts str, p.value < 2 ^ 32 := by
      intro p member
      rcases dotted_or_last member with dotted | final
      · exact Nat.lt_of_le_of_lt (low p member dotted) (by decide)
      · exact Nat.lt_of_le_of_lt (last p final) (lastBound_lt some_)
    refine ⟨⟨some_, fun p member => (proper p member).loose, ?_, ?_⟩,
      fun p member => ⟨proper p member, small p member⟩⟩
    · intro p member dotted
      rw [Nat.mod_eq_of_lt (small p member)]
      exact low p member dotted
    · intro p final
      rw [Nat.mod_eq_of_lt (small p (List.mem_of_mem_getLast? final))]
      exact last p final
  · rintro ⟨⟨some_, -, low, last⟩, fits⟩
    refine ⟨some_, fun p member => (fits p member).1, ?_, ?_⟩
    · intro p member dotted
      rw [← Nat.mod_eq_of_lt (fits p member).2]
      exact low p member dotted
    · intro p final
      rw [← Nat.mod_eq_of_lt (fits p (List.mem_of_mem_getLast? final)).2]
      exact last p final

theorem misread_iff (str : List Char) :
    Misread (parts str) ↔ Resembles (parts str) ∧ ¬ Address (parts str) := by
  have not_fits (p : Part) : ¬ (p.Proper ∧ p.value < 2 ^ 32) ↔ ¬ p.Proper ∨ 2 ^ 32 ≤ p.value := by
    rw [not_and_or, Nat.not_lt]
  rw [Misread, address_iff]
  simp only [not_and, not_forall, ← not_fits, exists_prop]
  exact ⟨fun ⟨resembles, bad⟩ => ⟨resembles, fun _ => bad⟩,
    fun ⟨resembles, bad⟩ => ⟨resembles, bad resembles⟩⟩

/-- `inet_aton` on memory: no access fails, and the string is read as the dotted notation
says, unless it is misread. -/
theorem inetAton_dottedNotation_iff (vals : List UInt32) (four : vals.length = 4)
    (str : List Char) (fresh : nul ∉ str) :
    ∃ result, inetAtonAt vals (str ++ [nul]) = .ok result ∧
      (result.map stored = dottedNotation str ↔ ¬ Misread (parts str)) := by
  refine ⟨inetAton str, inetAtonAt_terminated four fresh, ?_⟩
  rw [inetAton_eq, dottedNotation, misread_iff]
  by_cases address : Address (parts str)
  · have resembles := ((address_iff str).mp address).1
    simp [address, resembles]
  · by_cases resembles : Resembles (parts str) <;> simp [address, resembles]

/-- A hexadecimal, an octal and two decimal sections. -/
theorem inetAton_dottedNotation_iff_mixed :
    ∃ result, inetAtonAt [0, 0, 0, 0] ("0xC0.0250.1.20".toList ++ [nul]) = .ok result ∧
      result.map stored = some [192, 168, 1, 20] := by
  obtain ⟨result, returned, exactly⟩ := inetAton_dottedNotation_iff [0, 0, 0, 0] rfl
    "0xC0.0250.1.20".toList (by decide)
  exact ⟨result, returned, (exactly.mpr (by decide)).trans (by decide)⟩

/-- A section of 2^32 + 1 passes for 1. -/
theorem inetAton_dottedNotation_fails :
    ¬ ∀ (vals : List UInt32), vals.length = 4 → ∀ str : List Char, nul ∉ str →
      ∃ result, inetAtonAt vals (str ++ [nul]) = .ok result ∧
        result.map stored = dottedNotation str := by
  intro claim
  obtain ⟨result, returned, right⟩ := claim [0, 0, 0, 0] rfl "4294967297".toList (by decide)
  rw [inetAtonAt_terminated rfl (by decide)] at returned
  obtain rfl := Except.ok.inj returned
  exact absurd right (by decide)

end TildaMk4.Net
