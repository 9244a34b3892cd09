import Mathlib.Data.List.DropRight

/-!
# Lines, numerals and UTF-8

Lists cut at a separator, decimal numerals in text, and the UTF-8 bytes of a text.
-/

namespace TildaMk4.Text

universe u

section Separator

variable {α : Type u}

/-- The elements before `stop`, which counts from the end when it is negative. -/
def upTo (items : List α) (stop : Int) : List α :=
  if 0 ≤ stop then items.take stop.toNat else items.take (items.length - (-stop).toNat)

/-- The pieces between the first `count` separators, and what follows them. -/
def splitMax [BEq α] (sep : α) : Nat → List α → List (List α)
  | 0, text => [text]
  | count + 1, text =>
    match text.idxOf? sep with
    | none => [text]
    | some i => text.take i :: splitMax sep count (text.drop (i + 1))

variable {sep : α} {line rest held later : List α}

/-- Of a line and what follows it, a first part has arrived: it ends inside the line
or goes on after its separator. -/
theorem arrived_cases (whole : held ++ later = line ++ sep :: rest) (fresh : sep ∉ line) :
    sep ∉ held ∨ ∃ after, held = line ++ sep :: after ∧ after ++ later = rest := by
  rcases List.append_eq_append_iff.mp whole with ⟨missing, inside, _⟩ | ⟨extra, past, onward⟩
  · apply Or.inl
    intro member
    apply fresh
    simp [inside, member]
  · cases extra with
    | nil =>
      apply Or.inl
      simpa [past] using fresh
    | cons first after =>
      apply Or.inr
      obtain ⟨rfl, same⟩ := List.cons.inj onward
      exact ⟨after, past, same.symm⟩

/-- The lines, each with the separator behind it. -/
def joined (sep : α) (lines : List (List α)) : List α := lines.flatMap fun line => line ++ [sep]

theorem joined_cons (sep : α) (line : List α) (lines : List (List α)) (rest : List α) :
    joined sep (line :: lines) ++ rest = line ++ sep :: (joined sep lines ++ rest) := by
  simp [joined]

theorem joined_append (sep : α) (lines more : List (List α)) (rest : List α) :
    joined sep (lines ++ more) ++ rest = joined sep lines ++ (joined sep more ++ rest) := by
  simp [joined]

/-- Of some lines a first part has arrived: some of them whole, and a piece of the next. -/
theorem cut_lines {lines : List (List α)} (fresh : sep ∉ rest) :
    (∀ line ∈ lines, sep ∉ line) → ∀ {held : List α}, held ++ later = joined sep lines ++ rest →
      ∃ first second piece, lines = first ++ second ∧ held = joined sep first ++ piece ∧
        sep ∉ piece ∧ piece ++ later = joined sep second ++ rest := by
  induction lines with
  | nil =>
    intro _ held whole
    have open_ : sep ∉ held := by
      intro member
      have inside : sep ∈ joined sep [] ++ rest := whole ▸ List.mem_append_left _ member
      exact fresh inside
    exact ⟨[], [], held, rfl, rfl, open_, whole⟩
  | cons line lines inductionHypothesis =>
    intro plain held whole
    obtain ⟨lineFresh, othersFresh⟩ := List.forall_mem_cons.mp plain
    have parts := (joined_cons sep line lines rest) ▸ whole
    rcases arrived_cases parts lineFresh with open_ | ⟨after, ended, onward⟩
    · exact ⟨[], line :: lines, held, rfl, rfl, open_, whole⟩
    · obtain ⟨first, second, piece, split, cut, open_, next⟩ :=
        inductionHypothesis othersFresh onward
      refine ⟨line :: first, second, piece, by rw [split, List.cons_append], ?_, open_, next⟩
      rw [ended, cut, joined_cons]

/-- A text begins with lines of a kind, and either has no more lines or goes on with one
that is not of that kind. -/
theorem exists_lines (sep : α) (kind : List α → Prop) (text : List α) :
    ∃ lines rest, text = joined sep lines ++ rest ∧ (∀ line ∈ lines, kind line) ∧
      (sep ∉ rest ∨ ∃ line after, rest = line ++ sep :: after ∧ sep ∉ line ∧ ¬kind line) := by
  classical
  induction length : text.length using Nat.strong_induction_on generalizing text with
  | _ _ inductionHypothesis =>
    subst length
    by_cases some_ : sep ∈ text
    · obtain ⟨line, after, rfl, fresh⟩ := List.eq_append_cons_of_mem some_
      by_cases good : kind line
      · obtain ⟨lines, rest, split, all, next⟩ := inductionHypothesis after.length
          (by simp only [List.length_append, List.length_cons]; omega) after rfl
        refine ⟨line :: lines, rest, ?_, List.forall_mem_cons.mpr ⟨good, all⟩, next⟩
        rw [joined_cons, ← split]
      · exact ⟨[], _, rfl, nofun, .inr ⟨line, after, rfl, fresh, good⟩⟩
    · exact ⟨[], text, rfl, nofun, .inl some_⟩

variable [BEq α] [LawfulBEq α]

theorem idxOf?_line (fresh : sep ∉ line) : (line ++ sep :: rest).idxOf? sep = some line.length := by
  induction line with
  | nil => simp [List.idxOf?_cons]
  | cons first line ih =>
    have other : first ≠ sep := fun same => fresh (by simp [same])
    have later : sep ∉ line := fun member => fresh (List.mem_cons_of_mem _ member)
    simp [List.idxOf?_cons, other, ih later]

theorem line_unique {line' rest' : List α} (same : line ++ sep :: rest = line' ++ sep :: rest')
    (fresh : sep ∉ line) (fresh' : sep ∉ line') : line = line' ∧ rest = rest' := by
  have lengths : line.length = line'.length := by
    have found := congrArg (List.idxOf? sep) same
    simpa [idxOf?_line fresh, idxOf?_line fresh'] using found
  obtain ⟨lines, rests⟩ := List.append_inj same lengths
  exact ⟨lines, (List.cons.inj rests).2⟩

theorem splitMax_line (fresh : sep ∉ line) (count : Nat) :
    splitMax sep (count + 1) (line ++ sep :: rest) = line :: splitMax sep count rest := by
  have past : (line ++ sep :: rest).drop (line.length + 1) = rest := by
    simp [← List.drop_drop]
  simp [splitMax, idxOf?_line fresh, past]

theorem splitMax_eq_cons (sep : α) (count : Nat) (text : List α) :
    ∃ first pieces, splitMax sep count text = first :: pieces ∧ (sep ∉ text → first = text) := by
  cases count with
  | zero => exact ⟨text, [], rfl, fun _ => rfl⟩
  | succ count =>
    cases found : text.idxOf? sep with
    | none => exact ⟨text, [], by simp [splitMax, found], fun _ => rfl⟩
    | some i =>
      refine ⟨text.take i, splitMax sep count (text.drop (i + 1)), by simp [splitMax, found], ?_⟩
      intro fresh
      exact absurd (List.idxOf?_eq_none_iff.mpr fresh) (by simp [found])

end Separator

/-- Whitespace: space, tab, line feed, carriage return, vertical tab and form feed. -/
def isSpace (c : Char) : Bool := c ∈ [' ', '\t', '\n', '\r', '\x0b', '\x0c']

def strip (text : List Char) : List Char := (text.dropWhile isSpace).rdropWhile isSpace

theorem mem_strip {text : List Char} {c : Char} (member : c ∈ text) :
    c ∈ strip text ∨ isSpace c = true := by
  by_contra outside
  obtain ⟨stripped, solid⟩ := not_or.mp outside
  apply stripped
  have front : c ∈ text.dropWhile isSpace := by
    have whole := List.takeWhile_append_dropWhile (p := isSpace) (l := text)
    rw [← whole] at member
    rcases List.mem_append.mp member with space | rest
    · exact absurd (List.mem_takeWhile_imp space) solid
    · exact rest
  have whole := List.rdropWhile_append_rtakeWhile (p := isSpace) (l := text.dropWhile isSpace)
  rw [← whole] at front
  rcases List.mem_append.mp front with rest | space
  · exact rest
  · exact absurd (List.mem_rtakeWhile_imp space) solid

/-- The number that decimal digits stand for. -/
def decimal (digits : List Char) : Nat := digits.foldl (fun n d => 10 * n + (d.toNat - 48)) 0

def parseNat (digits : List Char) : Option Nat :=
  if digits ≠ [] ∧ digits.all Char.isDigit then some (decimal digits) else none

/-- A decimal numeral with an optional sign, between whitespace. -/
def parseInt (text : List Char) : Option Int :=
  match strip text with
  | '-' :: digits => (parseNat digits).map fun n => -n
  | '+' :: digits => (parseNat digits).map fun n => n
  | digits => (parseNat digits).map fun n => n

/-- `text` is a decimal numeral for `n` and nothing else but whitespace around it. -/
structure Numeral (text : List Char) (n : Nat) : Prop where
  some_ : strip text ≠ []
  digits : ∀ d ∈ strip text, d.isDigit = true
  value : decimal (strip text) = n

theorem Numeral.parseInt {text : List Char} {n : Nat} (numeral : Numeral text n) :
    parseInt text = some n := by
  obtain ⟨some_, digits, value⟩ := numeral
  have parsed : parseNat (strip text) = some n := by
    simp [parseNat, some_, List.all_eq_true.mpr digits, value]
  unfold Text.parseInt
  split
  next rest split =>
    have impossible := digits '-' (by simp [split])
    exact absurd impossible (by decide)
  next rest split =>
    have impossible := digits '+' (by simp [split])
    exact absurd impossible (by decide)
  next => simp [parsed]

theorem isSpace_of_isDigit {d : Char} (digit : d.isDigit = true) : isSpace d = false := by
  apply Bool.eq_false_iff.mpr
  intro space
  simp only [isSpace, List.mem_cons, List.not_mem_nil, or_false, decide_eq_true_eq] at space
  rcases space with rfl | rfl | rfl | rfl | rfl | rfl <;> exact absurd digit (by decide)

theorem numeral_of_digits {digits : List Char} (some_ : digits ≠ [])
    (all : ∀ d ∈ digits, d.isDigit = true) : Numeral digits (decimal digits) := by
  have plain : ∀ d ∈ digits, isSpace d = false := fun d member =>
    isSpace_of_isDigit (all d member)
  have front : digits.dropWhile isSpace = digits := by
    cases digits with
    | nil => rfl
    | cons first rest => simp [plain first (by simp)]
  have same : strip digits = digits := by
    unfold strip
    rw [front, List.rdropWhile_eq_self_iff]
    intro nonempty space
    exact absurd (plain _ (List.getLast_mem nonempty)) (by simp [space])
  exact ⟨by simpa [same] using some_, by simpa [same] using all, by rw [same]⟩

/-- The whitespace around a numeral can be left out. -/
theorem Numeral.strip {text : List Char} {n : Nat} (numeral : Numeral text n) :
    Numeral (strip text) n := by
  have plain := numeral_of_digits numeral.some_ numeral.digits
  rwa [numeral.value] at plain

theorem Numeral.not_mem {text : List Char} {n : Nat} (numeral : Numeral text n) {c : Char}
    (solid : isSpace c = false) (other : c.isDigit = false) : c ∉ text := by
  intro member
  rcases mem_strip member with inside | space
  · exact absurd (numeral.digits c inside) (by simp [other])
  · exact absurd space (by simp [solid])

/-- ASCII letters in lower case. -/
def lower (text : List Char) : List Char := text.map Char.toLower

def encode (text : List Char) : List UInt8 := text.flatMap String.utf8EncodeChar

/-- The text that the bytes encode, if they are UTF-8. -/
def decode (bytes : List UInt8) : Option (List Char) :=
  bytes.toByteArray.utf8Decode?.map Array.toList

theorem decode_encode (text : List Char) : decode (encode text) = some text := by
  have encoded : (encode text).toByteArray = text.utf8Encode := rfl
  simp [decode, encoded]

/-- The bytes of a text are the only ones that are decoded to it. -/
theorem decode_eq_some {bytes : List UInt8} {text : List Char} :
    decode bytes = some text ↔ bytes = encode text := by
  constructor
  · intro decoded
    obtain ⟨characters, found, rfl⟩ := Option.map_eq_some_iff.mp decoded
    have valid : bytes.toByteArray.utf8Decode?.isSome = true :=
      Option.isSome_iff_exists.mpr ⟨_, found⟩
    have same : (bytes.toByteArray.utf8Decode?.get valid).toList.utf8Encode = bytes.toByteArray :=
      ByteArray.utf8Encode_get_utf8Decode?
    simp only [found, Option.get_some] at same
    exact (List.toByteArray_inj.mp same).symm
  · rintro rfl
    exact decode_encode text

/-- The encoding of a character holds a byte below 128 only if it is that character's. -/
theorem mem_utf8EncodeChar {c : Char} {b : UInt8} (member : b ∈ String.utf8EncodeChar c)
    (low : b.toNat < 128) : c.toNat = b.toNat := by
  have whole : c.toNat = c.val.toNat := rfl
  unfold String.utf8EncodeChar at member
  dsimp only at member
  rw [whole]
  split at member
  next small =>
    obtain rfl := List.mem_singleton.mp member
    simp only [UInt8.toNat_ofNat']
    omega
  next =>
    split at member
    next =>
      simp only [List.mem_cons, List.not_mem_nil, or_false] at member
      rcases member with rfl | rfl <;> simp only [UInt8.toNat_ofNat'] at low <;> omega
    next =>
      split at member
      next =>
        simp only [List.mem_cons, List.not_mem_nil, or_false] at member
        rcases member with rfl | rfl | rfl <;> simp only [UInt8.toNat_ofNat'] at low <;> omega
      next =>
        simp only [List.mem_cons, List.not_mem_nil, or_false] at member
        rcases member with rfl | rfl | rfl | rfl <;>
          simp only [UInt8.toNat_ofNat'] at low <;> omega

/-- A character below 128 is encoded by itself. -/
theorem utf8EncodeChar_of_low {c : Char} {b : UInt8} (same : c.toNat = b.toNat)
    (low : b.toNat < 128) : String.utf8EncodeChar c = [b] := by
  have whole : c.toNat = c.val.toNat := rfl
  have one : c.utf8Size = 1 := by
    rw [Char.utf8Size_eq_one_iff, UInt32.le_iff_toNat_le]
    change c.val.toNat ≤ 127
    omega
  rw [String.utf8EncodeChar_eq_singleton one]
  refine congrArg (fun b => [b]) (UInt8.toNat_inj.mp ?_)
  rw [UInt32.toNat_toUInt8, ← whole, same]
  omega

/-- A text can be cut at a character below 128 in its bytes. -/
theorem encode_cut {b : UInt8} (low : b.toNat < 128) {text : List Char} :
    ∀ {before after : List UInt8}, encode text = before ++ b :: after → b ∉ before →
      ∃ first c second, text = first ++ c :: second ∧ c.toNat = b.toNat ∧
        encode first = before ∧ encode second = after := by
  induction text with
  | nil => exact fun whole _ => absurd whole.symm (List.append_ne_nil_of_right_ne_nil _ nofun)
  | cons c text ih =>
    intro before after whole fresh
    change String.utf8EncodeChar c ++ encode text = before ++ b :: after at whole
    rcases List.append_eq_append_iff.mp whole with ⟨missing, inside, rest⟩ | ⟨extra, past, onward⟩
    · subst inside
      rw [List.mem_append, not_or] at fresh
      obtain ⟨first, d, second, rfl, same, rfl, later⟩ := ih rest fresh.2
      exact ⟨c :: first, d, second, rfl, same, rfl, later⟩
    · cases extra with
      | nil =>
        have next : encode text = [] ++ b :: after := onward.symm
        obtain ⟨first, d, second, rfl, same, none_, later⟩ := ih next List.not_mem_nil
        refine ⟨c :: first, d, second, rfl, same, ?_, later⟩
        rw [List.append_nil] at past
        rw [← past, ← List.append_nil (String.utf8EncodeChar c), ← none_]
        rfl
      | cons d extra =>
        -- the byte is that of `c`, so nothing stands before it
        obtain ⟨rfl, rest⟩ := List.cons.inj onward
        have member : b ∈ String.utf8EncodeChar c :=
          past ▸ List.mem_append_right _ List.mem_cons_self
        have same := mem_utf8EncodeChar member low
        rw [utf8EncodeChar_of_low same low] at past
        obtain ⟨rfl, rfl⟩ : before = [] ∧ extra = [] := by
          cases before with
          | nil => exact ⟨rfl, (List.cons.inj past).2.symm⟩
          | cons _ _ =>
            have short := (List.cons.inj past).2.symm
            exact absurd short (List.append_ne_nil_of_right_ne_nil _ nofun)
        exact ⟨[], c, text, rfl, same, rfl, rest.symm⟩

end TildaMk4.Text
