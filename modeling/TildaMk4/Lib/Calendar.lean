import Mathlib.Data.Nat.Find
import Mathlib.Order.Monotone.Basic

/-!
# Calendar dates

Pieces of given lengths laid end to end, and the piece that a number lies in. Years
and months are two such layouts, which gives the Gregorian calendar from 2000 on as
a bijection between valid dates and seconds.
-/

namespace TildaMk4.Calendar

section Pieces

/-- Where piece `k` begins when pieces of the lengths `len` follow each other. -/
def startOf (len : Nat → Nat) : Nat → Nat
  | 0 => 0
  | k + 1 => startOf len k + len k

variable {len : Nat → Nat}

theorem startOf_mono : Monotone (startOf len) :=
  monotone_nat_of_le_succ fun k => Nat.le_add_right (startOf len k) (len k)

theorem le_startOf {shortest : Nat} (long : ∀ k, shortest ≤ len k) (k : Nat) :
    shortest * k ≤ startOf len k := by
  induction k with
  | zero => exact Nat.le_refl 0
  | succ k inductionHypothesis => exact Nat.add_le_add inductionHypothesis (long k)

theorem startOf_le {longest : Nat} (short : ∀ k, len k ≤ longest) (k : Nat) :
    startOf len k ≤ longest * k := by
  induction k with
  | zero => exact Nat.le_refl 0
  | succ k inductionHypothesis => exact Nat.add_le_add inductionHypothesis (short k)

theorem piece_unique {n j k : Nat} (low : startOf len j ≤ n) (high : n < startOf len (j + 1))
    (low' : startOf len k ≤ n) (high' : n < startOf len (k + 1)) : j = k := by
  have below {j k : Nat} (high : n < startOf len (j + 1)) (low : startOf len k ≤ n) : k ≤ j := by
    by_contra above
    have later : startOf len (j + 1) ≤ startOf len k := startOf_mono (Nat.lt_of_not_le above)
    omega
  exact Nat.le_antisymm (below high' low) (below high low')

variable (long : ∀ k, 0 < len k)

include long in
theorem exists_piece_end (n : Nat) : ∃ k, n < startOf len (k + 1) := by
  refine ⟨n, ?_⟩
  have reached : 1 * (n + 1) ≤ startOf len (n + 1) := le_startOf long (n + 1)
  omega

/-- The piece that `n` lies in. -/
def pieceOf (n : Nat) : Nat := Nat.find (exists_piece_end long n)

theorem startOf_pieceOf_le (n : Nat) : startOf len (pieceOf long n) ≤ n := by
  cases piece : pieceOf long n with
  | zero => exact Nat.zero_le n
  | succ k =>
    have earlier : k < pieceOf long n := piece ▸ Nat.lt_succ_self k
    exact Nat.le_of_not_lt (Nat.find_min (exists_piece_end long n) earlier)

theorem lt_startOf_pieceOf (n : Nat) : n < startOf len (pieceOf long n + 1) :=
  Nat.find_spec (exists_piece_end long n)

end Pieces

/-- A date and time of the Gregorian calendar. -/
structure DateTime where
  year : Nat
  month : Nat
  day : Nat
  hour : Nat
  minute : Nat
  second : Nat
  deriving DecidableEq

def IsLeap (year : Nat) : Prop := year % 4 = 0 ∧ year % 100 ≠ 0 ∨ year % 400 = 0

instance (year : Nat) : Decidable (IsLeap year) :=
  inferInstanceAs (Decidable (_ ∧ _ ∨ _))

/-- The days of the year 2000 + `k`. -/
def yearLength (k : Nat) : Nat := if IsLeap (2000 + k) then 366 else 365

/-- The days of month `k`, with January as month 0. -/
def monthLength (leap : Bool) : Nat → Nat
  | 1 => if leap then 29 else 28
  | 3 | 5 | 8 | 10 => 30
  | _ => 31

/-- A date that the calendar has, from 2000 on. -/
structure DateTime.Valid (d : DateTime) : Prop where
  year : 2000 ≤ d.year
  month : 1 ≤ d.month ∧ d.month ≤ 12
  day : 1 ≤ d.day ∧ d.day ≤ monthLength (decide (IsLeap d.year)) (d.month - 1)
  hour : d.hour < 24
  minute : d.minute < 60
  second : d.second < 60

/-- The day of the year, counted from 0. -/
def DateTime.dayOfYear (d : DateTime) : Nat :=
  startOf (monthLength (decide (IsLeap d.year))) (d.month - 1) + (d.day - 1)

/-- The days since 1 January 2000. -/
def DateTime.days (d : DateTime) : Nat := startOf yearLength (d.year - 2000) + d.dayOfYear

def DateTime.secondsSince2000 (d : DateTime) : Nat :=
  ((d.days * 24 + d.hour) * 60 + d.minute) * 60 + d.second

theorem yearLength_le (k : Nat) : yearLength k ≤ 366 := by
  unfold yearLength
  split <;> decide

theorem le_yearLength (k : Nat) : 365 ≤ yearLength k := by
  unfold yearLength
  split <;> decide

theorem yearLength_pos (k : Nat) : 0 < yearLength k :=
  Nat.lt_of_lt_of_le (by decide) (le_yearLength k)

theorem monthLength_le (leap : Bool) (k : Nat) : monthLength leap k ≤ 31 := by
  unfold monthLength
  split
  next => split <;> decide
  all_goals decide

theorem monthLength_pos (leap : Bool) (k : Nat) : 0 < monthLength leap k := by
  unfold monthLength
  split
  next => split <;> decide
  all_goals decide

theorem startOf_monthLength (k : Nat) :
    startOf (monthLength (decide (IsLeap (2000 + k)))) 12 = yearLength k := by
  by_cases leap : IsLeap (2000 + k)
  · rw [yearLength, if_pos leap, decide_eq_true leap]
    rfl
  · rw [yearLength, if_neg leap, decide_eq_false leap]
    rfl

namespace DateTime

variable {d e : DateTime}

theorem Valid.dayOfYear_lt (valid : d.Valid) : d.dayOfYear < yearLength (d.year - 2000) := by
  obtain ⟨k, same⟩ := Nat.exists_eq_add_of_le valid.year
  rw [same, Nat.add_sub_cancel_left, ← startOf_monthLength, ← same]
  have inMonth : d.dayOfYear < startOf (monthLength (decide (IsLeap d.year))) (d.month - 1 + 1) := by
    rw [startOf, dayOfYear]
    have := valid.day
    omega
  exact Nat.lt_of_lt_of_le inMonth (startOf_mono (by have := valid.month; omega))

theorem Valid.days_bounds (valid : d.Valid) :
    365 * (d.year - 2000) ≤ d.days ∧ d.days < 366 * (d.year - 2000 + 1) := by
  have first := le_startOf le_yearLength (d.year - 2000)
  have last := startOf_le yearLength_le (d.year - 2000)
  have inYear := valid.dayOfYear_lt
  have longest := yearLength_le (d.year - 2000)
  unfold days
  omega

theorem Valid.days_unique (valid : d.Valid) (valid' : e.Valid) (same : d.days = e.days) :
    d.year = e.year ∧ d.month = e.month ∧ d.day = e.day := by
  have inYear := valid.dayOfYear_lt
  have inYear' := valid'.dayOfYear_lt
  have years : d.year - 2000 = e.year - 2000 := by
    refine @piece_unique yearLength d.days _ _ ?_ ?_ ?_ ?_
    · rw [days]
      exact Nat.le_add_right _ _
    · rw [days]
      exact Nat.add_lt_add_left inYear _
    · rw [same, days]
      exact Nat.le_add_right _ _
    · rw [same, days]
      exact Nat.add_lt_add_left inYear' _
  have year : d.year = e.year := by
    have := valid.year
    have := valid'.year
    omega
  have days : d.dayOfYear = e.dayOfYear := by
    simp only [DateTime.days, year] at same
    omega
  have day := valid.day
  have day' := valid'.day
  rw [← year] at day'
  have month : d.month - 1 = e.month - 1 := by
    refine @piece_unique (monthLength (decide (IsLeap d.year))) d.dayOfYear _ _ ?_ ?_ ?_ ?_
    · exact Nat.le_add_right _ _
    · rw [startOf, dayOfYear]
      omega
    · rw [days, dayOfYear, ← year]
      exact Nat.le_add_right _ _
    · rw [startOf, days, dayOfYear, ← year]
      omega
  refine ⟨year, ?_, ?_⟩
  · have := valid.month
    have := valid'.month
    omega
  · simp only [dayOfYear, year, month] at days
    omega

theorem Valid.unique (valid : d.Valid) (valid' : e.Valid)
    (same : d.secondsSince2000 = e.secondsSince2000) : d = e := by
  have hour := valid.hour
  have hour' := valid'.hour
  have minute := valid.minute
  have minute' := valid'.minute
  have second := valid.second
  have second' := valid'.second
  simp only [secondsSince2000] at same
  obtain ⟨year, month, day⟩ := valid.days_unique valid' (by omega)
  cases d
  cases e
  simp only [DateTime.mk.injEq] at *
  omega

/-- The date of a number of seconds since 2000. -/
def ofSeconds (seconds : Nat) : DateTime :=
  let days := seconds / 86400
  let year := pieceOf yearLength_pos days
  let leap := decide (IsLeap (2000 + year))
  let dayOfYear := days - startOf yearLength year
  let month := pieceOf (monthLength_pos leap) dayOfYear
  { year := 2000 + year
    month := month + 1
    day := dayOfYear - startOf (monthLength leap) month + 1
    hour := seconds / 3600 % 24
    minute := seconds / 60 % 60
    second := seconds % 60 }

/-- The day of the year lies in its year, and the day of the month in its month. -/
theorem ofSeconds_pieces (seconds : Nat) :
    ∃ year month rest, seconds / 86400 = startOf yearLength year +
        (startOf (monthLength (decide (IsLeap (2000 + year)))) month + rest) ∧
      month < 12 ∧ rest < monthLength (decide (IsLeap (2000 + year))) month ∧
      ofSeconds seconds = ⟨2000 + year, month + 1, rest + 1, seconds / 3600 % 24,
        seconds / 60 % 60, seconds % 60⟩ := by
  have yearLow := startOf_pieceOf_le yearLength_pos (seconds / 86400)
  have yearHigh := lt_startOf_pieceOf yearLength_pos (seconds / 86400)
  rw [startOf] at yearHigh
  refine ⟨pieceOf yearLength_pos (seconds / 86400), _, _, ?_, ?_, ?_, rfl⟩
  all_goals
    generalize pieceOf yearLength_pos (seconds / 86400) = year at yearLow yearHigh ⊢
    have monthLow := startOf_pieceOf_le (monthLength_pos (decide (IsLeap (2000 + year))))
      (seconds / 86400 - startOf yearLength year)
    have monthHigh := lt_startOf_pieceOf (monthLength_pos (decide (IsLeap (2000 + year))))
      (seconds / 86400 - startOf yearLength year)
    rw [startOf] at monthHigh
  · omega
  · by_contra late
    have whole := @startOf_mono (monthLength (decide (IsLeap (2000 + year)))) _ _
      (Nat.le_of_not_lt late)
    rw [startOf_monthLength] at whole
    omega
  · omega

theorem valid_ofSeconds (seconds : Nat) : (ofSeconds seconds).Valid := by
  obtain ⟨year, month, rest, _, inYear, inMonth, date⟩ := ofSeconds_pieces seconds
  rw [date]
  exact
    { year := Nat.le_add_right 2000 year
      month := ⟨Nat.le_add_left 1 month, inYear⟩
      day := ⟨Nat.le_add_left 1 rest, inMonth⟩
      hour := Nat.mod_lt _ (by decide)
      minute := Nat.mod_lt _ (by decide)
      second := Nat.mod_lt _ (by decide) }

theorem secondsSince2000_ofSeconds (seconds : Nat) :
    (ofSeconds seconds).secondsSince2000 = seconds := by
  obtain ⟨year, month, rest, sum, _, _, date⟩ := ofSeconds_pieces seconds
  rw [date]
  simp only [secondsSince2000, days, dayOfYear, Nat.add_sub_cancel_left, Nat.add_sub_cancel]
  omega

end DateTime

end TildaMk4.Calendar
