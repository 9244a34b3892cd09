import Mathlib.Data.Nat.Basic
import Mathlib.Tactic.Cases
import Mathlib.Tactic.Common

/-!
# The pin debouncer

`pdb.c` samples a pin every 5 ms for 150 ticks after `PDB_start`. It follows the
reference debouncer as long as the pin agrees with the new state on the tick after
each flip (`Settles`). On such a tick the counter is not reloaded by the flip, so
a disagreeing sample decrements it below zero.
-/

namespace TildaMk4.Buttons

@[simp] abbrev checkMsec : UInt32 := 5

@[simp] abbrev pressMsec : UInt32 := 15

@[simp] abbrev releaseMsec : UInt32 := 60

/-- `PDB_Object`; `clock` says whether the clock is started. -/
structure Pdb where
  clock : Bool
  count : UInt32
  period : UInt32
  pressed : Bool
  deriving DecidableEq

namespace Pdb

/-- The object that `PDB_create` allocates, with its clock stopped. -/
def create : Pdb := ⟨false, 0, 0, false⟩

/-- `PDB_start`. -/
def start (pdb : Pdb) : Pdb :=
  { pdb with pressed := true, period := 150, count := releaseMsec / checkMsec, clock := true }

/-- `PDB_stop`. -/
def stop (pdb : Pdb) : Pdb := { pdb with clock := false }

/-- What `count` is loaded with on a tick whose sample agrees with the state. -/
def reload (pressed : Bool) : UInt32 :=
  if pressed then releaseMsec / checkMsec else pressMsec / checkMsec

/-- `debounce`, with `raw` as the result of `GPIO_read`. -/
def debounce (pdb : Pdb) (raw : Bool) : Bool × Pdb :=
  let next := { pdb with period := pdb.period - 1 }
  if pdb.period = 0 then (false, next.stop)
  else if raw = pdb.pressed then (false, { next with count := reload pdb.pressed })
  else if pdb.count - 1 = 0 then (true, { next with count := pdb.count - 1, pressed := raw })
  else (false, { next with count := pdb.count - 1 })

/-- `updatePin` when the clock is running: the result says whether `notifyFxn` is
called. -/
def tick (pdb : Pdb) (raw : Bool) : Bool × Pdb :=
  if pdb.clock then pdb.debounce raw else (false, pdb)

/-- The tick takes the branch with `--pdb->count`. -/
def Decrements (pdb : Pdb) (raw : Bool) : Prop :=
  pdb.clock = true ∧ pdb.period ≠ 0 ∧ raw ≠ pdb.pressed

/-- The object before tick `k`, counted from 0. -/
def before (pdb : Pdb) (samples : Nat → Bool) : Nat → Pdb
  | 0 => pdb
  | k + 1 => ((pdb.before samples k).tick (samples k)).2

/-- `notifyFxn` is called at tick `k`. -/
def notifies (pdb : Pdb) (samples : Nat → Bool) (k : Nat) : Bool :=
  ((pdb.before samples k).tick (samples k)).1

end Pdb

/-- How long a sample has to differ from the state before the state flips. -/
def stableTicks : Bool → Nat
  | true => 12
  | false => 3

/-- The reference debouncer: its state and for how many ticks up to now the sample
has differed from it. -/
structure Reference where
  pressed : Bool
  differing : Nat
  deriving DecidableEq

namespace Reference

def start : Reference := ⟨true, 0⟩

/-- One sample; the result says whether the state flips. -/
def observe (reference : Reference) (sample : Bool) : Bool × Reference :=
  if sample = reference.pressed then (false, { reference with differing := 0 })
  else if reference.differing + 1 = stableTicks reference.pressed then (true, ⟨sample, 0⟩)
  else (false, { reference with differing := reference.differing + 1 })

def before (samples : Nat → Bool) : Nat → Reference
  | 0 => start
  | k + 1 => ((before samples k).observe (samples k)).2

def flips (samples : Nat → Bool) (k : Nat) : Bool := ((before samples k).observe (samples k)).1

end Reference

/-- The debouncer does, after `PDB_start`, what the reference debouncer does for 150
ticks and nothing after them. -/
structure FollowsReference (pdb : Pdb) (samples : Nat → Bool) : Prop where
  notifies : ∀ k < 150, pdb.start.notifies samples k = Reference.flips samples k
  pressed : ∀ k ≤ 150, (pdb.start.before samples k).pressed = (Reference.before samples k).pressed
  noWrap : ∀ k, (pdb.start.before samples k).Decrements (samples k) →
    (pdb.start.before samples k).count ≠ 0
  running : ∀ k ≤ 150, (pdb.start.before samples k).clock = true
  stopped : ∀ k > 150, (pdb.start.before samples k).clock = false
  quiet : ∀ k ≥ 150, pdb.start.notifies samples k = false

/-- Whenever the reference flips with another of the 150 ticks to come, the sample of
that tick agrees with the new state. -/
def Settles (samples : Nat → Bool) : Prop :=
  ∀ k, k + 1 < 150 → Reference.flips samples k = true → samples (k + 1) = samples k

/-- The relation of the two debouncers: the counter is what is left until the next
flip, or it is 0 because the state has just flipped. -/
structure Tracks (pdb : Pdb) (reference : Reference) : Prop where
  pressed : pdb.pressed = reference.pressed
  count : pdb.count.toNat + reference.differing = stableTicks reference.pressed ∧ pdb.count ≠ 0 ∨
    pdb.count = 0 ∧ reference.differing = 0

theorem reload_toNat (pressed : Bool) : (Pdb.reload pressed).toNat = stableTicks pressed := by
  cases pressed <;> decide

theorem reload_ne_zero (pressed : Bool) : Pdb.reload pressed ≠ 0 := by
  cases pressed <;> decide

theorem tracks_start (pdb : Pdb) : Tracks pdb.start Reference.start where
  pressed := rfl
  count := .inl ⟨reload_toNat true, reload_ne_zero true⟩

theorem toNat_ne_zero {value : UInt32} (positive : value ≠ 0) : value.toNat ≠ 0 :=
  fun zero => positive (UInt32.toNat_inj.mp zero)

theorem toNat_sub_one {value : UInt32} (positive : value ≠ 0) :
    (value - 1).toNat = value.toNat - 1 := by
  have low : 1 ≤ value := by
    rw [UInt32.le_iff_toNat_le]
    exact Nat.one_le_iff_ne_zero.mpr (toNat_ne_zero positive)
  exact UInt32.toNat_sub_of_le value 1 low

theorem sub_one_eq_zero {value : UInt32} (positive : value ≠ 0) :
    value - 1 = 0 ↔ value.toNat = 1 := by
  have notZero := toNat_ne_zero positive
  rw [← UInt32.toNat_inj, toNat_sub_one positive, UInt32.toNat_zero]
  omega

namespace Tracks

variable {pdb : Pdb} {reference : Reference}

/-- One of the 150 ticks: if the sample agrees with a state that has just flipped,
both debouncers do the same, and a flip is what leaves the counter at 0. -/
theorem step (tracks : Tracks pdb reference) (ticking : pdb.clock = true)
    (active : pdb.period ≠ 0) {raw : Bool} (settled : raw ≠ pdb.pressed → pdb.count ≠ 0) :
    (pdb.tick raw).1 = (reference.observe raw).1 ∧
      ((pdb.tick raw).2.count = 0 ↔ (reference.observe raw).1 = true) ∧
      Tracks (pdb.tick raw).2 (reference.observe raw).2 := by
  by_cases agrees : raw = pdb.pressed
  · have observed : reference.observe raw = (false, { reference with differing := 0 }) :=
      if_pos (agrees.trans tracks.pressed)
    have ticked : pdb.tick raw =
        (false, { pdb with period := pdb.period - 1, count := Pdb.reload pdb.pressed }) := by
      simp [Pdb.tick, Pdb.debounce, ticking, active, agrees]
    rw [observed, ticked]
    refine ⟨rfl, iff_of_false (reload_ne_zero _) Bool.false_ne_true, tracks.pressed,
      .inl ⟨?_, reload_ne_zero _⟩⟩
    change (Pdb.reload pdb.pressed).toNat + 0 = stableTicks reference.pressed
    rw [reload_toNat, tracks.pressed, Nat.add_zero]
  · have differs : raw ≠ reference.pressed := fun same => agrees (same.trans tracks.pressed.symm)
    have positive := settled agrees
    have counted : pdb.count.toNat + reference.differing = stableTicks reference.pressed := by
      rcases tracks.count with ⟨counted, _⟩ | ⟨zero, _⟩
      · exact counted
      · exact absurd zero positive
    by_cases last : pdb.count - 1 = 0
    · have one := (sub_one_eq_zero positive).mp last
      have observed : reference.observe raw = (true, ⟨raw, 0⟩) := by
        rw [Reference.observe, if_neg differs, if_pos (by omega)]
      have ticked : pdb.tick raw =
          (true, { pdb with period := pdb.period - 1, count := pdb.count - 1, pressed := raw }) := by
        simp [Pdb.tick, Pdb.debounce, ticking, active, agrees, last]
      rw [observed, ticked]
      exact ⟨rfl, iff_of_true last rfl, rfl, .inr ⟨last, rfl⟩⟩
    · have more := mt (sub_one_eq_zero positive).mpr last
      have observed : reference.observe raw =
          (false, { reference with differing := reference.differing + 1 }) := by
        rw [Reference.observe, if_neg differs, if_neg (by omega)]
      have ticked : pdb.tick raw =
          (false, { pdb with period := pdb.period - 1, count := pdb.count - 1 }) := by
        simp [Pdb.tick, Pdb.debounce, ticking, active, agrees, last]
      rw [observed, ticked]
      refine ⟨rfl, iff_of_false last Bool.false_ne_true, tracks.pressed, .inl ⟨?_, last⟩⟩
      change (pdb.count - 1).toNat + (reference.differing + 1) = stableTicks reference.pressed
      have notZero := toNat_ne_zero positive
      rw [toNat_sub_one positive]
      omega

end Tracks

section Run

variable (pdb : Pdb) (samples : Nat → Bool)

/-- The clock runs for 150 ticks, each of which takes one off the period. -/
theorem period_before (k : Nat) (inside : k ≤ 150) :
    (pdb.start.before samples k).clock = true ∧
      (pdb.start.before samples k).period.toNat + k = 150 := by
  induction k with
  | zero => exact ⟨rfl, rfl⟩
  | succ k inductionHypothesis =>
    obtain ⟨ticking, period⟩ := inductionHypothesis (Nat.le_of_succ_le inside)
    have active : (pdb.start.before samples k).period ≠ 0 := by
      intro zero
      rw [zero, UInt32.toNat_zero] at period
      omega
    have next : ((pdb.start.before samples k).tick (samples k)).2.clock = true ∧
        ((pdb.start.before samples k).tick (samples k)).2.period =
          (pdb.start.before samples k).period - 1 := by
      unfold Pdb.tick Pdb.debounce
      rw [if_pos ticking, if_neg active]
      split
      next => exact ⟨ticking, rfl⟩
      next => split <;> exact ⟨ticking, rfl⟩
    refine ⟨next.1, ?_⟩
    change ((pdb.start.before samples k).tick (samples k)).2.period.toNat + (k + 1) = 150
    rw [next.2, toNat_sub_one active]
    have notZero := toNat_ne_zero active
    omega

theorem period_ne_zero (k : Nat) (inside : k < 150) :
    (pdb.start.before samples k).period ≠ 0 := by
  intro zero
  have period := (period_before pdb samples k (Nat.le_of_lt inside)).2
  rw [zero, UInt32.toNat_zero] at period
  omega

theorem period_eq_zero (k : Nat) (last : k = 150) : (pdb.start.before samples k).period = 0 := by
  have period := (period_before pdb samples k (Nat.le_of_eq last)).2
  apply UInt32.toNat_inj.mp
  rw [UInt32.toNat_zero]
  omega

theorem clock_stopped (k : Nat) (late : 150 < k) :
    (pdb.start.before samples k).clock = false := by
  induction k with
  | zero => exact absurd late (Nat.not_lt_zero _)
  | succ k inductionHypothesis =>
    rw [Pdb.before]
    rcases Nat.eq_or_lt_of_le (Nat.le_of_lt_succ late) with last | later
    · have ticking := (period_before pdb samples k (Nat.le_of_eq last.symm)).1
      rw [Pdb.tick, if_pos ticking, Pdb.debounce, if_pos (period_eq_zero pdb samples k last.symm)]
      rfl
    · have stopped := inductionHypothesis later
      rw [Pdb.tick, if_neg (Bool.eq_false_iff.mp stopped)]
      exact stopped

theorem notifies_eq_false (k : Nat) (late : 150 ≤ k) : pdb.start.notifies samples k = false := by
  rcases Nat.eq_or_lt_of_le late with last | later
  · have ticking := (period_before pdb samples k (Nat.le_of_eq last.symm)).1
    rw [Pdb.notifies, Pdb.tick, if_pos ticking, Pdb.debounce,
      if_pos (period_eq_zero pdb samples k last.symm)]
  · rw [Pdb.notifies, Pdb.tick, if_neg (Bool.eq_false_iff.mp (clock_stopped pdb samples k later))]

variable {pdb samples}

/-- None of the first `ticks` ticks decrements the counter below zero. -/
def NoWrap (pdb : Pdb) (samples : Nat → Bool) (ticks : Nat) : Prop :=
  ∀ k < ticks, (pdb.start.before samples k).Decrements (samples k) →
    (pdb.start.before samples k).count ≠ 0

theorem Tracks.next {k : Nat}
    (tracks : Tracks (pdb.start.before samples k) (Reference.before samples k))
    (noWrap : NoWrap pdb samples (k + 1)) (inside : k < 150) :
    pdb.start.notifies samples k = Reference.flips samples k ∧
      ((pdb.start.before samples (k + 1)).count = 0 ↔ Reference.flips samples k = true) ∧
      Tracks (pdb.start.before samples (k + 1)) (Reference.before samples (k + 1)) := by
  have ticking := (period_before pdb samples k (Nat.le_of_lt inside)).1
  have active := period_ne_zero pdb samples k inside
  have settled (differs : samples k ≠ (pdb.start.before samples k).pressed) :=
    noWrap k (Nat.lt_succ_self k) ⟨ticking, active, differs⟩
  exact tracks.step ticking active settled

/-- As long as no tick wraps the counter, the two debouncers stay together. -/
theorem tracks_before {ticks : Nat} (noWrap : NoWrap pdb samples ticks) (inside : ticks ≤ 150) :
    Tracks (pdb.start.before samples ticks) (Reference.before samples ticks) := by
  induction ticks with
  | zero => exact tracks_start pdb
  | succ k inductionHypothesis =>
    have tracks := inductionHypothesis (fun j before => noWrap j (Nat.lt_succ_of_lt before))
      (Nat.le_of_lt inside)
    exact (tracks.next noWrap inside).2.2

theorem tick_before {k : Nat} (noWrap : NoWrap pdb samples (k + 1)) (inside : k < 150) :
    pdb.start.notifies samples k = Reference.flips samples k ∧
      ((pdb.start.before samples (k + 1)).count = 0 ↔ Reference.flips samples k = true) := by
  have tracks := tracks_before (fun j before => noWrap j (Nat.lt_succ_of_lt before))
    (Nat.le_of_lt inside)
  have next := tracks.next noWrap inside
  exact ⟨next.1, next.2.1⟩

theorem pressed_of_flips {k : Nat} (flipped : Reference.flips samples k = true) :
    (Reference.before samples (k + 1)).pressed = samples k := by
  rw [Reference.before]
  rw [Reference.flips] at flipped
  unfold Reference.observe at flipped ⊢
  split at flipped
  next => exact absurd flipped Bool.false_ne_true
  next differs =>
    split at flipped
    next last => rw [if_neg differs, if_pos last]
    next => exact absurd flipped Bool.false_ne_true

end Run

variable {pdb : Pdb} {samples : Nat → Bool}

/-- A prefix without a wrap extends to the next tick, because the sample after a
flip agrees with the state. -/
theorem noWrap_of_settles (settles : Settles samples) (ticks : Nat) (inside : ticks ≤ 150) :
    NoWrap pdb samples ticks := by
  induction ticks with
  | zero => exact fun _ impossible => absurd impossible (Nat.not_lt_zero _)
  | succ ticks inductionHypothesis =>
    have noWrap := inductionHypothesis (Nat.le_of_lt inside)
    intro j before
    rcases Nat.eq_or_lt_of_le (Nat.le_of_lt_succ before) with rfl | earlier
    · rintro ⟨_, _, differs⟩ zero
      cases j with
      | zero => exact reload_ne_zero true zero
      | succ k =>
        have flipped := (tick_before noWrap (Nat.lt_of_succ_lt inside)).2.mp zero
        have pressed := (tracks_before noWrap (Nat.le_of_lt inside)).pressed
        rw [pressed_of_flips flipped] at pressed
        exact differs ((settles k inside flipped).trans pressed.symm)
    · exact noWrap j earlier

theorem settles_of_noWrap (noWrap : NoWrap pdb samples 150) : Settles samples := by
  intro k inside flipped
  have shorter (ticks : Nat) (fits : ticks ≤ 150) : NoWrap pdb samples ticks :=
    fun j before => noWrap j (Nat.lt_of_lt_of_le before fits)
  have zero := (tick_before (shorter (k + 1) (Nat.le_of_lt inside)) (Nat.lt_of_succ_lt inside)).2.mpr
    flipped
  have pressed := (tracks_before (shorter (k + 1) (Nat.le_of_lt inside)) (Nat.le_of_lt inside)).pressed
  rw [pressed_of_flips flipped] at pressed
  by_contra differs
  refine noWrap (k + 1) inside ⟨?_, period_ne_zero pdb samples _ inside, ?_⟩ zero
  · exact (period_before pdb samples _ (Nat.le_of_lt inside)).1
  · exact fun agrees => differs (agrees.trans pressed)

/-- The debouncer follows the reference debouncer exactly when the pin agrees with
the new state on the tick after each flip. -/
theorem followsReference_iff (pdb : Pdb) (samples : Nat → Bool) :
    FollowsReference pdb samples ↔ Settles samples := by
  constructor
  · intro follows
    exact settles_of_noWrap fun k _ => follows.noWrap k
  · intro settles
    have noWrap (ticks : Nat) (fits : ticks ≤ 150) : NoWrap pdb samples ticks :=
      noWrap_of_settles settles ticks fits
    exact
      { notifies := fun k inside => (tick_before (noWrap (k + 1) inside) inside).1
        pressed := fun k inside => (tracks_before (noWrap k inside) inside).pressed
        noWrap := by
          intro k decrements
          rcases Nat.lt_trichotomy k 150 with inside | last | late
          · exact noWrap 150 le_rfl k inside decrements
          · exact absurd (period_eq_zero pdb samples k last) decrements.2.1
          · exact absurd decrements.1 (Bool.eq_false_iff.mp (clock_stopped pdb samples k late))
        running := fun k inside => (period_before pdb samples k inside).1
        stopped := clock_stopped pdb samples
        quiet := notifies_eq_false pdb samples }

/-- A release for 12 ticks with one bounce right after the flip: the 13th sample is
pressed again. -/
def bounceAfterFlip (k : Nat) : Bool := k = 12

theorem followsReference_fails : ¬FollowsReference Pdb.create bounceAfterFlip := by
  intro follows
  have settles := settles_of_noWrap fun k (_ : k < 150) => follows.noWrap k
  exact absurd (settles 11 (by decide) (by decide)) (by decide)

end TildaMk4.Buttons
