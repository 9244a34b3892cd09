import Mathlib.Algebra.Group.Nat.Defs
import Mathlib.Data.Nat.Find

/-!
# The wifi timeout of the bootstrap

`connect` of `bootstrap.py` waits for the network with a deadline. `time.ticks_ms()`
counts milliseconds modulo `tickPeriod`; the deadline is computed by plain addition and
compared by plain ordering.
-/

namespace TildaMk4.Bootstrap

/-- The period of the ticks of `utime`. -/
def tickPeriod : Nat := 2 ^ 30

/-- `ticks_scaled` of `mphalport.h`, from `Clock_tickPeriod` and `Clock_getTicks()`. -/
def ticksScaled (clockTickPeriod getTicks : UInt32) : UInt32 :=
  if clockTickPeriod = 1000 then getTicks else (getTicks * clockTickPeriod) / 1000

/-- `time.ticks_ms()` at `ms` milliseconds after the boot; the clock ticks every 1000 us. -/
def ticksMs (ms : Nat) : Nat := (ticksScaled 1000 (UInt32.ofNat ms)).toNat % tickPeriod

/-- The milliseconds from the reading that the deadline is computed from to the reading
in each round of the loop. -/
structure Readings where
  elapsed : Nat → Nat
  first : elapsed 0 < tickPeriod
  later : ∀ round, elapsed round < elapsed (round + 1)
  near : ∀ round, elapsed (round + 1) < elapsed round + tickPeriod

/-- The milliseconds to the reading before. -/
def Readings.before (readings : Readings) : Nat → Nat
  | 0 => 0
  | round + 1 => readings.elapsed round

inductive Effect
  | remove (path : String)
  | raiseOSError (message : String)
  deriving DecidableEq

/-- The round that the loop ends in, and what is done there. -/
structure Ended where
  round : Nat
  effects : List Effect
  deriving DecidableEq

def timedOut (round : Nat) : Ended := ⟨round, [.remove "wifi.json", .raiseOSError "Wifi timeout"]⟩

/-- The loop of `connect` from a round on; `none` when it is still waiting after `fuel` rounds. -/
def waitLoop (isconnected : Nat → Bool) (ticks : Nat → Nat) (waitUntil : Nat) :
    (fuel round : Nat) → Option Ended
  | 0, _ => none
  | fuel + 1, round =>
    if isconnected round then some ⟨round, []⟩
    else if ticks round > waitUntil then some (timedOut round)
    else waitLoop isconnected ticks waitUntil fuel (round + 1)

/-- The waiting of `connect`, which starts `start` milliseconds after the boot. -/
def connectWait (isconnected : Nat → Bool) (start : Nat) (readings : Readings) (fuel : Nat) :
    Option Ended :=
  waitLoop isconnected (fun round => ticksMs (start + readings.elapsed round))
    (ticksMs start + 10000) fuel 0

/-- On a network that never connects the wait times out, after at least 10 s and at most
10 s and one polling period. -/
def TimesOut (start : Nat) (readings : Readings) : Prop :=
  ∃ fuel round, connectWait (fun _ => false) start readings fuel = some (timedOut round) ∧
    10000 ≤ readings.elapsed round ∧ readings.before round ≤ 10000

/-- The kernel counts modulo a multiple of the period of the ticks. -/
theorem ticksMs_eq (ms : Nat) : ticksMs ms = ms % tickPeriod := by
  have scaled : ticksScaled 1000 (UInt32.ofNat ms) = UInt32.ofNat ms := if_pos rfl
  rw [ticksMs, scaled, UInt32.toNat_ofNat']
  exact Nat.mod_mod_of_dvd ms (by decide)

/-- Without a connection the loop ends in the first round that reads past the deadline. -/
theorem waitLoop_eq_some_iff (ticks : Nat → Nat) (waitUntil : Nat) {ended : Ended} :
    ∀ fuel round, waitLoop (fun _ => false) ticks waitUntil fuel round = some ended ↔
      ∃ j < fuel, waitUntil < ticks (round + j) ∧ (∀ i < j, ticks (round + i) ≤ waitUntil) ∧
        timedOut (round + j) = ended := by
  intro fuel
  induction fuel with
  | zero => simp [waitLoop]
  | succ fuel inductionHypothesis =>
    intro round
    simp only [waitLoop, Bool.false_eq_true, if_false]
    split
    next past =>
      constructor
      · intro done
        exact ⟨0, Nat.succ_pos _, past, nofun, Option.some.inj done⟩
      · rintro ⟨j, -, -, earlier, rfl⟩
        cases j with
        | zero => rfl
        | succ j => exact absurd (earlier 0 (Nat.succ_pos j)) (Nat.not_le.mpr past)
    next notYet =>
      rw [inductionHypothesis]
      constructor
      · rintro ⟨j, inside, past, earlier, same⟩
        rw [Nat.add_assoc, Nat.add_comm 1 j] at past same
        refine ⟨j + 1, Nat.succ_lt_succ inside, past, fun i before => ?_, same⟩
        cases i with
        | zero => exact Nat.not_lt.mp notYet
        | succ i =>
          have passed := earlier i (Nat.lt_of_succ_lt_succ before)
          rwa [Nat.add_assoc, Nat.add_comm 1 i] at passed
      · rintro ⟨j, inside, past, earlier, same⟩
        cases j with
        | zero => exact absurd past notYet
        | succ j =>
          rw [Nat.add_comm j 1, ← Nat.add_assoc] at past same
          refine ⟨j, Nat.lt_of_succ_lt_succ inside, past, fun i before => ?_, same⟩
          rw [Nat.add_assoc, Nat.add_comm 1 i]
          exact earlier (i + 1) (Nat.succ_lt_succ before)

section Wrapping

variable {period start elapsed wait : Nat}

/-- A counter with a period is past its start by no more than the time that has passed. -/
theorem wrapped_le (period start elapsed : Nat) :
    (start + elapsed) % period ≤ start % period + elapsed := by
  rw [← Nat.mod_add_mod]
  exact Nat.mod_le _ _

/-- A plain comparison with a deadline on such a counter is right until the counter wraps,
and no more true within the period after that. -/
theorem past_deadline_iff (recent : elapsed < wait + period) :
    start % period + wait < (start + elapsed) % period ↔
      wait < elapsed ∧ start % period + elapsed < period := by
  have within := wrapped_le period start elapsed
  constructor
  · intro past
    have long : wait < elapsed := by omega
    refine ⟨long, Nat.lt_of_not_le fun wraps => ?_⟩
    have less : (start % period + elapsed) % period ≤ start % period + elapsed - period := by
      rw [Nat.mod_eq_sub_mod wraps]
      exact Nat.mod_le _ _
    rw [Nat.mod_add_mod] at less
    omega
  · rintro ⟨long, unwrapped⟩
    rw [← Nat.mod_add_mod, Nat.mod_eq_of_lt unwrapped]
    omega

end Wrapping

section Readings

variable (readings : Readings)

theorem Readings.le_elapsed (round : Nat) : round ≤ readings.elapsed round := by
  induction round with
  | zero => exact Nat.zero_le _
  | succ round inductionHypothesis =>
    have later := readings.later round
    omega

theorem Readings.elapsed_lt_before (round : Nat) :
    readings.elapsed round < readings.before round + tickPeriod := by
  cases round with
  | zero =>
    rw [before, Nat.zero_add]
    exact readings.first
  | succ round => exact readings.near round

theorem Readings.elapsed_le_before {earlier round : Nat} (before_ : earlier < round) :
    readings.elapsed earlier ≤ readings.before round := by
  induction before_ with
  | refl => exact Nat.le_refl _
  | @step round _ inductionHypothesis =>
    have step : readings.before round ≤ readings.elapsed round := by
      cases round with
      | zero => exact Nat.zero_le _
      | succ round => exact Nat.le_of_lt (readings.later round)
    exact Nat.le_trans inductionHypothesis step

theorem Readings.exists_overdue : ∃ round, 10000 < readings.elapsed round :=
  ⟨10001, readings.le_elapsed 10001⟩

/-- The first round that reads the clock more than 10 s after the start. -/
def Readings.overdue : Nat := Nat.find readings.exists_overdue

theorem Readings.overdue_late : 10000 < readings.elapsed readings.overdue :=
  Nat.find_spec readings.exists_overdue

theorem Readings.elapsed_le_of_lt_overdue {round : Nat} (early : round < readings.overdue) :
    readings.elapsed round ≤ 10000 :=
  Nat.le_of_not_lt (Nat.find_min readings.exists_overdue early)

theorem Readings.before_overdue : readings.before readings.overdue ≤ 10000 := by
  cases first : readings.overdue with
  | zero => exact Nat.zero_le _
  | succ round =>
    apply readings.elapsed_le_of_lt_overdue
    rw [first]
    exact Nat.lt_succ_self round

theorem Readings.eq_overdue {round : Nat} (late : 10000 < readings.elapsed round)
    (before : readings.before round ≤ 10000) : readings.overdue = round :=
  (Nat.find_eq_iff _).mpr ⟨late, fun _ early =>
    Nat.not_lt.mpr (Nat.le_trans (readings.elapsed_le_before early) before)⟩

end Readings

section Timeout

variable {start : Nat} {readings : Readings} {fuel round : Nat}

theorem connectWait_eq_timedOut : connectWait (fun _ => false) start readings fuel =
    some (timedOut round) ↔ round < fuel ∧
      start % tickPeriod + 10000 < (start + readings.elapsed round) % tickPeriod ∧
      ∀ earlier < round,
        (start + readings.elapsed earlier) % tickPeriod ≤ start % tickPeriod + 10000 := by
  simp only [connectWait, ticksMs_eq, waitLoop_eq_some_iff, Nat.zero_add]
  constructor
  · rintro ⟨j, inside, past, earlier, same⟩
    obtain rfl : j = round := congrArg Ended.round same
    exact ⟨inside, past, earlier⟩
  · rintro ⟨inside, past, earlier⟩
    exact ⟨round, inside, past, earlier, rfl⟩

/-- The timeout is never early. -/
theorem timedOut_late
    (ended : connectWait (fun _ => false) start readings fuel = some (timedOut round)) :
    10000 < readings.elapsed round := by
  obtain ⟨_, past, _⟩ := connectWait_eq_timedOut.mp ended
  have within := wrapped_le tickPeriod start (readings.elapsed round)
  omega

/-- A deadline that no tick is past is never met. -/
theorem connectWait_never (last : tickPeriod ≤ start % tickPeriod + 10001)
    (readings : Readings) (fuel : Nat) :
    connectWait (fun _ => false) start readings fuel = none := by
  rw [Option.eq_none_iff_forall_ne_some]
  intro ended done
  obtain ⟨round, _, past, _, rfl⟩ := (waitLoop_eq_some_iff _ _ _ _).mp done
  rw [ticksMs_eq, ticksMs_eq] at past
  have below := Nat.mod_lt (start + readings.elapsed (0 + round)) (Nat.two_pow_pos 30)
  rw [← tickPeriod] at below
  omega

end Timeout

/-- The wait times out in time exactly if the counter has not wrapped when it is first read
more than 10 s after the start. -/
theorem connect_timesOut_iff (start : Nat) (readings : Readings) :
    TimesOut start readings ↔
      start % tickPeriod + readings.elapsed readings.overdue < tickPeriod := by
  constructor
  · rintro ⟨fuel, round, ended, _, before⟩
    obtain ⟨_, past, _⟩ := connectWait_eq_timedOut.mp ended
    have recent : readings.elapsed round < 10000 + tickPeriod :=
      Nat.lt_of_lt_of_le (readings.elapsed_lt_before round) (Nat.add_le_add_right before _)
    obtain ⟨late, unwrapped⟩ := (past_deadline_iff recent).mp past
    rwa [readings.eq_overdue late before]
  · intro unwrapped
    have before := readings.before_overdue
    have late := readings.overdue_late
    have recent : readings.elapsed readings.overdue < 10000 + tickPeriod :=
      Nat.lt_of_lt_of_le (readings.elapsed_lt_before _) (Nat.add_le_add_right before _)
    have past := (past_deadline_iff recent).mpr ⟨late, unwrapped⟩
    refine ⟨readings.overdue + 1, readings.overdue, ?_, Nat.le_of_lt late, before⟩
    refine connectWait_eq_timedOut.mpr ⟨Nat.lt_succ_self _, past, fun earlier early => ?_⟩
    have onTime := readings.elapsed_le_of_lt_overdue early
    have within := wrapped_le tickPeriod start (readings.elapsed earlier)
    omega

/-- A reading every tenth of a second. -/
def tenths : Readings where
  elapsed round := 100 * (round + 1)
  first := by decide
  later round := by omega
  near round := by
    have wide : 100 < tickPeriod := by decide
    omega

/-- A wait that starts with the last tick before the wrap goes on for ever. -/
theorem connect_waits_for_ever : ¬TimesOut (2 ^ 30 - 1) tenths := by
  rintro ⟨fuel, round, ended, _⟩
  rw [connectWait_never (by decide)] at ended
  cases ended

end TildaMk4.Bootstrap
