import Mathlib.Algebra.Group.Nat.Defs
import TildaMk4.Lib.Calendar

/-!
# The three clocks

`RTC.now()`, `utime.localtime()` and the FAT timestamp read one counter of seconds
since 1970. The first two subtract the offset of 2000 before they convert it, so
they show the date that was set. `get_fattime` does not, so its year is about 30
years ahead.
-/

namespace TildaMk4.Clock

open Calendar

/-- `timeutils_struct_time_t`. -/
structure StructTime where
  tmYear : Nat
  tmMon : Nat
  tmMday : Nat
  tmHour : Nat
  tmMin : Nat
  tmSec : Nat
  tmWday : Nat
  tmYday : Nat
  deriving DecidableEq

def StructTime.date (tm : StructTime) : DateTime :=
  ⟨tm.tmYear, tm.tmMon, tm.tmMday, tm.tmHour, tm.tmMin, tm.tmSec⟩

/-- The functions of `lib/timeutils` that the clocks call. -/
structure Timeutils where
  mktime : (year month mday hours minutes seconds : Int) → UInt32
  secondsSince2000ToStructTime : UInt32 → StructTime

/-- The two functions convert between valid dates and seconds since 2000. -/
structure Timeutils.Correct (timeutils : Timeutils) : Prop where
  mktime : ∀ d : DateTime, d.Valid → d.secondsSince2000 < UInt32.size →
    (timeutils.mktime d.year d.month d.day d.hour d.minute d.second).toNat = d.secondsSince2000
  valid : ∀ t, (timeutils.secondsSince2000ToStructTime t).date.Valid
  seconds : ∀ t, (timeutils.secondsSince2000ToStructTime t).date.secondsSince2000 = t.toNat

/-- `OFFSET_1970`. -/
def offset1970 : UInt32 := (100 - 70) * 31536000 + ((100 - 69) / 4) * 86400

theorem offset1970_toNat : offset1970.toNat = 946684800 := by decide

/-- The counter behind `Seconds_get` and `Seconds_set`. -/
structure Seconds where
  get : UInt32

/-- The counter after some seconds have passed. -/
def Seconds.elapse (clock : Seconds) (seconds : Nat) : Seconds :=
  ⟨clock.get + UInt32.ofNat seconds⟩

inductive Errno
  | einval
  deriving DecidableEq

section Clocks

variable (timeutils : Timeutils) (clock : Seconds)

/-- `init_rtc`, from the integers of the tuple to the counter. -/
def initRtc (datetime : List Int) : Except Errno Seconds :=
  if datetime.length < 3 then .error .einval
  else
    let sec := timeutils.mktime (datetime.getD 0 0) (datetime.getD 1 0) (datetime.getD 2 0)
      (datetime.getD 3 0) (datetime.getD 4 0) (datetime.getD 5 0)
    .ok ⟨sec + offset1970⟩

def machineRtcNow : DateTime :=
  (timeutils.secondsSince2000ToStructTime (clock.get - offset1970)).date

/-- `time_localtime`, without an argument or with `None` as `none`. The seconds pass
through a signed `mp_int_t`. -/
def timeLocaltime (arg : Option Int) : StructTime :=
  let seconds := match arg with
    | none => (clock.get - offset1970).toInt32
    | some value => Int32.ofInt value
  timeutils.secondsSince2000ToStructTime seconds.toUInt32

def getFattime : UInt32 :=
  let tm := timeutils.secondsSince2000ToStructTime clock.get
  (UInt32.ofNat (tm.tmYear - 1980) <<< 25) ||| (UInt32.ofNat tm.tmMon <<< 21) |||
    (UInt32.ofNat tm.tmMday <<< 16) ||| (UInt32.ofNat tm.tmHour <<< 11) |||
    (UInt32.ofNat tm.tmMin <<< 5) ||| (UInt32.ofNat tm.tmSec >>> 1)

/-- The six numbers of a timestamp of the FAT file system stand for `d`. -/
structure FatDenotes (fattime : UInt32) (d : DateTime) : Prop where
  year : 1980 + (fattime >>> 25).toNat = d.year
  month : (fattime >>> 21 &&& 0xf).toNat = d.month
  day : (fattime >>> 16 &&& 0x1f).toNat = d.day
  hour : (fattime >>> 11 &&& 0x1f).toNat = d.hour
  minute : (fattime >>> 5 &&& 0x3f).toNat = d.minute
  second : (fattime &&& 0x1f).toNat = d.second / 2

/-- With `clock` as `RTC.init` has left it for the date `d`: `RTC.now()` shows that
date at once, and after `elapsed` seconds all clocks show one date. -/
structure ClocksAgree (d : DateTime) (elapsed : Nat) : Prop where
  set : machineRtcNow timeutils clock = d
  localtime : (timeLocaltime timeutils (clock.elapse elapsed) none).date =
    machineRtcNow timeutils (clock.elapse elapsed)
  fattime : FatDenotes (getFattime timeutils (clock.elapse elapsed))
    (machineRtcNow timeutils (clock.elapse elapsed))

end Clocks

/-- The tuple that `RTC.init` is given names the date `d`; fields from the fourth on
may be left out if they are 0. -/
structure Names (datetime : List Int) (d : DateTime) : Prop where
  length : 3 ≤ datetime.length
  year : datetime.getD 0 0 = d.year
  month : datetime.getD 1 0 = d.month
  day : datetime.getD 2 0 = d.day
  hour : datetime.getD 3 0 = d.hour
  minute : datetime.getD 4 0 = d.minute
  second : datetime.getD 5 0 = d.second

/-- The seconds from 2000 to the end of 2099. -/
def centurySeconds : Nat := 3155760000

section Dates

variable {timeutils : Timeutils} {clock : Seconds} {d : DateTime} {elapsed : Nat}

theorem initRtc_eq_ok (correct : timeutils.Correct) (valid : d.Valid)
    (inSpan : d.secondsSince2000 < centurySeconds) {datetime : List Int}
    (names : Names datetime d) :
    ∃ clock, initRtc timeutils datetime = .ok clock ∧
      clock.get.toNat = d.secondsSince2000 + 946684800 := by
  have small : d.secondsSince2000 < UInt32.size := Nat.lt_trans inSpan (by decide)
  have seconds := correct.mktime d valid small
  refine ⟨_, if_neg (Nat.not_lt_of_le names.length), ?_⟩
  rw [names.year, names.month, names.day, names.hour, names.minute, names.second,
    UInt32.toNat_add, seconds, offset1970_toNat]
  unfold centurySeconds at inSpan
  omega

theorem elapse_toNat (set : clock.get.toNat = d.secondsSince2000 + 946684800)
    (inSpan : d.secondsSince2000 + elapsed < centurySeconds) :
    (clock.elapse elapsed).get.toNat = d.secondsSince2000 + elapsed + 946684800 := by
  unfold centurySeconds at inSpan
  rw [Seconds.elapse, UInt32.toNat_add, set, UInt32.toNat_ofNat']
  omega

theorem sub_offset1970_toNat {seconds : Nat} (read : clock.get.toNat = seconds + 946684800) :
    (clock.get - offset1970).toNat = seconds := by
  have low : offset1970 ≤ clock.get := by
    rw [UInt32.le_iff_toNat_le, read, offset1970_toNat]
    exact Nat.le_add_left _ _
  rw [UInt32.toNat_sub_of_le _ _ low, read, offset1970_toNat, Nat.add_sub_cancel]

/-- What `RTC.now()` shows is as many seconds after 2000 as the counter says. -/
theorem machineRtcNow_spec (correct : timeutils.Correct) {seconds : Nat}
    (read : clock.get.toNat = seconds + 946684800) :
    (machineRtcNow timeutils clock).Valid ∧
      (machineRtcNow timeutils clock).secondsSince2000 = seconds :=
  ⟨correct.valid _, (correct.seconds _).trans (sub_offset1970_toNat read)⟩

theorem timeLocaltime_eq_machineRtcNow :
    (timeLocaltime timeutils clock none).date = machineRtcNow timeutils clock := by
  simp only [timeLocaltime, machineRtcNow, UInt32.toUInt32_toInt32]

theorem machineRtcNow_eq (correct : timeutils.Correct) (valid : d.Valid)
    (set : clock.get.toNat = d.secondsSince2000 + 946684800) :
    machineRtcNow timeutils clock = d := by
  obtain ⟨shown, seconds⟩ := machineRtcNow_spec correct set
  exact shown.unique valid seconds

/-- A field below bit 25 does not reach the year. -/
theorem shiftRight_25_eq_zero {field : UInt32} (small : field.toNat < 2 ^ 25) : field >>> 25 = 0 := by
  apply UInt32.toNat_inj.mp
  rw [UInt32.toNat_shiftRight]
  change field.toNat >>> 25 = 0
  rw [Nat.shiftRight_eq_div_pow, Nat.div_eq_of_lt small]

theorem shiftLeft_toNat_lt {value limit : Nat} {shift : UInt32} (small : value < limit)
    (fits : limit * 2 ^ (shift.toNat % 32) ≤ 2 ^ 25) :
    (UInt32.ofNat value <<< shift).toNat < 2 ^ 25 := by
  have moved : value * 2 ^ (shift.toNat % 32) < 2 ^ 25 :=
    Nat.lt_of_lt_of_le (Nat.mul_lt_mul_of_pos_right small (Nat.two_pow_pos _)) fits
  rw [UInt32.toNat_shiftLeft, Nat.shiftLeft_eq, UInt32.toNat_ofNat']
  refine Nat.lt_of_le_of_lt (Nat.mod_le _ _) (Nat.lt_of_le_of_lt ?_ moved)
  exact Nat.mul_le_mul_right _ (Nat.mod_le _ _)

theorem getFattime_year (valid : (timeutils.secondsSince2000ToStructTime clock.get).date.Valid) :
    (getFattime timeutils clock >>> 25).toNat =
      ((timeutils.secondsSince2000ToStructTime clock.get).date.year - 1980) % 128 := by
  unfold getFattime
  generalize timeutils.secondsSince2000ToStructTime clock.get = tm at valid ⊢
  have monthSmall : tm.tmMon < 13 := Nat.lt_succ_of_le valid.month.2
  have daySmall : tm.tmMday < 32 :=
    Nat.lt_succ_of_le (Nat.le_trans valid.day.2 (monthLength_le _ _))
  have hourSmall : tm.tmHour < 24 := valid.hour
  have minuteSmall : tm.tmMin < 60 := valid.minute
  have secondSmall : (UInt32.ofNat tm.tmSec >>> 1).toNat < 2 ^ 25 := by
    have second : tm.tmSec < 60 := valid.second
    rw [UInt32.toNat_shiftRight, UInt32.toNat_ofNat']
    change (tm.tmSec % 2 ^ 32) >>> 1 < 2 ^ 25
    rw [Nat.shiftRight_eq_div_pow]
    omega
  simp only [UInt32.shiftRight_or,
    shiftRight_25_eq_zero (@shiftLeft_toNat_lt _ _ 21 monthSmall (by decide)),
    shiftRight_25_eq_zero (@shiftLeft_toNat_lt _ _ 16 daySmall (by decide)),
    shiftRight_25_eq_zero (@shiftLeft_toNat_lt _ _ 11 hourSmall (by decide)),
    shiftRight_25_eq_zero (@shiftLeft_toNat_lt _ _ 5 minuteSmall (by decide)),
    shiftRight_25_eq_zero secondSmall, UInt32.or_zero]
  rw [UInt32.toNat_shiftRight, UInt32.toNat_shiftLeft, UInt32.toNat_ofNat']
  change (((tm.tmYear - 1980) % 2 ^ 32) <<< 25 % 2 ^ 32) >>> 25 = (tm.tmYear - 1980) % 128
  rw [Nat.shiftLeft_eq, Nat.shiftRight_eq_div_pow]
  omega

theorem year_later {now later : DateTime} (nowValid : now.Valid) (laterValid : later.Valid)
    (inSpan : now.secondsSince2000 < centurySeconds)
    (offset : later.secondsSince2000 = now.secondsSince2000 + 946684800) :
    now.year + 29 ≤ later.year ∧ later.year ≤ now.year + 31 ∧ now.year ≤ 2100 := by
  have nowBounds := nowValid.days_bounds
  have laterBounds := laterValid.days_bounds
  have days : later.days = now.days + 10957 ∧ now.days < 36525 := by
    have := nowValid.hour
    have := nowValid.minute
    have := nowValid.second
    have := laterValid.hour
    have := laterValid.minute
    have := laterValid.second
    simp only [DateTime.secondsSince2000, centurySeconds] at offset inSpan
    omega
  have := nowValid.year
  have := laterValid.year
  omega

theorem not_fatDenotes (correct : timeutils.Correct) {seconds : Nat}
    (read : clock.get.toNat = seconds + 946684800) (inSpan : seconds < centurySeconds) :
    ¬FatDenotes (getFattime timeutils clock) (machineRtcNow timeutils clock) := by
  intro denotes
  obtain ⟨nowValid, nowSeconds⟩ := machineRtcNow_spec correct read
  have stampValid := correct.valid clock.get
  have stampSeconds := correct.seconds clock.get
  obtain ⟨atLeast, atMost, century⟩ := year_later nowValid stampValid (nowSeconds ▸ inSpan)
    (by rw [stampSeconds, nowSeconds, read])
  have shown := denotes.year
  rw [getFattime_year stampValid] at shown
  omega

/-- `RTC.now()` and `localtime()` show the date that was set and agree ever after. -/
theorem now_and_localtime_agree (correct : timeutils.Correct) (valid : d.Valid)
    (inSpan : d.secondsSince2000 < centurySeconds) {datetime : List Int}
    (names : Names datetime d) (elapsed : Nat) :
    ∃ clock, initRtc timeutils datetime = .ok clock ∧ machineRtcNow timeutils clock = d ∧
      (timeLocaltime timeutils (clock.elapse elapsed) none).date =
        machineRtcNow timeutils (clock.elapse elapsed) := by
  obtain ⟨clock, initialised, set⟩ := initRtc_eq_ok correct valid inSpan names
  exact ⟨clock, initialised, machineRtcNow_eq correct valid set, timeLocaltime_eq_machineRtcNow⟩

/-- For no date of the century and no later moment do all three clocks agree. -/
theorem clocks_never_agree (correct : timeutils.Correct) (valid : d.Valid)
    (inSpan : d.secondsSince2000 + elapsed < centurySeconds) {datetime : List Int}
    (names : Names datetime d) :
    ∃ clock, initRtc timeutils datetime = .ok clock ∧ ¬ClocksAgree timeutils clock d elapsed := by
  obtain ⟨clock, initialised, set⟩ :=
    initRtc_eq_ok correct valid (Nat.lt_of_le_of_lt (Nat.le_add_right _ _) inSpan) names
  refine ⟨clock, initialised, fun agree => ?_⟩
  exact not_fatDenotes correct (elapse_toNat set inSpan) inSpan agree.fattime

end Dates

/-- The conversions of the calendar. -/
def calendarTimeutils : Timeutils where
  mktime year month mday hours minutes seconds :=
    UInt32.ofNat (DateTime.secondsSince2000 ⟨year.toNat, month.toNat, mday.toNat, hours.toNat,
      minutes.toNat, seconds.toNat⟩)
  secondsSince2000ToStructTime t :=
    let d := DateTime.ofSeconds t.toNat
    ⟨d.year, d.month, d.day, d.hour, d.minute, d.second, (d.days + 5) % 7, d.dayOfYear + 1⟩

theorem calendarTimeutils_correct : calendarTimeutils.Correct where
  mktime _ _ small := UInt32.toNat_ofNat_of_lt' small
  valid t := DateTime.valid_ofSeconds t.toNat
  seconds t := DateTime.secondsSince2000_ofSeconds t.toNat

/-- 26 May 2018, 11:43. -/
def setDate : DateTime := ⟨2018, 5, 26, 11, 43, 0⟩

theorem setDate_valid : setDate.Valid :=
  ⟨by decide, by decide, by decide, by decide, by decide, by decide⟩

theorem setDate_names : Names [2018, 5, 26, 11, 43] setDate :=
  ⟨by decide, rfl, rfl, rfl, rfl, rfl, rfl⟩

theorem clocks_never_agree_setDate :
    ∃ clock, initRtc calendarTimeutils [2018, 5, 26, 11, 43] = .ok clock ∧
      ¬ClocksAgree calendarTimeutils clock setDate 60 :=
  clocks_never_agree calendarTimeutils_correct setDate_valid (by decide) setDate_names

theorem clocks_agree_fails :
    ¬ ∀ (timeutils : Timeutils) (d : DateTime) (datetime : List Int) (elapsed : Nat),
      timeutils.Correct → d.Valid → d.secondsSince2000 + elapsed < centurySeconds →
      Names datetime d →
      ∃ clock, initRtc timeutils datetime = .ok clock ∧ ClocksAgree timeutils clock d elapsed := by
  intro always
  obtain ⟨clock, initialised, agree⟩ := always calendarTimeutils setDate [2018, 5, 26, 11, 43] 60
    calendarTimeutils_correct setDate_valid (by decide) setDate_names
  obtain ⟨clock', initialised', set⟩ :=
    initRtc_eq_ok calendarTimeutils_correct setDate_valid (by decide) setDate_names
  obtain rfl : clock' = clock := Except.ok.inj (initialised'.symm.trans initialised)
  exact not_fatDenotes calendarTimeutils_correct (elapse_toNat set (by decide)) (by decide)
    agree.fattime

end TildaMk4.Clock
