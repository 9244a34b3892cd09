import TildaMk4.Sound.Refusal

/-!
# Pulse widths

The arithmetic of `SoundIntHandler` stays in 32 bits, and the pulse width is scaled by
the period of `SoundInit`: in which states it exceeds the period that the PWM has.
-/

namespace TildaMk4.Sound

open Storage Transition

namespace SoundState

/-! ## What the handler computes -/

section Exact

variable (s : SoundState)

/-- The blended average of the previous and the current sample. -/
def blend : Int := (s.pi16Samples0 * (8 - s.i32Step) + s.pi16Samples1 * s.i32Step).tdiv 8

/-- The blended average under the squared volume. -/
def scaled : Int := (s.blend * s.i32Volume * s.i32Volume).tdiv 65536

/-- What is added to `i32Step` for the rate. -/
def increment : Int :=
  if s.ui32Flags.khz8 then 1
  else if s.ui32Flags.khz16 then 2
  else if s.ui32Flags.khz32 then 4
  else 0

/-- The signed results of the handler, computed without a limit. -/
def signedResults : List Int :=
  if s.ui32Flags.startup then [s.i32Step + 1]
  else if s.ui32Flags.shutdown then if s.i32Step = 1 then [] else [s.i32Step - 1]
  else
    [8 - s.i32Step, s.pi16Samples0 * (8 - s.i32Step), s.pi16Samples1 * s.i32Step,
      s.pi16Samples0 * (8 - s.i32Step) + s.pi16Samples1 * s.i32Step, s.blend,
      s.blend * s.i32Volume, s.blend * s.i32Volume * s.i32Volume, s.scaled, s.scaled + 32768,
      s.i32Step + s.increment, s.sampleAt s.ui32Offset]

/-- The unsigned ones. -/
def unsignedResults : List Int :=
  if s.ui32Flags.startup || s.ui32Flags.shutdown then []
  else
    [s.ui32Period * (s.scaled + 32768), s.ui32Period * (s.scaled + 32768) / 65536] ++
      if s.nextStep = 0 then [(s.ui32Offset : Int) + 1] else []

/-- No operation of the handler overflows. -/
structure NoOverflow : Prop where
  adjusted : s.i32RateAdjust ≠ 0 →
    0 ≤ s.ui32Period + s.i32RateAdjust ∧ s.ui32Period + s.i32RateAdjust < 0x100000000
  signed : ∀ value ∈ s.adjustRate.signedResults, -0x80000000 ≤ value ∧ value < 0x80000000
  unsigned : ∀ value ∈ s.adjustRate.unsignedResults, 0 ≤ value ∧ value < 0x100000000

/-- The value that the handler passes to `PWMPulseWidthSet`. -/
def passed : Option Int :=
  if s.adjustRate.ui32Flags.startup then some (i32 (s.adjustRate.i32Step + 1))
  else if s.adjustRate.ui32Flags.shutdown then
    if s.adjustRate.i32Step = 1 then none else some (i32 (s.adjustRate.i32Step - 1))
  else some s.adjustRate.dutyCycle

end Exact

variable {s : SoundState}

theorem pwmPulseWidth_callback (s : SoundState) : s.callback.pwmPulseWidth = s.pwmPulseWidth := by
  rcases s.callback_cases with same | stopped
  · rw [same]
  · rw [stopped]
    unfold soundStop
    split <;> rfl

/-- `passed` is what the handler leaves in the register. -/
theorem pwmPulseWidth_soundIntHandler (s : SoundState) : s.soundIntHandler.2.pwmPulseWidth =
    (s.passed.map u32).getD s.adjustRate.pwmPulseWidth := by
  unfold soundIntHandler passed
  split
  next =>
    unfold startupRamp
    dsimp only
    split <;> rfl
  next =>
    split
    next =>
      unfold shutdownRamp
      split <;> rfl
    next =>
      unfold playStep
      dsimp only
      split
      next => exact pwmPulseWidth_callback s.adjustRate.loaded
      next => rfl

/-- What the handler multiplies: two samples of 16 bits and the volume. -/
structure Audible (s : SoundState) : Prop where
  volume : 0 ≤ s.i32Volume ∧ s.i32Volume ≤ 255
  previous : -32768 ≤ s.pi16Samples0 ∧ s.pi16Samples0 ≤ 32767
  current : -32768 ≤ s.pi16Samples1 ∧ s.pi16Samples1 ≤ 32767

/-- Where `i32Step` is in the three phases of a playback. -/
inductive Phase (flags : SoundFlags) (step : Int) : Prop
  | startup : flags.startup = true → flags.shutdown = false → 1 ≤ step → step ≤ 936 →
    Phase flags step
  | shutdown : flags.startup = false → flags.shutdown = true → 1 ≤ step → step ≤ 937 →
    Phase flags step
  | playing : flags.startup = false → flags.shutdown = false → 0 ≤ step → step ≤ 7 →
    Phase flags step

namespace Phase

variable {flags : SoundFlags} {step : Int}

theorem of_startup (phase : Phase flags step) (startup : flags.startup = true) :
    flags.shutdown = false ∧ 1 ≤ step ∧ step ≤ 936 := by
  cases phase with
  | startup _ going low high => exact ⟨going, low, high⟩
  | shutdown started => exact absurd (started.symm.trans startup) Bool.false_ne_true
  | playing started => exact absurd (started.symm.trans startup) Bool.false_ne_true

theorem of_shutdown (phase : Phase flags step) (shutdown : flags.shutdown = true) :
    1 ≤ step ∧ step ≤ 937 := by
  cases phase with
  | startup _ going => exact absurd (going.symm.trans shutdown) Bool.false_ne_true
  | shutdown _ _ low high => exact ⟨low, high⟩
  | playing _ going => exact absurd (going.symm.trans shutdown) Bool.false_ne_true

theorem of_playing (phase : Phase flags step) (started : flags.startup = false)
    (going : flags.shutdown = false) : 0 ≤ step ∧ step ≤ 7 := by
  cases phase with
  | startup startup => exact absurd (started.symm.trans startup) Bool.false_ne_true
  | shutdown _ shutdown => exact absurd (going.symm.trans shutdown) Bool.false_ne_true
  | playing _ _ low high => exact ⟨low, high⟩

end Phase

/-- The generator runs. -/
structure Running (s : SoundState) : Prop where
  period : s.pwmGenPeriod = 1875 ∨ s.pwmGenPeriod = 1360
  offset : s.ui32Offset < 0x100000000
  phase : Phase s.ui32Flags s.i32Step

theorem sampleAt_bounds (s : SoundState) (offset : Nat) :
    -32768 ≤ s.sampleAt offset ∧ s.sampleAt offset ≤ 32767 := by
  unfold sampleAt
  split
  next =>
    have low := Int.le_bmod (x := (s.piBuffer offset).toNat) (m := 0x100) (by decide)
    have high := Int.bmod_lt (x := (s.piBuffer offset).toNat) (m := 0x100) (by decide)
    omega
  next =>
    generalize ((s.piBuffer (2 * offset)).toNat +
      0x100 * (s.piBuffer (2 * offset + 1)).toNat : Int) = value
    have low := Int.le_bmod (x := value) (m := 0x10000) (by decide)
    have high := Int.bmod_lt (x := value) (m := 0x10000) (by decide)
    omega

theorem nextStep_eq (low : 0 ≤ s.i32Step) (high : s.i32Step ≤ 7) :
    s.nextStep = (s.i32Step + s.increment) % 8 := by
  unfold SoundState.nextStep increment
  split
  next => rfl
  next =>
    split
    next => rfl
    next =>
      split
      next => rfl
      next => omega

theorem Audible.soundIntHandler (audible : s.Audible) (adjust : s.i32RateAdjust = 0) :
    s.soundIntHandler.2.Audible := by
  have step := soundIntHandler_cases adjust
  have sample := s.sampleAt_bounds s.ui32Offset
  generalize s.soundIntHandler.2 = after at step
  cases step with
  | reads => exact ⟨audible.volume, audible.current, sample⟩
  | stops => exact ⟨audible.volume, audible.current, sample⟩
  | _ => exact ⟨audible.volume, audible.previous, audible.current⟩

theorem nextStep_bounds (phase : Phase s.ui32Flags s.i32Step)
    (started : s.ui32Flags.startup = false) (going : s.ui32Flags.shutdown = false) :
    0 ≤ s.nextStep ∧ s.nextStep ≤ 7 := by
  obtain ⟨low, high⟩ := phase.of_playing started going
  rw [nextStep_eq low high]
  omega

theorem loaded_ui32Offset_lt (s : SoundState) : s.loaded.ui32Offset < 0x100000000 := by
  change (if _ then _ else _) < _
  split
  next => decide
  next => exact Nat.mod_lt _ (by decide)

theorem Running.soundIntHandler (running : s.Running) (adjust : s.i32RateAdjust = 0)
    (period : s.ui32Period = initPeriod) : s.soundIntHandler.2.Running := by
  have step := soundIntHandler_cases adjust
  generalize s.soundIntHandler.2 = after at step
  have wrapped := s.loaded_ui32Offset_lt
  obtain ⟨genPeriod, offset, phase⟩ := running
  cases step with
  | rampUp startup early =>
    obtain ⟨shutdown, low, high⟩ := phase.of_startup startup
    have step : i32 (s.i32Step + 1) = s.i32Step + 1 := i32_of_small (by omega) (by omega)
    rw [step] at early ⊢
    rw [period, u32_of_small (by omega) (by omega), initPeriod] at early
    have above : 1 ≤ s.i32Step + 1 := by omega
    have below : s.i32Step + 1 ≤ 936 := by omega
    exact ⟨genPeriod, offset, .startup startup shutdown above below⟩
  | rampedUp startup =>
    have below : (0 : Int) ≤ 7 := by decide
    exact ⟨genPeriod, offset, .playing rfl (phase.of_startup startup).1 (Int.le_refl 0) below⟩
  | rampDown started shutdown more =>
    obtain ⟨low, high⟩ := phase.of_shutdown shutdown
    have step : i32 (s.i32Step - 1) = s.i32Step - 1 := i32_of_small (by omega) (by omega)
    rw [step]
    have above : 1 ≤ s.i32Step - 1 := by omega
    have below : s.i32Step - 1 ≤ 937 := by omega
    exact ⟨genPeriod, offset, .shutdown started shutdown above below⟩
  | rampedDown _ _ last =>
    have above : 0 ≤ s.i32Step := by omega
    have below : s.i32Step ≤ 7 := by omega
    exact ⟨genPeriod, offset, .playing rfl rfl above below⟩
  | between started going =>
    obtain ⟨above, below⟩ := nextStep_bounds phase started going
    exact ⟨genPeriod, offset, .playing started going above below⟩
  | reads started going =>
    obtain ⟨above, below⟩ := nextStep_bounds phase started going
    exact ⟨genPeriod, wrapped, .playing started going above below⟩
  | stops =>
    have above : (1 : Int) ≤ (s.ui32Period / 2 : Nat) := by
      rw [period]
      decide
    have below : ((s.ui32Period / 2 : Nat) : Int) ≤ 937 := by
      rw [period]
      decide
    exact ⟨genPeriod, wrapped, .shutdown rfl rfl above below⟩

/-! ## `SoundStart` -/

section Start

variable {buf : Bytes} {length rate depth : Nat} {callback : Option SoundCallback}

theorem periodTicks_cases (rate : Nat) : periodTicks rate = 1875 ∨ periodTicks rate = 1360 := by
  unfold periodTicks
  split
  next => exact .inl rfl
  next => exact .inr rfl

theorem Audible.soundStart (audible : s.Audible) :
    (s.soundStart buf length rate depth callback).2.Audible := by
  have way := soundStart_cases s buf length rate depth callback
  generalize s.soundStart buf length rate depth callback = result at way
  obtain ⟨started, after⟩ := result
  have silence : -32768 ≤ (0 : Int) ∧ (0 : Int) ≤ 32767 := by decide
  cases way with
  | accepted => exact ⟨audible.volume, silence, silence⟩
  | _ => exact ⟨audible.volume, audible.previous, audible.current⟩

theorem Running.soundStart (running : s.pwmGenEnabled = true → s.Running)
    (enabled : (s.soundStart buf length rate depth callback).2.pwmGenEnabled = true) :
    (s.soundStart buf length rate depth callback).2.Running := by
  have way := soundStart_cases s buf length rate depth callback
  generalize s.soundStart buf length rate depth callback = result at way enabled ⊢
  obtain ⟨started, after⟩ := result
  cases way with
  | busy => exact running enabled
  | badRate => exact running enabled
  | badDepth idle =>
    obtain ⟨_, offset, phase⟩ := running enabled
    rw [idle] at phase
    refine ⟨periodTicks_cases rate, offset, ?_⟩
    cases phase with
    | startup startup => cases startup
    | shutdown _ shutdown => cases shutdown
    | playing _ _ low high => exact .playing rfl rfl low high
  | accepted =>
    have one : (1 : Int) ≤ 1 ∧ (1 : Int) ≤ 936 := by decide
    have start : (0 : Nat) < 0x100000000 := by decide
    exact ⟨periodTicks_cases rate, start, .startup rfl rfl one.1 one.2⟩

end Start

/-! ## The arithmetic of a sample -/

section Division

variable {x low high divisor : Int}

theorem tdiv_of_nonpos (nonpos : x ≤ 0) : x.tdiv divisor = -(-x / divisor) := by
  rw [← Int.tdiv_eq_ediv_of_nonneg (by omega : 0 ≤ -x), Int.neg_tdiv, Int.neg_neg]

theorem tdiv_bounds (positive : 0 < divisor) (below : low ≤ 0) (above : 0 ≤ high)
    (least : low * divisor ≤ x) (greatest : x ≤ high * divisor) :
    low ≤ x.tdiv divisor ∧ x.tdiv divisor ≤ high := by
  rcases Int.le_total 0 x with nonneg | nonpos
  · rw [Int.tdiv_eq_ediv_of_nonneg nonneg]
    have quotient := Int.ediv_nonneg nonneg (Int.le_of_lt positive)
    exact ⟨by omega, Int.ediv_le_of_le_mul positive greatest⟩
  · have opposite : 0 ≤ -x := by omega
    have quotient := Int.ediv_nonneg opposite (Int.le_of_lt positive)
    have bound : -x / divisor ≤ -low := by
      apply Int.ediv_le_of_le_mul positive
      rw [Int.neg_mul]
      omega
    rw [tdiv_of_nonpos nonpos]
    omega

theorem tdiv_lt_iff (positive : 0 < divisor) (above : 0 < high) :
    x.tdiv divisor < high ↔ x < high * divisor := by
  rcases Int.le_total 0 x with nonneg | nonpos
  · rw [Int.tdiv_eq_ediv_of_nonneg nonneg]
    exact Int.ediv_lt_iff_lt_mul positive
  · have opposite : 0 ≤ -x := by omega
    have quotient := Int.ediv_nonneg opposite (Int.le_of_lt positive)
    have product := Int.mul_pos above positive
    rw [tdiv_of_nonpos nonpos]
    omega

end Division

theorem mul_volume_bounds {x bound volume : Int} (quiet : 0 ≤ volume) (loud : volume ≤ 255)
    (positive : 0 ≤ bound) (low : -bound ≤ x) (high : x ≤ bound) :
    -(bound * 255) ≤ x * volume ∧ x * volume ≤ bound * 255 := by
  have most : bound * volume ≤ bound * 255 := Int.mul_le_mul_of_nonneg_left loud positive
  have least : -bound * volume ≤ x * volume := Int.mul_le_mul_of_nonneg_right low quiet
  have greatest : x * volume ≤ bound * volume := Int.mul_le_mul_of_nonneg_right high quiet
  rw [Int.neg_mul] at least
  omega

/-- The interpolation point lies between the two samples. -/
structure Interpolates (s : SoundState) : Prop where
  previous : -262144 ≤ s.pi16Samples0 * (8 - s.i32Step) ∧
    s.pi16Samples0 * (8 - s.i32Step) ≤ 262136
  current : -262144 ≤ s.pi16Samples1 * s.i32Step ∧ s.pi16Samples1 * s.i32Step ≤ 262136
  sum : -262144 ≤ s.pi16Samples0 * (8 - s.i32Step) + s.pi16Samples1 * s.i32Step ∧
    s.pi16Samples0 * (8 - s.i32Step) + s.pi16Samples1 * s.i32Step ≤ 262136

theorem Audible.interpolates (audible : s.Audible) (low : 0 ≤ s.i32Step) (high : s.i32Step ≤ 7) :
    s.Interpolates := by
  obtain ⟨_, previous, current⟩ := audible
  suffices bounds : ∀ p q : Int, -32768 ≤ p ∧ p ≤ 32767 → -32768 ≤ q ∧ q ≤ 32767 →
      (-262144 ≤ p * (8 - s.i32Step) ∧ p * (8 - s.i32Step) ≤ 262136) ∧
        (-262144 ≤ q * s.i32Step ∧ q * s.i32Step ≤ 262136) ∧
        -262144 ≤ p * (8 - s.i32Step) + q * s.i32Step ∧
        p * (8 - s.i32Step) + q * s.i32Step ≤ 262136 by
    obtain ⟨first, second, sum⟩ := bounds _ _ previous current
    exact ⟨first, second, sum⟩
  intro p q previous current
  obtain step | step | step | step | step | step | step | step : s.i32Step = 0 ∨ s.i32Step = 1 ∨
    s.i32Step = 2 ∨ s.i32Step = 3 ∨ s.i32Step = 4 ∨ s.i32Step = 5 ∨ s.i32Step = 6 ∨
    s.i32Step = 7 := by omega
  all_goals
    rw [step]
    omega

/-- The values of the handler between the blend and the duty cycle. -/
structure Scales (s : SoundState) : Prop where
  blend : -32768 ≤ s.blend ∧ s.blend ≤ 32767
  once : -8355840 ≤ s.blend * s.i32Volume ∧ s.blend * s.i32Volume ≤ 8355840
  twice : -2130739200 ≤ s.blend * s.i32Volume * s.i32Volume ∧
    s.blend * s.i32Volume * s.i32Volume ≤ 2130739200
  scaled : -32513 ≤ s.scaled ∧ s.scaled ≤ 32513

theorem Audible.scales (audible : s.Audible) (interpolates : s.Interpolates) : s.Scales := by
  obtain ⟨quiet, loud⟩ := audible.volume
  have blend : -32768 ≤ s.blend ∧ s.blend ≤ 32767 :=
    tdiv_bounds (by decide) (by decide) (by decide) interpolates.sum.1 interpolates.sum.2
  have once := mul_volume_bounds quiet loud (by decide) blend.1 (by omega : s.blend ≤ 32768)
  have twice := mul_volume_bounds quiet loud (by decide) once.1 once.2
  have scaled : -32513 ≤ s.scaled ∧ s.scaled ≤ 32513 :=
    tdiv_bounds (by decide) (by decide) (by decide) (by omega) (by omega)
  exact ⟨blend, once, twice, scaled⟩

theorem i32_of_signed {value : Int} (low : -0x80000000 ≤ value) (high : value < 0x80000000) :
    i32 value = value :=
  Int.bmod_eq_of_le (by omega) (by omega)

/-- Nothing wraps on the way to the duty cycle. -/
theorem dutyCycle_eq (interpolates : s.Interpolates) (scales : s.Scales) (low : 0 ≤ s.i32Step)
    (high : s.i32Step ≤ 7) (period : s.ui32Period = initPeriod) :
    s.dutyCycle = 1875 * (s.scaled + 32768) / 65536 := by
  obtain ⟨previous, current, sum⟩ := interpolates
  obtain ⟨_, once, twice, scaled⟩ := scales
  have rest : i32 (8 - s.i32Step) = 8 - s.i32Step := i32_of_signed (by omega) (by omega)
  have blended : (i32 (i32 (s.pi16Samples0 * i32 (8 - s.i32Step)) +
      i32 (s.pi16Samples1 * s.i32Step))).tdiv 8 = s.blend := by
    rw [rest, i32_of_signed (by omega) (by omega : s.pi16Samples0 * (8 - s.i32Step) < _),
      i32_of_signed (by omega) (by omega : s.pi16Samples1 * s.i32Step < _),
      i32_of_signed (by omega) (by omega)]
    rfl
  have leveled : i32 ((i32 (i32 (s.blend * s.i32Volume) * s.i32Volume)).tdiv 65536 + 32768) =
      s.scaled + 32768 := by
    rw [i32_of_signed (by omega) (by omega : s.blend * s.i32Volume < _),
      i32_of_signed (by omega) (by omega : s.blend * s.i32Volume * s.i32Volume < _)]
    change i32 (s.scaled + 32768) = _
    exact i32_of_signed (by omega) (by omega)
  have word : (u32 (s.scaled + 32768) : Int) = s.scaled + 32768 := by
    rw [u32_of_small (by omega) (by omega)]
    omega
  unfold dutyCycle
  dsimp only
  rw [blended, leveled, period, word]
  change ((u32 (1875 * (s.scaled + 32768)) / 65536 : Nat) : Int) = _
  rw [u32_of_small (by omega) (by omega)]
  omega

/-- The sample between the previous and the current one is so loud that its pulse
exceeds the shorter of the two periods. -/
def Loud (s : SoundState) : Prop :=
  14803 * 65536 ≤ (s.pi16Samples0 * (8 - s.i32Step) + s.pi16Samples1 * s.i32Step) / 8 *
    (s.i32Volume * s.i32Volume)

theorem loud_iff (quiet : 0 ≤ s.i32Volume) : s.Loud ↔ 14803 ≤ s.scaled := by
  have below : s.scaled < 14803 ↔ s.blend * s.i32Volume * s.i32Volume < 14803 * 65536 :=
    tdiv_lt_iff (by decide) (by decide)
  have square : 0 ≤ s.i32Volume * s.i32Volume := Int.mul_nonneg quiet quiet
  have same : s.Loud ↔ 14803 * 65536 ≤ s.blend * s.i32Volume * s.i32Volume := by
    unfold Loud blend
    rw [Int.mul_assoc]
    generalize s.pi16Samples0 * (8 - s.i32Step) + s.pi16Samples1 * s.i32Step = sum
    rcases Int.le_total 0 sum with nonneg | nonpos
    · rw [Int.tdiv_eq_ediv_of_nonneg nonneg]
    · have truncated : sum.tdiv 8 ≤ 0 := by
        rw [tdiv_of_nonpos nonpos]
        omega
      have floored : sum / 8 ≤ 0 := by omega
      have first := Int.mul_nonpos_of_nonpos_of_nonneg truncated square
      have second := Int.mul_nonpos_of_nonpos_of_nonneg floored square
      omega
  rw [same]
  omega

/-! ## When a step fits -/

theorem increment_bounds (s : SoundState) : 0 ≤ s.increment ∧ s.increment ≤ 4 := by
  unfold increment
  split
  next => decide
  next =>
    split
    next => decide
    next => split <;> decide

theorem signedResults_fit (audible : s.Audible) (running : s.Running) :
    ∀ value ∈ s.signedResults, -0x80000000 ≤ value ∧ value < 0x80000000 := by
  have sample := s.sampleAt_bounds s.ui32Offset
  have increment := s.increment_bounds
  unfold signedResults
  cases running.phase with
  | startup startup shutdown low high =>
    rw [if_pos startup]
    intro value member
    obtain rfl := List.mem_singleton.mp member
    omega
  | shutdown startup shutdown low high =>
    rw [startup, if_neg Bool.false_ne_true, if_pos shutdown]
    split
    next => exact nofun
    next =>
      intro value member
      obtain rfl := List.mem_singleton.mp member
      omega
  | playing startup shutdown low high =>
    have interpolates := audible.interpolates low high
    obtain ⟨blend, once, twice, scaled⟩ := audible.scales interpolates
    obtain ⟨previous, current, sum⟩ := interpolates
    rw [startup, if_neg Bool.false_ne_true, shutdown, if_neg Bool.false_ne_true]
    simp only [List.forall_mem_cons, List.not_mem_nil, false_implies, implies_true, and_true]
    omega

/-- Of the unsigned operations only the count of the samples can overflow. -/
theorem unsignedResults_fit_iff (audible : s.Audible) (running : s.Running)
    (period : s.ui32Period = initPeriod) :
    (∀ value ∈ s.unsignedResults, 0 ≤ value ∧ value < 0x100000000) ↔
      (s.ui32Flags.startup = false → s.ui32Flags.shutdown = false →
        s.ui32Offset = 0xffffffff → (s.i32Step + s.increment) % 8 ≠ 0) := by
  have offset := running.offset
  unfold unsignedResults
  cases running.phase with
  | startup startup shutdown low high => simp [startup]
  | shutdown startup shutdown low high => simp [startup, shutdown]
  | playing startup shutdown low high =>
    obtain ⟨_, _, _, scaled⟩ := audible.scales (audible.interpolates low high)
    have playing : ¬ (s.ui32Flags.startup || s.ui32Flags.shutdown) = true := by
      rw [startup, shutdown]
      exact Bool.false_ne_true
    rw [if_neg playing, period, nextStep_eq low high, startup, shutdown]
    simp only [initPeriod, List.forall_mem_append, List.forall_mem_cons, List.not_mem_nil,
      false_implies, implies_true, and_true, forall_const]
    split
    next due =>
      simp only [List.mem_singleton, forall_eq]
      omega
    next later =>
      simp only [List.not_mem_nil, false_implies, implies_true, and_true]
      omega

theorem noOverflow_iff (audible : s.Audible) (running : s.Running)
    (period : s.ui32Period = initPeriod) (adjust : s.i32RateAdjust = 0) :
    s.NoOverflow ↔ (s.ui32Flags.startup = false → s.ui32Flags.shutdown = false →
      s.ui32Offset = 0xffffffff → (s.i32Step + s.increment) % 8 ≠ 0) := by
  have same := adjustRate_of_zero adjust
  have signed := signedResults_fit audible running
  have unsigned := unsignedResults_fit_iff audible running period
  constructor
  · intro fits
    exact unsigned.mp (same ▸ fits.unsigned)
  · intro counted
    refine ⟨fun adjusted => absurd adjust adjusted, ?_, ?_⟩
    · rwa [same]
    · rw [same]
      exact unsigned.mpr counted

/-- The ramps end below both periods, and a sample exceeds the shorter one if it is loud. -/
theorem passed_fits_iff (audible : s.Audible) (running : s.Running)
    (period : s.ui32Period = initPeriod) (adjust : s.i32RateAdjust = 0) :
    (∀ width ∈ s.passed, 0 ≤ width ∧ width ≤ s.pwmGenPeriod) ↔
      (s.ui32Flags.startup = false → s.ui32Flags.shutdown = false →
        s.pwmGenPeriod = initPeriod ∨ ¬s.Loud) := by
  have genPeriod := running.period
  unfold passed
  rw [adjustRate_of_zero adjust]
  cases running.phase with
  | startup startup shutdown low high =>
    rw [if_pos startup, i32_of_signed (by omega) (by omega), startup]
    simp only [Option.mem_some, forall_eq', Bool.true_eq_false, false_implies, iff_true]
    omega
  | shutdown startup shutdown low high =>
    rw [startup, if_neg Bool.false_ne_true, if_pos shutdown, shutdown]
    simp only [Bool.true_eq_false, false_implies, implies_true, iff_true]
    split
    next => exact nofun
    next =>
      rw [i32_of_signed (by omega) (by omega)]
      intro width member
      obtain rfl := Option.some.inj member
      omega
  | playing startup shutdown low high =>
    have interpolates := audible.interpolates low high
    have scales := audible.scales interpolates
    have scaled := scales.scaled
    rw [startup, if_neg Bool.false_ne_true, shutdown, if_neg Bool.false_ne_true,
      dutyCycle_eq interpolates scales low high period, loud_iff audible.volume.1, initPeriod]
    simp only [Option.mem_some, forall_eq', forall_const]
    omega

end SoundState

namespace Audio

/-- The interrupt of the generator is taken. -/
def interruptible (a : Audio) : Bool := a.sound.pwmIntEnabled && a.sound.pwmGenEnabled

/-- `SoundStart` sets the first pulse of a playback that it accepts. -/
def startPulses : Except Exn Unit → List Int
  | .ok () => [1]
  | .error _ => []

/-- The values that a call or an interrupt passes to `PWMPulseWidthSet`. -/
def pulses (a : Audio) : AudioAct → List Int
  | .play buf len sampleRate sampleDepth => startPulses (a.audioPlay buf len sampleRate sampleDepth).1
  | .playWav buf len => startPulses (a.audioPlayWav buf len).1
  | .volume _ => []
  | .interrupt => if a.interruptible then a.sound.passed.toList else []

/-- Every pulse fits the period of the PWM, and the handler does not overflow. -/
structure Fits (a : Audio) (act : AudioAct) : Prop where
  pulses : ∀ width ∈ a.pulses act, 0 ≤ width ∧ width ≤ (a.perform act).2.sound.pwmGenPeriod
  noOverflow : act = .interrupt → a.interruptible = true → a.sound.NoOverflow

/-- An interrupt that plays has the period of `SoundInit` or no loud sample, and the
sample that it reads is not the one of the number `0xffffffff`. -/
def Moderate (a : Audio) (act : AudioAct) : Prop :=
  act = .interrupt → a.interruptible = true → a.sound.ui32Flags.startup = false →
    a.sound.ui32Flags.shutdown = false →
      (a.sound.pwmGenPeriod = SoundState.initPeriod ∨ ¬a.sound.Loud) ∧
        (a.sound.ui32Offset = 0xffffffff → (a.sound.i32Step + a.sound.increment) % 8 ≠ 0)

/-- What every state of the module satisfies. -/
structure Sane (a : Audio) : Prop extends a.Tuned where
  audible : a.sound.Audible
  running : a.sound.pwmGenEnabled = true → a.init = true ∧ a.sound.Running

variable {a : Audio}

theorem sane_powerUp : powerUp.Sane :=
  { tuned_powerUp with
    audible := ⟨⟨by decide, by decide⟩, ⟨by decide, by decide⟩, ⟨by decide, by decide⟩⟩
    running := nofun }

theorem Sane.initialise (sane : a.Sane) : a.initialise.Sane := by
  unfold Audio.initialise
  split
  next => exact sane
  next new =>
    have volume : (0 : Int) ≤ 255 ∧ (255 : Int) ≤ 255 := by decide
    refine { adjust := sane.adjust, period := fun _ => rfl, audible := ?_, running := ?_ }
    · exact ⟨volume, sane.audible.previous, sane.audible.current⟩
    · intro enabled
      exact absurd (sane.running enabled).1 new

theorem Sane.play (sane : a.Sane) (buf : Bytes) (len fsHz bps : Nat) :
    (a.play buf len fsHz bps).2.Sane where
  toTuned := sane.toTuned.play buf len fsHz bps
  audible := sane.initialise.audible.soundStart
  running enabled :=
    ⟨a.init_initialise, .soundStart (fun on => (sane.initialise.running on).2) enabled⟩

theorem Sane.setVolume (sane : a.Sane) {volume : Int} (low : 0 ≤ volume) (high : volume ≤ 255) :
    (a.setVolume volume).Sane where
  period := sane.period
  adjust := sane.adjust
  audible := ⟨⟨low, high⟩, sane.audible.previous, sane.audible.current⟩
  running enabled :=
    have ⟨ready, running⟩ := sane.running enabled
    ⟨ready, running.period, running.offset, running.phase⟩

theorem Sane.interrupt (sane : a.Sane) : a.interrupt.Sane := by
  refine { sane.toTuned.perform .interrupt with audible := ?_, running := ?_ }
  all_goals
    unfold Audio.interrupt
    split
  next => exact sane.audible.soundIntHandler sane.adjust
  next => exact sane.audible
  next interrupted =>
    obtain ⟨ready, running⟩ := sane.running (Bool.and_eq_true_iff.mp interrupted).2
    exact fun _ => ⟨ready, running.soundIntHandler sane.adjust (sane.period ready)⟩
  next => exact sane.running

theorem Sane.perform (sane : a.Sane) (act : AudioAct) : (a.perform act).2.Sane :=
  Audio.perform_keep sane sane.play (fun _ low high => sane.setVolume low high) sane.interrupt act

theorem startPulses_fit {result : Except Exn Unit} {period : Nat}
    (running : result = .ok () → period = 1875 ∨ period = 1360) :
    ∀ width ∈ startPulses result, 0 ≤ width ∧ width ≤ period := by
  unfold startPulses
  split
  next =>
    intro width member
    obtain rfl := List.mem_singleton.mp member
    have period := running rfl
    omega
  next => exact nofun

theorem Sane.play_period (sane : a.Sane) {buf : Bytes} {len fsHz bps : Nat}
    (accepted : (a.play buf len fsHz bps).1 = true) :
    (a.play buf len fsHz bps).2.sound.pwmGenPeriod = 1875 ∨
      (a.play buf len fsHz bps).2.sound.pwmGenPeriod = 1360 := by
  have enabled : (a.play buf len fsHz bps).2.sound.pwmGenEnabled = true :=
    congrArg SoundState.pwmGenEnabled (SoundState.soundStart_snd accepted)
  exact ((sane.play buf len fsHz bps).running enabled).2.period

theorem Sane.interrupt_fits_iff (sane : a.Sane) : a.Fits .interrupt ↔ a.Moderate .interrupt := by
  by_cases enabled : a.interruptible = true
  · obtain ⟨ready, running⟩ := sane.running (Bool.and_eq_true_iff.mp enabled).2
    have passed := SoundState.passed_fits_iff sane.audible running (sane.period ready) sane.adjust
    have overflow := SoundState.noOverflow_iff sane.audible running (sane.period ready) sane.adjust
    have period : (a.perform .interrupt).2.sound.pwmGenPeriod = a.sound.pwmGenPeriod := by
      have step := SoundState.soundIntHandler_cases sane.adjust
      have taken : a.interrupt = { a with sound := a.sound.soundIntHandler.2 } := if_pos enabled
      change a.interrupt.sound.pwmGenPeriod = _
      rw [taken]
      dsimp only
      generalize a.sound.soundIntHandler.2 = after at step
      cases step <;> rfl
    have pulses : a.pulses .interrupt = a.sound.passed.toList := if_pos enabled
    constructor
    · intro fits _ _ startup shutdown
      have widths := fits.pulses
      rw [pulses, period] at widths
      refine ⟨passed.mp (fun width member => ?_) startup shutdown, ?_⟩
      · exact widths width (Option.mem_toList.mpr member)
      · exact overflow.mp (fits.noOverflow rfl enabled) startup shutdown
    · intro moderate
      have conditions := moderate rfl enabled
      refine ⟨?_, fun _ _ => ?_⟩
      · rw [pulses, period]
        intro width member
        refine passed.mpr (fun startup shutdown => ?_) width (Option.mem_toList.mp member)
        exact (conditions startup shutdown).1
      · exact overflow.mpr fun startup shutdown => (conditions startup shutdown).2
  · have pulses : a.pulses .interrupt = [] := if_neg enabled
    refine ⟨fun _ _ on => absurd on enabled, fun _ => ⟨?_, fun _ on => absurd on enabled⟩⟩
    rw [pulses]
    exact nofun

theorem Sane.fits_iff (sane : a.Sane) (act : AudioAct) : a.Fits act ↔ a.Moderate act := by
  cases act with
  | play buf len sampleRate sampleDepth =>
    refine ⟨fun _ => nofun, fun _ => ⟨startPulses_fit fun accepted => ?_, nofun⟩⟩
    obtain ⟨played, result⟩ := Audio.audioPlay_accepted accepted
    change (a.audioPlay buf len sampleRate sampleDepth).2.sound.pwmGenPeriod = 1875 ∨
      (a.audioPlay buf len sampleRate sampleDepth).2.sound.pwmGenPeriod = 1360
    rw [result]
    exact sane.play_period played
  | playWav buf len =>
    refine ⟨fun _ => nofun, fun _ => ⟨startPulses_fit fun accepted => ?_, nofun⟩⟩
    obtain ⟨played, result⟩ := Audio.audioPlayWav_accepted accepted
    change (a.audioPlayWav buf len).2.sound.pwmGenPeriod = 1875 ∨
      (a.audioPlayWav buf len).2.sound.pwmGenPeriod = 1360
    rw [result]
    exact sane.play_period played
  | volume volume => exact ⟨fun _ => nofun, fun _ => ⟨nofun, nofun⟩⟩
  | interrupt => exact sane.interrupt_fits_iff

end Audio

/-- Along a run every pulse fits the period and nothing overflows exactly if every
step is moderate. -/
theorem pulseWidth_fits_iff (acts : List AudioAct) :
    Audio.machine.EachStep Audio.Fits .powerUp acts ↔
      Audio.machine.EachStep Audio.Moderate .powerUp acts :=
  Audio.machine.eachStep_iff_of_invariant Audio.Sane (fun act sane => sane.perform act)
    (fun act sane => sane.fits_iff act) acts Audio.sane_powerUp

/-- In the startup ramp of a loud sound with 44100 samples a second. -/
def loudRamp (k : Nat) : Audio where
  init := true
  curVolume := 128
  sound := ((((SoundState.powerUp.soundInit 120000000).tuned 44100 16).startPlayback
    (fun _ => 0x7f) 2 (some .soundHandler)).setStep (k + 1)).setPulseWidth (k + 1)

theorem interrupt_loudRamp {k : Nat} (early : k < 935) :
    (loudRamp k).interrupt = loudRamp (k + 1) := by
  have period : (loudRamp k).sound.ui32Period = SoundState.initPeriod := rfl
  have step : i32 ((loudRamp k).sound.i32Step + 1) = (k + 1 : Nat) + 1 := by
    change i32 ((k + 1 : Int) + 1) = _
    rw [SoundState.i32_of_small (by omega) (by omega)]
    omega
  have ramping : ¬ (loudRamp k).sound.ui32Period / 2 ≤ u32 ((k + 1 : Nat) + 1) := by
    rw [period, SoundState.initPeriod, SoundState.u32_of_small (by omega) (by omega)]
    omega
  have stepped : (loudRamp k).sound.startupRamp = (loudRamp (k + 1)).sound := by
    unfold SoundState.startupRamp
    rw [step]
    exact if_neg ramping
  exact congrArg (Audio.mk true 128) stepped

theorem after_loudRamp (n : Nat) : ∀ {k}, k + n ≤ 935 →
    Audio.machine.after (loudRamp k) (List.replicate n .interrupt) = loudRamp (k + n) := by
  induction n with
  | zero => exact fun _ => rfl
  | succ n ih =>
    intro k bound
    have next := interrupt_loudRamp (k := k) (by omega)
    have rest := ih (k := k + 1) (by omega)
    rw [← next, Nat.add_assoc, Nat.add_comm 1 n] at rest
    exact rest

/-- The first loud sample at 44100 samples a second has a pulse longer than the period. -/
theorem pulseWidth_fits_fails :
    ¬ ∀ acts : List AudioAct, Audio.machine.EachStep Audio.Fits .powerUp acts := by
  intro claim
  have start : (Audio.machine.perform .powerUp (.play (fun _ => 0x7f) 4 44100 16)).2 =
      loudRamp 0 := rfl
  have fits := Machine.EachStep.append _ (claim ((AudioAct.play (fun _ => 0x7f) 4 44100 16 ::
    List.replicate 935 .interrupt ++ List.replicate 4 .interrupt) ++ [.interrupt]))
  rw [Machine.after_append, Machine.after_cons, start, after_loudRamp 935 (by decide)] at fits
  have width : 1400 ∈ (Audio.machine.after (loudRamp (0 + 935))
      (List.replicate 4 .interrupt)).pulses .interrupt := by decide
  exact absurd (fits.pulses _ width).2 (by decide)

end TildaMk4.Sound
