import TildaMk4.Sound.Driver

/-!
# A buffer is played once, from its first sample to its last

Each phase of a playback is an invariant with a counter, and `Leads` puts the
phases together: the startup ramp, one round of interrupts for each sample, and
the shutdown ramp that the callback starts at the end of the buffer.
-/

namespace TildaMk4.Sound

open Storage Transition

namespace SoundState

variable {s : SoundState} {inc rounds length : Nat}

/-- The period that `SoundInit` computes at 120 MHz. -/
def initPeriod : Nat := 1875

/-- The flags make `i32Step` advance by `inc`, which comes round after `rounds` interrupts. -/
def Advances (flags : SoundFlags) (inc rounds : Nat) : Prop :=
  flags.khz8 = true ∧ inc = 1 ∧ rounds = 8 ∨
    flags.khz8 = false ∧ flags.khz16 = true ∧ inc = 2 ∧ rounds = 4 ∨
    flags.khz8 = false ∧ flags.khz16 = false ∧ flags.khz32 = true ∧ inc = 4 ∧ rounds = 2

/-- A playback is going on that advances by `inc` eighths of a sample, so that it
takes `rounds` interrupts for each sample. -/
structure Loaded (inc rounds length : Nat) (s : SoundState) : Prop where
  period : s.ui32Period = initPeriod
  adjust : s.i32RateAdjust = 0
  callback : s.pfnCallback = some .soundHandler
  length : s.ui32Length = length
  play : s.ui32Flags.play = true
  shutdown : s.ui32Flags.shutdown = false
  rate : Advances s.ui32Flags inc rounds

structure Starting (inc rounds length i : Nat) (s : SoundState) : Prop
    extends Loaded inc rounds length s where
  startup : s.ui32Flags.startup = true
  step : s.i32Step = i + 1
  offset : s.ui32Offset = 0

/-- Sample `k` is read when the round of interrupts is over, of which `j` have passed. -/
structure Playing (inc rounds length k j : Nat) (s : SoundState) : Prop
    extends Loaded inc rounds length s where
  startup : s.ui32Flags.startup = false
  step : s.i32Step = inc * j
  offset : s.ui32Offset = k

structure Stopping (i : Nat) (s : SoundState) : Prop where
  adjust : s.i32RateAdjust = 0
  flags : s.ui32Flags = .onlyShutdown
  step : s.i32Step = 937 - i

def Idle (s : SoundState) : Prop := s.ui32Flags = .zero

def Busy (s : SoundState) : Prop := s.soundBusy = true

theorem i32_of_small {value : Int} (low : 0 ≤ value) (high : value < 0x80000000) :
    i32 value = value :=
  Int.bmod_eq_of_le (by omega) (by omega)

theorem u32_of_small {value : Int} (low : 0 ≤ value) (high : value < 0x100000000) :
    u32 value = value.toNat := by
  rw [u32, Int.emod_eq_of_lt low high]

theorem adjustRate_of_zero (adjust : s.i32RateAdjust = 0) : s.adjustRate = s :=
  if_neg (not_not.mpr adjust)

theorem Loaded.busy (loaded : Loaded inc rounds length s) : Busy s := by
  have play := loaded.play
  refine decide_eq_true fun zero => ?_
  rw [zero] at play
  exact nomatch play

theorem Stopping.busy {i : Nat} (stopping : Stopping i s) : Busy s :=
  decide_eq_true (by rw [stopping.flags]; decide)

theorem Starting.handler {i : Nat} (starting : Starting inc rounds length i s) :
    s.soundIntHandler = ([], s.startupRamp) := by
  rw [soundIntHandler, adjustRate_of_zero starting.adjust, if_pos starting.startup]

theorem Playing.handler {k j : Nat} (playing : Playing inc rounds length k j s) :
    s.soundIntHandler = s.playStep := by
  rw [soundIntHandler, adjustRate_of_zero playing.adjust, playing.startup, playing.shutdown]
  rfl

theorem Stopping.handler {i : Nat} (stopping : Stopping i s) :
    s.soundIntHandler = ([], s.shutdownRamp) := by
  rw [soundIntHandler, adjustRate_of_zero stopping.adjust, stopping.flags]
  rfl

theorem Loaded.nextStep (loaded : Loaded inc rounds length s) :
    s.nextStep = (s.i32Step + inc) % 8 := by
  unfold SoundState.nextStep
  rcases loaded.rate with ⟨is8, rfl, _⟩ | ⟨not8, is16, rfl, _⟩ | ⟨not8, not16, is32, rfl, _⟩
  · rw [if_pos is8]
    rfl
  · rw [if_neg (Bool.eq_false_iff.mp not8), if_pos is16]
    rfl
  · rw [if_neg (Bool.eq_false_iff.mp not8), if_neg (Bool.eq_false_iff.mp not16), if_pos is32]
    rfl

theorem Loaded.nextStep_eq_zero_iff (loaded : Loaded inc rounds length s) {j : Nat}
    (step : s.i32Step = inc * j) (inside : j < rounds) : s.nextStep = 0 ↔ j + 1 = rounds := by
  rw [loaded.nextStep, step]
  rcases loaded.rate with ⟨_, rfl, rfl⟩ | ⟨_, _, rfl, rfl⟩ | ⟨_, _, _, rfl, rfl⟩ <;> omega

theorem Loaded.nextStep_of_more (loaded : Loaded inc rounds length s) {j : Nat}
    (step : s.i32Step = inc * j) (more : j + 1 < rounds) :
    s.nextStep = inc * (j + 1 : Nat) := by
  rw [loaded.nextStep, step]
  rcases loaded.rate with ⟨_, rfl, rfl⟩ | ⟨_, _, rfl, rfl⟩ | ⟨_, _, _, rfl, rfl⟩ <;> omega

/-- What a step of the playback leaves as it is. -/
theorem Loaded.of_same {t : SoundState} (loaded : Loaded inc rounds length s)
    (period : t.ui32Period = s.ui32Period := by rfl)
    (adjust : t.i32RateAdjust = s.i32RateAdjust := by rfl)
    (callback : t.pfnCallback = s.pfnCallback := by rfl)
    (same : t.ui32Length = s.ui32Length := by rfl)
    (flags : t.ui32Flags = { s.ui32Flags with startup := t.ui32Flags.startup } := by rfl) :
    Loaded inc rounds length t where
  period := period.trans loaded.period
  adjust := adjust.trans loaded.adjust
  callback := callback.trans loaded.callback
  length := same.trans loaded.length
  play := by
    rw [flags]
    exact loaded.play
  shutdown := by
    rw [flags]
    exact loaded.shutdown
  rate := by
    rw [flags]
    exact loaded.rate

theorem Starting.step_i32 {i : Nat} (starting : Starting inc rounds length i s) (early : i < 936) :
    i32 (s.i32Step + 1) = (i + 2 : Nat) := by
  rw [starting.step, i32_of_small (by omega) (by omega)]
  omega

theorem Starting.next {i : Nat} (starting : Starting inc rounds length i s) (early : i < 935) :
    Starting inc rounds length (i + 1) s.startupRamp := by
  have small := starting.step_i32 (by omega)
  have ramping : ¬ s.ui32Period / 2 ≤ u32 (i32 (s.i32Step + 1)) := by
    rw [small, starting.period, u32_of_small (by omega) (by omega), initPeriod]
    omega
  have stepped : s.startupRamp =
      (s.setStep (i32 (s.i32Step + 1))).setPulseWidth (i32 (s.i32Step + 1)) := if_neg ramping
  rw [stepped]
  refine { starting.toLoaded.of_same with
    startup := starting.startup, step := ?_, offset := starting.offset }
  exact small

theorem Starting.last (starting : Starting inc rounds length 935 s) :
    Playing inc rounds length 0 0 s.startupRamp := by
  have small := starting.step_i32 (by omega)
  have done : s.ui32Period / 2 ≤ u32 (i32 (s.i32Step + 1)) := by
    rw [small, starting.period, u32_of_small (by omega) (by omega), initPeriod]
    omega
  have ended : s.startupRamp =
      { (s.setStep (i32 (s.i32Step + 1))).setPulseWidth (i32 (s.i32Step + 1)) with
        ui32Flags := { s.ui32Flags with startup := false }, i32Step := 0 } := if_pos done
  rw [ended]
  exact { starting.toLoaded.of_same with
    startup := rfl, step := (Int.mul_zero _).symm, offset := starting.offset }

theorem Playing.between {k j : Nat} (playing : Playing inc rounds length k j s)
    (more : j + 1 < rounds) :
    s.playStep.1 = [] ∧ Playing inc rounds length k (j + 1) s.playStep.2 := by
  have onward : s.nextStep ≠ 0 := fun zero => by
    have := (playing.nextStep_eq_zero_iff playing.step (by omega)).mp zero
    omega
  have stepped : s.playStep = ([], (s.setPulseWidth s.dutyCycle).setStep s.nextStep) :=
    if_neg onward
  rw [stepped]
  refine ⟨rfl, { playing.toLoaded.of_same with
    startup := playing.startup, step := ?_, offset := playing.offset }⟩
  exact playing.nextStep_of_more playing.step more

/-- The state when the sample has been loaded and the callback is called. -/
def loaded (s : SoundState) : SoundState :=
  ((s.setPulseWidth s.dutyCycle).setStep s.nextStep).loadSample.nextOffset

theorem Playing.reads {k j : Nat} (playing : Playing inc rounds length k j s)
    (due : j + 1 = rounds) : s.playStep = ([k], s.loaded.callback) := by
  have zero := (playing.nextStep_eq_zero_iff playing.step (by omega)).mpr due
  rw [← playing.offset]
  exact if_pos zero

theorem Playing.loaded_offset {k j : Nat} (playing : Playing inc rounds length k j s)
    (inside : k < 0xffffffff) : s.loaded.ui32Offset = if k + 1 = length then 0 else k + 1 := by
  have bumped : (s.ui32Offset + 1) % 0x100000000 = k + 1 := by
    rw [playing.offset]
    exact Nat.mod_eq_of_lt (by omega)
  rw [← bumped, ← playing.length]
  rfl

theorem Playing.onward {k j : Nat} (playing : Playing inc rounds length k j s)
    (due : j + 1 = rounds) (more : k + 1 < length) (small : length < 0x100000000) :
    Playing inc rounds length (k + 1) 0 s.loaded.callback := by
  have offset : s.loaded.ui32Offset = k + 1 := by
    rw [playing.loaded_offset (by omega), if_neg (by omega)]
  have zero := (playing.nextStep_eq_zero_iff playing.step (by omega)).mpr due
  have quiet : s.loaded.callback = s.loaded := by
    have registered : s.loaded.pfnCallback = some .soundHandler := playing.callback
    unfold SoundState.callback
    rw [registered, offset]
    dsimp only
    rw [if_neg (Nat.succ_ne_zero k)]
    split <;> rfl
  rw [quiet]
  refine { playing.toLoaded.of_same with
    startup := playing.startup, step := ?_, offset := offset }
  exact zero.trans (Int.mul_zero _).symm

theorem Playing.final {k j : Nat} (playing : Playing inc rounds length k j s)
    (last : k + 1 = length) (small : length < 0x100000000) :
    Stopping 0 s.loaded.callback := by
  have offset : s.loaded.ui32Offset = 0 := by
    rw [playing.loaded_offset (by omega), if_pos last]
  have stops : s.loaded.callback = s.loaded.soundStop := by
    have registered : s.loaded.pfnCallback = some .soundHandler := playing.callback
    unfold SoundState.callback
    rw [registered, offset]
    rfl
  have busy : s.loaded.ui32Flags ≠ .zero ∧ s.loaded.ui32Flags.shutdown = false :=
    ⟨of_decide_eq_true playing.busy, playing.shutdown⟩
  have stopped : s.loaded.soundStop = { s.loaded with
      ui32Flags := .onlyShutdown, i32Step := (s.loaded.ui32Period / 2 : Nat),
      pwmIntEnabled := true } := if_pos busy
  have half : (s.loaded.ui32Period / 2 : Nat) = (937 : Int) := by
    have period : s.loaded.ui32Period = initPeriod := playing.period
    rw [period]
    rfl
  rw [stops, stopped]
  exact ⟨playing.adjust, rfl, half⟩

theorem Stopping.next {i : Nat} (stopping : Stopping i s) (early : i < 936) :
    Stopping (i + 1) s.shutdownRamp := by
  have ramping : s.i32Step ≠ 1 := by
    rw [stopping.step]
    omega
  have stepped : s.shutdownRamp =
      (s.setStep (i32 (s.i32Step - 1))).setPulseWidth (i32 (s.i32Step - 1)) := if_neg ramping
  rw [stepped]
  refine ⟨stopping.adjust, stopping.flags, ?_⟩
  have small : i32 (s.i32Step - 1) = 937 - (i + 1 : Nat) := by
    rw [stopping.step, i32_of_small (by omega) (by omega)]
    omega
  exact small

theorem Stopping.last (stopping : Stopping 936 s) : Idle s.shutdownRamp := by
  have done : s.i32Step = 1 := by
    rw [stopping.step]
    rfl
  have ended : s.shutdownRamp =
      { s with pwmIntEnabled := false, pwmGenEnabled := false, ui32Flags := .zero } := if_pos done
  rw [ended]
  rfl

theorem startup_leads : interrupts.Leads () Busy 936 (Starting inc rounds length 0) []
    (Playing inc rounds length 0 0) := by
  have ramp : interrupts.Leads () Busy 935 (Starting inc rounds length 0) []
      (Starting inc rounds length 935) :=
    .iterate_silent 935 fun i inside => .one fun starting =>
      ⟨starting.busy, _, starting.handler, starting.next inside⟩
  exact ramp.trans (.one fun starting =>
    ⟨starting.busy, _, starting.handler, starting.last⟩)

/-- The interrupts of one sample before the one that reads it. -/
theorem between_leads (inc length k : Nat) (pauses : Nat) :
    interrupts.Leads () Busy pauses (Playing inc (pauses + 1) length k 0) []
      (Playing inc (pauses + 1) length k pauses) :=
  .iterate_silent pauses fun j inside => .one fun playing =>
    have ⟨silent, next⟩ := playing.between (by omega)
    ⟨playing.busy, _, playing.handler.trans (Prod.ext silent rfl), next⟩

theorem sample_leads (inc pauses : Nat) {k : Nat} (more : k + 1 < length)
    (small : length < 0x100000000) :
    interrupts.Leads () Busy (pauses + 1) (Playing inc (pauses + 1) length k 0) [k]
      (Playing inc (pauses + 1) length (k + 1) 0) :=
  (between_leads inc length k pauses).trans (.one fun playing =>
    ⟨playing.busy, _, playing.handler.trans (playing.reads rfl), playing.onward rfl more small⟩)

theorem lastSample_leads (inc pauses : Nat) {k : Nat} (last : k + 1 = length)
    (small : length < 0x100000000) :
    interrupts.Leads () Busy (pauses + 1) (Playing inc (pauses + 1) length k 0) [k] (Stopping 0) :=
  (between_leads inc length k pauses).trans (.one fun playing =>
    ⟨playing.busy, _, playing.handler.trans (playing.reads rfl), playing.final last small⟩)

theorem shutdown_leads : interrupts.Leads () Busy 937 (Stopping 0) [] Idle := by
  have ramp : interrupts.Leads () Busy 936 (Stopping 0) [] (Stopping 936) :=
    .iterate_silent 936 fun i inside => .one fun stopping =>
      ⟨stopping.busy, _, stopping.handler, stopping.next inside⟩
  exact ramp.trans (.one fun stopping =>
    ⟨stopping.busy, _, stopping.handler, stopping.last⟩)

theorem playback_leads (inc pauses : Nat) {n : Nat} (small : n + 1 < 0x100000000) :
    interrupts.Leads () Busy (936 + (n * (pauses + 1) + (pauses + 1) + 937))
      (Starting inc (pauses + 1) (n + 1) 0) (List.range (n + 1)) Idle := by
  have samples : interrupts.Leads () Busy (n * (pauses + 1)) (Playing inc (pauses + 1) (n + 1) 0 0)
      (List.range n) (Playing inc (pauses + 1) (n + 1) n 0) := by
    have loop := Machine.Leads.iterate (I := fun k => Playing inc (pauses + 1) (n + 1) k 0) n
      fun k inside => sample_leads inc pauses (by omega) small
    simpa using loop
  have whole := startup_leads.trans ((samples.trans (lastSample_leads inc pauses rfl small)).trans
    shutdown_leads)
  simpa [List.range_succ] using whole

/-- Before the first sample has been read nothing can end the playback. -/
theorem firstSample_leads (inc pauses length : Nat) :
    interrupts.Leads () Busy (936 + (pauses + 1)) (Starting inc (pauses + 1) length 0) [0]
      fun _ => True :=
  startup_leads.trans ((between_leads inc length 0 pauses).trans (.one fun playing =>
    ⟨playing.busy, _, playing.handler.trans (playing.reads rfl), trivial⟩))

/-- From this state the interrupts read the samples 0, 1, .., `n - 1` and no
others, and then the driver is idle, after a number of interrupts bounded in `n`. -/
def Plays (s : SoundState) (n : Nat) : Prop :=
  ∃ count ≤ 8 * n + 1873, interrupts.emitted () s count = List.range n ∧
    (interrupts.repeated () s count).soundBusy = false ∧
    ∀ k < count, (interrupts.repeated () s k).soundBusy = true

theorem Advances.rounds_pos {flags : SoundFlags} (rate : Advances flags inc rounds) :
    ∃ pauses < 8, rounds = pauses + 1 := by
  rcases rate with ⟨_, _, rfl⟩ | ⟨_, _, _, rfl⟩ | ⟨_, _, _, _, rfl⟩
  · exact ⟨7, by omega, rfl⟩
  · exact ⟨3, by omega, rfl⟩
  · exact ⟨1, by omega, rfl⟩

theorem Starting.plays {n : Nat} (starting : Starting inc rounds n 0 s) (some_ : 0 < n)
    (small : n < 0x100000000) : Plays s n := by
  obtain ⟨pauses, few, rfl⟩ := starting.rate.rounds_pos
  obtain ⟨m, rfl⟩ := Nat.exists_eq_succ_of_ne_zero (Nat.ne_of_gt some_)
  have whole := playback_leads inc pauses small
  refine ⟨_, ?_, whole.emits starting, ?_, whole.stays starting⟩
  · have : m * (pauses + 1) ≤ m * 8 := Nat.mul_le_mul_left _ (by omega)
    omega
  · have idle : Idle _ := whole.ends starting
    exact decide_eq_false (not_not.mpr idle)

/-- Whatever the length, the first sample is read: a playback of no samples does not exist. -/
theorem Starting.not_plays_zero (starting : Starting inc rounds length 0 s) : ¬ Plays s 0 := by
  rintro ⟨count, _, nothing, idle, _⟩
  obtain ⟨pauses, _, rfl⟩ := starting.rate.rounds_pos
  have first := firstSample_leads inc pauses length
  rcases Nat.lt_or_ge count (936 + (pauses + 1)) with early | late
  · exact absurd (idle.symm.trans (first.stays starting count early)) Bool.false_ne_true
  · obtain ⟨more, rfl⟩ := Nat.exists_eq_add_of_le late
    rw [Machine.emitted_add, first.emits starting] at nothing
    exact absurd nothing (List.cons_ne_nil _ _)

theorem setRateFlag_some {rate : Nat} {rated : SoundState} (idle : s.ui32Flags = .zero)
    (known : s.setRateFlag rate = some rated) :
    ∃ flags inc rounds, rated = { s with ui32Flags := flags } ∧ flags.shutdown = false ∧
      Advances flags inc rounds := by
  unfold setRateFlag at known
  rw [idle] at known
  split at known
  next =>
    cases known
    exact ⟨_, 1, 8, rfl, rfl, .inl ⟨rfl, rfl, rfl⟩⟩
  next =>
    split at known
    next =>
      cases known
      exact ⟨_, 2, 4, rfl, rfl, .inr (.inl ⟨rfl, rfl, rfl, rfl⟩)⟩
    next =>
      split at known
      next =>
        cases known
        exact ⟨_, 4, 2, rfl, rfl, .inr (.inr ⟨rfl, rfl, rfl, rfl, rfl⟩)⟩
      next => cases known

theorem setDepthFlag_some {depth : Nat} {deep : SoundState}
    (known : s.setDepthFlag depth = some deep) :
    ∃ bit8 bit16, deep =
      { s with ui32Flags := { s.ui32Flags with bit8 := bit8, bit16 := bit16 } } := by
  unfold setDepthFlag at known
  split at known
  next =>
    cases known
    exact ⟨_, _, rfl⟩
  next =>
    split at known
    next =>
      cases known
      exact ⟨_, _, rfl⟩
    next => cases known

/-- `SoundStart` accepts a buffer only when the driver is idle, and leaves it at the
start of the ramp. -/
theorem soundStart_accepted {buf : Bytes} {rate depth : Nat} (period : s.ui32Period = initPeriod)
    (adjust : s.i32RateAdjust = 0)
    (accepted : (s.soundStart buf length rate depth (some .soundHandler)).1 = true) :
    ∃ inc rounds, Starting inc rounds length 0
      (s.soundStart buf length rate depth (some .soundHandler)).2 := by
  unfold soundStart at accepted ⊢
  split at accepted
  next => cases accepted
  next idle =>
    rw [if_neg idle]
    split at accepted
    next => cases accepted
    next rated known =>
      obtain ⟨flags, inc, rounds, rfl, shutdown, rate⟩ := setRateFlag_some (not_not.mp idle) known
      dsimp only at accepted ⊢
      split at accepted
      next => cases accepted
      next deep known =>
        obtain ⟨bit8, bit16, rfl⟩ := setDepthFlag_some known
        exact ⟨inc, rounds, ⟨⟨period, adjust, rfl, rfl, rfl, shutdown, rate⟩, rfl, rfl, rfl⟩⟩

theorem soundStop_cases (s : SoundState) (playing : s.ui32Flags.shutdown = false) :
    s.soundStop = s ∨ s.soundStop =
      { s with
        ui32Flags := .onlyShutdown
        i32Step := (s.ui32Period / 2 : Nat)
        pwmIntEnabled := true } := by
  by_cases busy : s.ui32Flags = .zero
  · exact .inl (if_neg fun both => both.1 busy)
  · exact .inr (if_pos ⟨busy, playing⟩)

theorem callback_cases (s : SoundState) : s.callback = s ∨ s.callback = s.soundStop := by
  unfold SoundState.callback
  split
  next => exact .inl rfl
  next =>
    split
    next => exact .inr rfl
    next => exact .inl (by split <;> rfl)

/-- `soundIntHandler` as a relation, while nobody adjusts the rate. -/
inductive Interrupted (s : SoundState) : SoundState → Prop
  | rampUp : s.ui32Flags.startup = true → u32 (i32 (s.i32Step + 1)) < s.ui32Period / 2 →
    Interrupted s ((s.setStep (i32 (s.i32Step + 1))).setPulseWidth (i32 (s.i32Step + 1)))
  | rampedUp : s.ui32Flags.startup = true →
    Interrupted s
      { (s.setStep (i32 (s.i32Step + 1))).setPulseWidth (i32 (s.i32Step + 1)) with
        ui32Flags := { s.ui32Flags with startup := false }, i32Step := 0 }
  | rampDown : s.ui32Flags.startup = false → s.ui32Flags.shutdown = true → s.i32Step ≠ 1 →
    Interrupted s ((s.setStep (i32 (s.i32Step - 1))).setPulseWidth (i32 (s.i32Step - 1)))
  | rampedDown : s.ui32Flags.startup = false → s.ui32Flags.shutdown = true → s.i32Step = 1 →
    Interrupted s { s with pwmIntEnabled := false, pwmGenEnabled := false, ui32Flags := .zero }
  | between : s.ui32Flags.startup = false → s.ui32Flags.shutdown = false →
    Interrupted s ((s.setPulseWidth s.dutyCycle).setStep s.nextStep)
  | reads : s.ui32Flags.startup = false → s.ui32Flags.shutdown = false →
    Interrupted s s.loaded
  | stops : s.ui32Flags.startup = false → s.ui32Flags.shutdown = false →
    Interrupted s
      { s.loaded with
        ui32Flags := .onlyShutdown, i32Step := (s.ui32Period / 2 : Nat), pwmIntEnabled := true }

theorem soundIntHandler_cases (adjust : s.i32RateAdjust = 0) :
    s.Interrupted s.soundIntHandler.2 := by
  rw [soundIntHandler, adjustRate_of_zero adjust]
  by_cases startup : s.ui32Flags.startup = true
  · rw [if_pos startup]
    unfold startupRamp
    dsimp only
    split
    next => exact .rampedUp startup
    next early => exact .rampUp startup (Nat.lt_of_not_le early)
  · rw [if_neg startup]
    have started := Bool.eq_false_iff.mpr startup
    by_cases shutdown : s.ui32Flags.shutdown = true
    · rw [if_pos shutdown]
      unfold shutdownRamp
      split
      next last => exact .rampedDown started shutdown last
      next more => exact .rampDown started shutdown more
    · rw [if_neg shutdown]
      have going := Bool.eq_false_iff.mpr shutdown
      unfold playStep
      dsimp only
      split
      next =>
        change s.Interrupted s.loaded.callback
        rcases s.loaded.callback_cases with same | stopped
        · rw [same]
          exact .reads started going
        · rcases s.loaded.soundStop_cases going with same | halted
          · rw [stopped, same]
            exact .reads started going
          · rw [stopped, halted]
            exact .stops started going
      next => exact .between started going

/-- What no call and no interrupt changes while nobody adjusts the rate. -/
structure SamePeriod (s t : SoundState) : Prop where
  period : t.ui32Period = s.ui32Period
  adjust : t.i32RateAdjust = s.i32RateAdjust

theorem samePeriod_soundStart (s : SoundState) (buf : Bytes) (length rate depth : Nat)
    (pfnCallback : Option SoundCallback) :
    SamePeriod s (s.soundStart buf length rate depth pfnCallback).2 := by
  unfold soundStart
  split
  next => exact ⟨rfl, rfl⟩
  next idle =>
    split
    next => exact ⟨rfl, rfl⟩
    next rated known =>
      obtain ⟨flags, _, _, rfl, _, _⟩ := setRateFlag_some (not_not.mp idle) known
      dsimp only
      split
      next => exact ⟨rfl, rfl⟩
      next deep known =>
        obtain ⟨bit8, bit16, rfl⟩ := setDepthFlag_some known
        exact ⟨rfl, rfl⟩

theorem samePeriod_soundIntHandler (adjust : s.i32RateAdjust = 0) :
    SamePeriod s s.soundIntHandler.2 := by
  have step := soundIntHandler_cases adjust
  generalize s.soundIntHandler.2 = after at step
  cases step <;> exact ⟨rfl, rfl⟩

end SoundState

namespace Audio

variable {a : Audio}

/-- What every state of the module satisfies: nobody adjusts the rate. -/
structure Tuned (a : Audio) : Prop where
  period : a.init = true → a.sound.ui32Period = SoundState.initPeriod
  adjust : a.sound.i32RateAdjust = 0

theorem tuned_powerUp : powerUp.Tuned := ⟨fun impossible => (nomatch impossible), rfl⟩

theorem Tuned.initialise (tuned : a.Tuned) :
    a.initialise.Tuned ∧ a.initialise.sound.ui32Period = SoundState.initPeriod := by
  unfold Audio.initialise
  split
  next ready => exact ⟨tuned, tuned.period ready⟩
  next => exact ⟨⟨fun _ => rfl, tuned.adjust⟩, rfl⟩

theorem Tuned.play (tuned : a.Tuned) (buf : Bytes) (len fsHz bps : Nat) :
    (a.play buf len fsHz bps).2.Tuned := by
  obtain ⟨ready, period⟩ := tuned.initialise
  have same := SoundState.samePeriod_soundStart a.initialise.sound buf
    (if bps = 16 then len / 2 else len) fsHz (bps % 0x100) (some .soundHandler)
  exact ⟨fun _ => same.period.trans period, same.adjust.trans ready.adjust⟩

theorem Tuned.perform (tuned : a.Tuned) (act : AudioAct) : (a.perform act).2.Tuned := by
  refine Audio.perform_keep tuned tuned.play (fun _ _ _ => ⟨tuned.period, tuned.adjust⟩) ?_ act
  unfold Audio.interrupt
  split
  next =>
    have same := SoundState.samePeriod_soundIntHandler tuned.adjust
    exact ⟨fun ready => same.period.trans (tuned.period ready), same.adjust.trans tuned.adjust⟩
  next => exact tuned

theorem tuned_after (acts : List AudioAct) : (machine.after powerUp acts).Tuned :=
  Machine.after_keep machine Tuned (fun act tuned => tuned.perform act) acts tuned_powerUp

end Audio

/-- The two calls that play a buffer of `len` bytes. -/
inductive PlayRequest
  | play (buf : Bytes) (len : Nat) (sampleRate sampleDepth : Int)
  | playWav (buf : Bytes) (len : Nat)

namespace PlayRequest

def act : PlayRequest → AudioAct
  | play buf len sampleRate sampleDepth => .play buf len sampleRate sampleDepth
  | playWav buf len => .playWav buf len

/-- The length is a `size_t`, and the depth is one of the two. -/
def WellFormed : PlayRequest → Prop
  | play _ len _ sampleDepth => len < 0x100000000 ∧ (sampleDepth = 8 ∨ sampleDepth = 16)
  | playWav _ len => len < 0x100000000

/-- The whole samples of the buffer, in a WAV those after the header. -/
def samples : PlayRequest → Nat
  | play _ len _ sampleDepth => if sampleDepth = 16 then len / 2 else len
  | playWav buf len =>
    if Audio.wavBps buf = 16 then (len - Audio.wavHeaderSize) / 2 else len - Audio.wavHeaderSize

end PlayRequest

theorem Audio.play_plays {a : Audio} (tuned : a.Tuned) {buf : Bytes} {len fsHz bps n : Nat}
    (accepted : (a.play buf len fsHz bps).1 = true)
    (samples : 0 < n → (if bps = 16 then len / 2 else len) = n) (small : n < 0x100000000) :
    (a.play buf len fsHz bps).2.sound.Plays n ↔ 0 < n := by
  obtain ⟨ready, period⟩ := tuned.initialise
  obtain ⟨inc, rounds, start⟩ := SoundState.soundStart_accepted period ready.adjust accepted
  have starting : SoundState.Starting inc rounds (if bps = 16 then len / 2 else len) 0
    (a.play buf len fsHz bps).2.sound := start
  constructor
  · intro plays
    by_contra none
    obtain rfl : n = 0 := by omega
    exact starting.not_plays_zero plays
  · intro some_
    rw [samples some_] at starting
    exact starting.plays some_ small

theorem Audio.audioPlay_accepted {a : Audio} {buf : Bytes} {len : Nat} {sampleRate sampleDepth : Int}
    (accepted : (a.audioPlay buf len sampleRate sampleDepth).1 = .ok ()) :
    (a.play buf len (u32 sampleRate) (u32 sampleDepth)).1 = true ∧
      (a.audioPlay buf len sampleRate sampleDepth).2 =
        (a.play buf len (u32 sampleRate) (u32 sampleDepth)).2 := by
  revert accepted
  refine Audio.audioPlay_cases (P := fun result => result.1 = .ok () → _ ∧ result.2 = _) buf len
    nofun fun accepted => ?_
  exact ⟨Audio.answered_ok.mp accepted, rfl⟩

theorem Audio.audioPlayWav_accepted {a : Audio} {buf : Bytes} {len : Nat}
    (accepted : (a.audioPlayWav buf len).1 = .ok ()) :
    (a.wavPlay buf len).1 = true ∧ (a.audioPlayWav buf len).2 = (a.wavPlay buf len).2 := by
  revert accepted
  refine Audio.audioPlayWav_cases (P := fun result => result.1 = .ok () → _ ∧ result.2 = _) buf len
    nofun nofun fun accepted => ?_
  exact ⟨Audio.answered_ok.mp accepted, rfl⟩

/-- A WAV with its whole header is passed on with the length of the rest. -/
theorem u32_wavLength {len : Nat} (small : len < 0x100000000) (long : Audio.wavHeaderSize ≤ len) :
    u32 (len - Audio.wavHeaderSize) = len - Audio.wavHeaderSize := by
  unfold Audio.wavHeaderSize at long ⊢
  rw [SoundState.u32_of_small (by omega) (by omega)]
  omega

theorem PlayRequest.samples_lt {request : PlayRequest} (wellFormed : request.WellFormed) :
    request.samples < 0x100000000 := by
  cases request with
  | play buf len sampleRate sampleDepth =>
    have small := wellFormed.1
    unfold PlayRequest.samples
    dsimp only
    split <;> omega
  | playWav buf len =>
    have small : len < 0x100000000 := wellFormed
    unfold PlayRequest.samples
    dsimp only
    split <;> omega

/-- A buffer is read exactly once, in order, and the driver is idle afterwards,
exactly if the buffer holds a sample. -/
theorem playback_readsBuffer (acts : List AudioAct) (request : PlayRequest)
    (wellFormed : request.WellFormed)
    (accepted : ((Audio.machine.after .powerUp acts).perform request.act).1 = .ok ()) :
    ((Audio.machine.after .powerUp acts).perform request.act).2.sound.Plays request.samples ↔
      0 < request.samples := by
  have tuned := Audio.tuned_after acts
  have small := PlayRequest.samples_lt wellFormed
  generalize Audio.machine.after .powerUp acts = a at *
  cases request with
  | play buf len sampleRate sampleDepth =>
    obtain ⟨played, result⟩ := Audio.audioPlay_accepted accepted
    have same : (a.perform (PlayRequest.play buf len sampleRate sampleDepth).act).2 =
      (a.play buf len (u32 sampleRate) (u32 sampleDepth)).2 := result
    rw [same]
    refine Audio.play_plays tuned played (fun _ => ?_) small
    rcases wellFormed.2 with rfl | rfl <;> rfl
  | playWav buf len =>
    obtain ⟨played, result⟩ := Audio.audioPlayWav_accepted accepted
    have same : (a.perform (PlayRequest.playWav buf len).act).2 = (a.wavPlay buf len).2 := result
    rw [same]
    refine Audio.play_plays tuned played (fun some_ => ?_) small
    have long : Audio.wavHeaderSize ≤ len := by
      unfold PlayRequest.samples at some_
      dsimp only at some_
      split at some_ <;> omega
    rw [u32_wavLength wellFormed long]
    rfl

/-- Three bytes hold one sample of 16 bits. -/
theorem playback_readsBuffer_oddLength :
    ((Audio.machine.after .powerUp []).perform (.play (fun _ => 0) 3 16000 16)).2.sound.Plays 1 ↔
      0 < 1 :=
  playback_readsBuffer [] (.play (fun _ => 0) 3 16000 16) ⟨by decide, .inr rfl⟩ rfl

/-- An empty buffer is accepted, and its sample 0 is read. -/
theorem playback_readsBuffer_fails :
    ¬ ∀ (acts : List AudioAct) (request : PlayRequest), request.WellFormed →
      ((Audio.machine.after .powerUp acts).perform request.act).1 = .ok () →
      ((Audio.machine.after .powerUp acts).perform request.act).2.sound.Plays request.samples := by
  intro always
  have plays := always [] (.play (fun _ => 0) 0 16000 16) ⟨by decide, .inr rfl⟩ rfl
  obtain ⟨_, _, starting⟩ : ∃ inc rounds, SoundState.Starting inc rounds 0 0
      ((Audio.initialise .powerUp).sound.soundStart (fun _ => 0) 0 16000 16
        (some .soundHandler)).2 := SoundState.soundStart_accepted rfl rfl rfl
  exact starting.not_plays_zero plays

end TildaMk4.Sound
