import TildaMk4.Sound.Playback

/-!
# What `SoundStart` leaves behind

The four ways through `SoundStart`. It returns false in three of them, and one of these
has already set the flag of the rate and the period of the PWM.
-/

namespace TildaMk4.Sound

open Storage Transition Words

def supportedRates : List Nat := [8000, 11025, 16000, 22050, 32000, 44100]

namespace SoundFlags

/-- The flags when that of the rate is the only one. -/
def ofRate (rate : Nat) : SoundFlags :=
  { zero with
    khz8 := decide (rate = 8000 ∨ rate = 11025)
    khz16 := decide (rate = 16000 ∨ rate = 22050)
    khz32 := decide (rate = 32000 ∨ rate = 44100) }

theorem ofRate_ne_zero {rate : Nat} (known : rate ∈ supportedRates) : ofRate rate ≠ zero := by
  simp only [supportedRates, List.mem_cons, List.not_mem_nil, or_false] at known
  rcases known with rfl | rfl | rfl | rfl | rfl | rfl <;> decide

end SoundFlags

namespace SoundState

/-- The rate is set up. -/
def rated (s : SoundState) (rate : Nat) : SoundState :=
  { s with ui32Flags := .ofRate rate, pwmGenPeriod := periodTicks rate }

/-- The rate and the depth are set up. -/
def tuned (s : SoundState) (rate depth : Nat) : SoundState :=
  { s with
    ui32Flags :=
      { SoundFlags.ofRate rate with bit8 := decide (depth = 8), bit16 := decide (depth = 16) }
    pwmGenPeriod := periodTicks rate }

variable (s : SoundState)

/-- `soundStart` as a relation. -/
inductive Starts (buf : Bytes) (length rate depth : Nat) (callback : Option SoundCallback) :
    Bool → SoundState → Prop
  | busy : s.ui32Flags ≠ .zero → Starts buf length rate depth callback false s
  | badRate : s.ui32Flags = .zero → rate ∉ supportedRates →
    Starts buf length rate depth callback false s
  | badDepth : s.ui32Flags = .zero → rate ∈ supportedRates → depth ≠ 8 → depth ≠ 16 →
    Starts buf length rate depth callback false (s.rated rate)
  | accepted : s.ui32Flags = .zero → rate ∈ supportedRates → depth = 8 ∨ depth = 16 →
    Starts buf length rate depth callback true
      ((s.tuned rate depth).startPlayback buf length callback)

variable {s} {buf : Bytes} {length rate depth : Nat} {callback : Option SoundCallback}

theorem setRateFlag_of_mem (idle : s.ui32Flags = .zero) (known : rate ∈ supportedRates) :
    s.setRateFlag rate = some { s with ui32Flags := .ofRate rate } := by
  simp only [supportedRates, List.mem_cons, List.not_mem_nil, or_false] at known
  rcases known with rfl | rfl | rfl | rfl | rfl | rfl <;> simp [setRateFlag, idle] <;> rfl

theorem setRateFlag_of_not_mem (unknown : rate ∉ supportedRates) : s.setRateFlag rate = none := by
  simp only [supportedRates, List.mem_cons, List.not_mem_nil, or_false, not_or] at unknown
  simp [setRateFlag, unknown]

theorem soundStart_cases (s : SoundState) (buf : Bytes) (length rate depth : Nat)
    (callback : Option SoundCallback) :
    s.Starts buf length rate depth callback (s.soundStart buf length rate depth callback).1
      (s.soundStart buf length rate depth callback).2 := by
  unfold soundStart
  by_cases idle : s.ui32Flags = .zero
  · rw [if_neg (not_not.mpr idle)]
    by_cases known : rate ∈ supportedRates
    · rw [setRateFlag_of_mem idle known]
      by_cases eight : depth = 8
      · subst eight
        exact .accepted idle known (.inl rfl)
      · by_cases sixteen : depth = 16
        · subst sixteen
          exact .accepted idle known (.inr rfl)
        · simp only [setDepthFlag, if_neg eight, if_neg sixteen]
          exact .badDepth idle known eight sixteen
    · rw [setRateFlag_of_not_mem known]
      exact .badRate idle known
  · rw [if_pos idle]
    exact .busy idle

theorem soundStart_fst_iff : (s.soundStart buf length rate depth callback).1 = true ↔
    s.ui32Flags = .zero ∧ rate ∈ supportedRates ∧ (depth = 8 ∨ depth = 16) := by
  have way := soundStart_cases s buf length rate depth callback
  generalize s.soundStart buf length rate depth callback = result at way ⊢
  obtain ⟨started, after⟩ := result
  cases way <;> simp_all

theorem soundStart_snd (accepted : (s.soundStart buf length rate depth callback).1 = true) :
    (s.soundStart buf length rate depth callback).2 =
      (s.tuned rate depth).startPlayback buf length callback := by
  have way := soundStart_cases s buf length rate depth callback
  generalize s.soundStart buf length rate depth callback = result at way accepted ⊢
  obtain ⟨started, after⟩ := result
  obtain rfl : started = true := accepted
  cases way
  rfl

end SoundState

namespace Audio

/-- Before the first sound the driver is as the static initialisation left it. -/
def Fresh (a : Audio) : Prop :=
  a.init = false → a.sound.ui32Flags = .zero ∧ a.sound.pwmGenEnabled = false

variable {a : Audio}

theorem init_initialise (a : Audio) : a.initialise.init = true := by
  unfold Audio.initialise
  split
  next ready => exact ready
  next => rfl

theorem fresh_play (a : Audio) (buf : Bytes) (len fsHz bps : Nat) :
    (a.play buf len fsHz bps).2.Fresh := by
  intro new
  have ready : (a.play buf len fsHz bps).2.init = true := a.init_initialise
  exact absurd (ready.symm.trans new) nofun

theorem Fresh.perform (fresh : a.Fresh) (act : AudioAct) : (a.perform act).2.Fresh := by
  refine Audio.perform_keep fresh (fresh_play a) (fun _ _ _ => fresh) ?_ act
  unfold Audio.interrupt
  split
  next enabled =>
    intro new
    have off := (fresh new).2
    rw [off, Bool.and_false] at enabled
    cases enabled
  next => exact fresh

theorem fresh_after (acts : List AudioAct) : (machine.after powerUp acts).Fresh :=
  Machine.after_keep machine Fresh (fun act fresh => fresh.perform act) acts fun _ => ⟨rfl, rfl⟩

/-- `SoundInit` does not make a busy driver idle. -/
theorem Fresh.flags_initialise (fresh : a.Fresh) :
    a.initialise.sound.ui32Flags = a.sound.ui32Flags := by
  unfold Audio.initialise
  split
  next => rfl
  next new => exact (fresh (Bool.not_eq_true _ ▸ new)).1.symm

end Audio

namespace PlayRequest

/-- The rate that is passed to `SoundStart`. -/
def rate : PlayRequest → Nat
  | play _ _ sampleRate _ => u32 sampleRate
  | playWav buf _ => Audio.wavSampleRate buf

/-- The settings are those that the driver plays, and a WAV has the header of one. -/
def Supported : PlayRequest → Prop
  | play _ _ sampleRate sampleDepth =>
    (∃ rate ∈ supportedRates, sampleRate = rate) ∧ (sampleDepth = 8 ∨ sampleDepth = 16)
  | playWav buf _ => Audio.fourBytes buf 0 [0x52, 0x49, 0x46, 0x46] = true ∧
    Audio.fourBytes buf 12 [0x66, 0x6d, 0x74, 0x20] = true ∧ Audio.wavNumChannels buf = 1 ∧
      (Audio.wavBps buf = 8 ∨ Audio.wavBps buf = 16) ∧ Audio.wavSampleRate buf ∈ supportedRates

/-- The state is the one that `SoundStart` was called in, and a driver that was idle
plays what it supports. -/
structure LeavesDriver (before after : Audio) : Prop where
  state : after.sound = before.initialise.sound
  idle : before.sound.soundBusy = false → after.sound.soundBusy = false ∧
    ∀ later : PlayRequest, later.Supported → (after.perform later.act).1 = .ok ()

variable {a : Audio} {request : PlayRequest}

/-- What is refused is refused by `SoundStart`, at this rate. -/
def BySoundStart (a : Audio) (rate : Nat) (result : Except Exn Unit × Audio) : Prop :=
  result.1 = .error (.typeError Audio.typeErrorSettings) → ∃ buf len bps,
    (a.play buf len rate bps).1 = false ∧ result.2 = (a.play buf len rate bps).2

theorem bySoundStart_answered (a : Audio) (buf : Bytes) (len rate bps : Nat) :
    BySoundStart a rate (Audio.answered (a.play buf len rate bps)) :=
  fun refused => ⟨buf, len, bps, (Audio.answered_error.mp refused).1, rfl⟩

/-- Another message is no refusal by `SoundStart`. -/
theorem bySoundStart_of_ne (a after : Audio) (rate : Nat) {message : String}
    (other : message ≠ Audio.typeErrorSettings) :
    BySoundStart a rate (.error (.typeError message), after) :=
  fun refused => absurd (Exn.typeError.inj (Except.error.inj refused)) other

theorem bySoundStart_perform (a : Audio) (request : PlayRequest) :
    BySoundStart a request.rate (a.perform request.act) := by
  cases request with
  | play buf len sampleRate sampleDepth =>
    exact Audio.audioPlay_cases buf len nofun (bySoundStart_answered a buf len _ _)
  | playWav buf len =>
    refine Audio.audioPlayWav_cases buf len ?_ ?_ (bySoundStart_answered a _ _ _ _)
    · exact bySoundStart_of_ne a a _ (by decide)
    · exact bySoundStart_of_ne a a _ (by decide)

theorem ok_of_supported (idle : a.initialise.sound.ui32Flags = .zero)
    (supported : request.Supported) : (a.perform request.act).1 = .ok () := by
  have played (buf : Bytes) (len : Nat) {rate bps : Nat} (known : rate ∈ supportedRates)
      (depth : bps = 8 ∨ bps = 16) : (a.play buf len rate bps).1 = true := by
    apply SoundState.soundStart_fst_iff.mpr
    refine ⟨idle, known, ?_⟩
    rcases depth with rfl | rfl <;> decide
  cases request with
  | play buf len sampleRate sampleDepth =>
    obtain ⟨⟨rate, known, rfl⟩, depth⟩ := supported
    have sameRate : u32 rate = rate ∧ (word? rate).isSome = true := by
      simp only [supportedRates, List.mem_cons, List.not_mem_nil, or_false] at known
      rcases known with rfl | rfl | rfl | rfl | rfl | rfl <;> exact ⟨rfl, rfl⟩
    have sameDepth : (u32 sampleDepth = 8 ∨ u32 sampleDepth = 16) ∧
        (word? sampleDepth).isSome = true := by
      rcases depth with rfl | rfl
      · exact ⟨.inl rfl, rfl⟩
      · exact ⟨.inr rfl, rfl⟩
    change (a.audioPlay buf len rate sampleDepth).1 = .ok ()
    rw [Audio.audioPlay_of_words buf len sameRate.2 sameDepth.2, Audio.answered_ok, sameRate.1]
    exact played buf len known sameDepth.1
  | playWav buf len =>
    obtain ⟨riff, fmt, mono, depth, known⟩ := supported
    have accepted : (a.wavPlay buf len).1 = true := played _ _ known depth
    simp only [act, Audio.perform, Audio.audioPlayWav, riff, fmt, mono, depth, Bool.not_true,
      Bool.or_self, Bool.false_eq_true, if_false, ne_eq, not_true_eq_false, or_self]
    exact Audio.answered_ok.mpr accepted

theorem leavesDriver_of_unchanged (fresh : a.Fresh) {after : Audio} (ready : after.init = true)
    (same : after.sound = a.initialise.sound) : LeavesDriver a after where
  state := same
  idle free := by
    have zero : a.sound.ui32Flags = .zero := not_not.mp (of_decide_eq_false free)
    have still : after.sound.ui32Flags = .zero := by rw [same, fresh.flags_initialise, zero]
    refine ⟨decide_eq_false (not_not.mpr still), fun later supported => ?_⟩
    refine ok_of_supported ?_ supported
    rw [Audio.initialise, if_pos ready]
    exact still

end PlayRequest

/-- A refused call leaves the driver as it was exactly if the driver is busy or the rate
is unknown. -/
theorem refused_leavesDriver_iff (acts : List AudioAct) (request : PlayRequest)
    (refused : ((Audio.machine.after .powerUp acts).perform request.act).1 =
      .error (.typeError Audio.typeErrorSettings)) :
    PlayRequest.LeavesDriver (Audio.machine.after .powerUp acts)
        ((Audio.machine.after .powerUp acts).perform request.act).2 ↔
      (Audio.machine.after .powerUp acts).sound.soundBusy = true ∨
        request.rate ∉ supportedRates := by
  have fresh := Audio.fresh_after acts
  generalize Audio.machine.after .powerUp acts = a at *
  obtain ⟨buf, len, bps, failed, result⟩ := PlayRequest.bySoundStart_perform a request refused
  have flags := fresh.flags_initialise
  have way := SoundState.soundStart_cases a.initialise.sound buf
    (if bps = 16 then len / 2 else len) request.rate (bps % 0x100) (some .soundHandler)
  have unchanged := PlayRequest.leavesDriver_of_unchanged fresh a.init_initialise
  rw [result]
  simp only [Audio.play] at failed ⊢
  generalize a.initialise.sound.soundStart buf (if bps = 16 then len / 2 else len) request.rate
    (bps % 0x100) (some .soundHandler) = started at *
  obtain ⟨started, after⟩ := started
  obtain rfl : started = false := failed
  cases way with
  | busy busy =>
    rw [flags] at busy
    exact ⟨fun _ => .inl (decide_eq_true busy), fun _ => unchanged rfl⟩
  | badRate idle unknown => exact ⟨fun _ => .inr unknown, fun _ => unchanged rfl⟩
  | badDepth idle known =>
    have changed := SoundFlags.ofRate_ne_zero known
    constructor
    · intro leaves
      have same := congrArg SoundState.ui32Flags leaves.state
      exact absurd (same.trans idle) changed
    · rintro (busy | unknown)
      · exact absurd (flags.symm.trans idle) (of_decide_eq_true busy)
      · exact absurd known unknown

/-- An unknown rate. -/
theorem refused_leavesDriver_iff_rate : PlayRequest.LeavesDriver (Audio.machine.after .powerUp [])
    ((Audio.machine.after .powerUp []).perform
      (PlayRequest.play (fun _ => 0) 4 12345 16).act).2 :=
  (refused_leavesDriver_iff [] (.play (fun _ => 0) 4 12345 16) rfl).mpr (.inr (by decide))

/-- With 12 bits at 16 kHz the call is refused, and the driver is busy afterwards. -/
theorem refused_leavesDriver_fails :
    ¬ ∀ (acts : List AudioAct) (request : PlayRequest),
      ((Audio.machine.after .powerUp acts).perform request.act).1 =
        .error (.typeError Audio.typeErrorSettings) →
      PlayRequest.LeavesDriver (Audio.machine.after .powerUp acts)
        ((Audio.machine.after .powerUp acts).perform request.act).2 := by
  intro claim
  have leaves := claim [] (.play (fun _ => 0) 4 16000 12) rfl
  exact absurd (congrArg SoundState.ui32Flags leaves.state) (by decide)

end TildaMk4.Sound
