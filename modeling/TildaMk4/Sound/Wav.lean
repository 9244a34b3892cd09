import TildaMk4.Sound.Refusal

/-!
# WAV files

What the samples of a canonical WAV are, and when `audio_play_wav` plays them: the handler
is followed with the values that it loads.
-/

namespace TildaMk4.Sound

open Storage Transition

namespace SoundState

/-- `SoundIntHandler` with the sample values that it loads. -/
def loads : Machine SoundState Unit (List Int) where
  perform s _ := (s.soundIntHandler.1.map s.sampleAt, s.soundIntHandler.2)

variable {s t : SoundState} {inc rounds length : Nat}

/-- The values are loaded on the way through the states of the interrupts. -/
theorem loads_repeated (count : Nat) : ∀ s, loads.repeated () s count =
    interrupts.repeated () s count := by
  induction count with
  | zero => exact fun s => rfl
  | succ count ih => exact fun s => ih s.soundIntHandler.2

theorem length_loads_emitted (count : Nat) : ∀ s, (loads.emitted () s count).length =
    (interrupts.emitted () s count).length := by
  induction count with
  | zero => exact fun s => rfl
  | succ count ih =>
    intro s
    rw [Machine.emitted_succ, Machine.emitted_succ, List.length_append, List.length_append]
    exact congrArg₂ (· + ·) (List.length_map _) (ih s.soundIntHandler.2)

/-- While it plays, `t` reads samples from where `s` does. -/
structure SameSource (s t : SoundState) : Prop where
  adjust : t.i32RateAdjust = 0
  buffer : t.piBuffer = s.piBuffer
  bit8 : Busy t → t.ui32Flags.shutdown = false → t.ui32Flags.bit8 = s.ui32Flags.bit8

theorem SameSource.sampleAt (same : SameSource s t) (busy : Busy t)
    (playing : t.ui32Flags.shutdown = false) : t.sampleAt = s.sampleAt := by
  funext offset
  simp only [SoundState.sampleAt, same.buffer, same.bit8 busy playing]

/-- Only a handler that plays reads samples. -/
theorem soundIntHandler_fst_of_shutdown (adjust : s.i32RateAdjust = 0)
    (shutdown : s.ui32Flags.shutdown = true) : s.soundIntHandler.1 = [] := by
  rw [soundIntHandler, adjustRate_of_zero adjust]
  split
  next => rfl
  next => rfl

/-- A handler that plays goes on reading from there, or begins to shut down. -/
theorem SameSource.next (same : SameSource s t) (busy : Busy t) :
    SameSource s t.soundIntHandler.2 := by
  have step := soundIntHandler_cases same.adjust
  generalize t.soundIntHandler.2 = after at step
  cases step with
  | rampDown _ shutdown =>
    exact ⟨same.adjust, same.buffer, fun _ playing => absurd (playing.symm.trans shutdown) nofun⟩
  | rampedDown => exact ⟨same.adjust, same.buffer, fun busy => absurd rfl (of_decide_eq_true busy)⟩
  | stops => exact ⟨same.adjust, same.buffer, fun _ impossible => nomatch impossible⟩
  | _ => exact ⟨same.adjust, same.buffer, fun _ playing => same.bit8 busy playing⟩

/-- Up to the end of the playback the values are those at the indices that are read. -/
theorem loads_emitted (count : Nat) : ∀ t, SameSource s t →
    (∀ k < count, Busy (interrupts.repeated () t k)) →
    loads.emitted () t count = (interrupts.emitted () t count).map s.sampleAt := by
  induction count with
  | zero => exact fun t _ _ => rfl
  | succ count ih =>
    intro t same busy
    have now : Busy t := busy 0 (Nat.succ_pos count)
    have rest : ∀ k < count, Busy (interrupts.repeated () t.soundIntHandler.2 k) := by
      intro k inside
      have after := busy (k + 1) (by omega)
      rw [Machine.repeated_succ] at after
      exact after
    have later := ih t.soundIntHandler.2 (same.next now) rest
    have read : t.soundIntHandler.1.map t.sampleAt = t.soundIntHandler.1.map s.sampleAt := by
      by_cases shutdown : t.ui32Flags.shutdown = true
      · rw [soundIntHandler_fst_of_shutdown same.adjust shutdown, List.map_nil, List.map_nil]
      · rw [same.sampleAt now (Bool.not_eq_true _ ▸ shutdown)]
    rw [Machine.emitted_succ, Machine.emitted_succ, List.map_append]
    exact congrArg₂ (· ++ ·) read later

/-- From this state the handler loads these samples and no others, and then the driver
is idle. -/
def Loads (s : SoundState) (samples : List Int) : Prop :=
  ∃ count, loads.emitted () s count = samples ∧
    (interrupts.repeated () s count).soundBusy = false ∧
    ∀ k < count, Busy (interrupts.repeated () s k)

theorem Starting.loads_iff {n : Nat} (starting : Starting inc rounds n 0 s) (some_ : 0 < n)
    (small : n < 0x100000000) (samples : List Int) :
    Loads s samples ↔ samples = (List.range n).map s.sampleAt := by
  have source : SameSource s s := ⟨starting.adjust, rfl, fun _ _ => rfl⟩
  obtain ⟨count, _, indices, idle, busy⟩ := starting.plays some_ small
  have values := loads_emitted count s source busy
  rw [indices] at values
  constructor
  · rintro ⟨count', loaded, idle', busy'⟩
    have same : count' = count := by
      rcases Nat.lt_trichotomy count' count with early | same | late
      · exact absurd (idle'.symm.trans (busy count' early)) nofun
      · exact same
      · exact absurd (idle.symm.trans (busy' count late)) nofun
    rw [← loaded, same, values]
  · rintro rfl
    exact ⟨count, values, idle, busy⟩

theorem Starting.not_loads_nil (starting : Starting inc rounds length 0 s) : ¬ Loads s [] := by
  rintro ⟨count, nothing, idle, busy⟩
  obtain ⟨pauses, _, rfl⟩ := starting.rate.rounds_pos
  have first := firstSample_leads inc pauses length
  have none_ := length_loads_emitted count s
  rw [nothing] at none_
  rcases Nat.lt_or_ge count (936 + (pauses + 1)) with early | late
  · exact absurd (idle.symm.trans (first.stays starting count early)) nofun
  · obtain ⟨more, rfl⟩ := Nat.exists_eq_add_of_le late
    rw [Machine.emitted_add, first.emits starting] at none_
    cases none_

end SoundState

namespace Audio

def wavDataSize (buf : Bytes) : Nat := littleEndian buf 40 4

/-- A mono PCM file with the header of 44 bytes, followed by the data and, it may be, by
other chunks. -/
structure CanonicalWav (buf : Bytes) (len : Nat) : Prop where
  header : wavHeaderSize ≤ len
  small : len < 0x100000000
  riff : fourBytes buf 0 [0x52, 0x49, 0x46, 0x46] = true
  wave : fourBytes buf 8 [0x57, 0x41, 0x56, 0x45] = true
  fmt : fourBytes buf 12 [0x66, 0x6d, 0x74, 0x20] = true
  chunkSize : littleEndian buf 16 4 = 16
  format : littleEndian buf 20 2 = 1
  mono : wavNumChannels buf = 1
  rate : wavSampleRate buf ∈ supportedRates
  depth : wavBps buf = 8 ∨ wavBps buf = 16
  data : fourBytes buf 36 [0x64, 0x61, 0x74, 0x61] = true
  dataSize : wavDataSize buf ≤ len - wavHeaderSize

/-- A sample of the data: 8 bits are unsigned, 16 bits are signed. -/
def wavSample (buf : Bytes) (i : Nat) : Int :=
  if wavBps buf = 8 then ((buf (wavHeaderSize + i)).toNat - 128) * 256
  else (littleEndian buf (wavHeaderSize + 2 * i) 2 : Int).bmod 0x10000

def wavSamples (buf : Bytes) : List Int :=
  (List.range (wavDataSize buf / (wavBps buf / 8))).map (wavSample buf)

/-- What is expected of the playback of a WAV. -/
structure PlaysAsWav (a : Audio) (buf : Bytes) (len : Nat) : Prop where
  samples : (a.audioPlayWav buf len).2.sound.Loads (wavSamples buf)
  /-- A file of 16 bits with the same samples makes the same pulses as one of 8 bits. -/
  pulses : ∀ wide wideLen, CanonicalWav wide wideLen → wavBps buf = 8 → wavBps wide = 16 →
    wavSampleRate wide = wavSampleRate buf → wavSamples wide = wavSamples buf → ∀ count,
      (SoundState.interrupts.repeated () (a.audioPlayWav wide wideLen).2.sound count).pwmPulseWidth =
        (SoundState.interrupts.repeated () (a.audioPlayWav buf len).2.sound count).pwmPulseWidth

variable {a : Audio} {buf : Bytes} {len : Nat}

theorem CanonicalWav.supported (wav : CanonicalWav buf len) :
    (PlayRequest.playWav buf len).Supported :=
  ⟨wav.riff, wav.fmt, wav.mono, wav.depth, wav.rate⟩

/-- The samples that `SoundStart` is told of: all bytes behind the header. -/
def restSamples (buf : Bytes) (len : Nat) : Nat := (len - wavHeaderSize) / (wavBps buf / 8)

/-- How an idle driver starts a WAV. -/
theorem CanonicalWav.started (wav : CanonicalWav buf len) (tuned : a.Tuned)
    (idle : a.initialise.sound.ui32Flags = .zero) :
    ∃ inc rounds, (a.audioPlayWav buf len).2.sound.Starting inc rounds (restSamples buf len) 0 ∧
      (a.audioPlayWav buf len).2.sound.piBuffer = (fun i => buf (wavHeaderSize + i)) ∧
      (a.audioPlayWav buf len).2.sound.ui32Flags.bit8 = decide (wavBps buf = 8) := by
  have accepted : (a.audioPlayWav buf len).1 = .ok () :=
    PlayRequest.ok_of_supported idle wav.supported
  obtain ⟨played, same⟩ := audioPlayWav_accepted accepted
  obtain ⟨ready, period⟩ := tuned.initialise
  have length : (if wavBps buf = 16 then u32 (len - wavHeaderSize) / 2
      else u32 (len - wavHeaderSize)) = restSamples buf len := by
    rw [u32_wavLength wav.small wav.header, restSamples]
    rcases wav.depth with depth | depth <;> simp [depth]
  have depth : wavBps buf % 0x100 = wavBps buf := by
    rcases wav.depth with depth | depth <;> rw [depth]
  rw [same]
  have started : (a.wavPlay buf len).2.sound = (a.initialise.sound.soundStart
    (fun i => buf (wavHeaderSize + i)) _ (wavSampleRate buf) (wavBps buf % 0x100) _).2 := rfl
  change (a.initialise.sound.soundStart _ _ _ _ _).1 = true at played
  rw [length, depth] at started played
  obtain ⟨inc, rounds, starting⟩ := SoundState.soundStart_accepted period ready.adjust played
  rw [started]
  refine ⟨inc, rounds, starting, ?_⟩
  rw [SoundState.soundStart_snd played]
  exact ⟨rfl, rfl⟩

/-- An unsigned byte is never loaded as the sample that it stands for. -/
theorem signedByte_ne (byte : UInt8) :
    (byte.toNat : Int).bmod 0x100 * 0x100 ≠ (byte.toNat - 128) * 256 := by
  have small := byte.toNat_lt
  rw [Int.bmod_def]
  split <;> omega

section Samples

theorem length_wavSamples (buf : Bytes) :
    (wavSamples buf).length = wavDataSize buf / (wavBps buf / 8) := by
  rw [wavSamples, List.length_map, List.length_range]

variable {s : SoundState} (buffer : s.piBuffer = fun i => buf (wavHeaderSize + i))
  (bit8 : s.ui32Flags.bit8 = decide (wavBps buf = 8))

include buffer bit8

theorem sampleAt_wide (wide : wavBps buf = 16) : s.sampleAt = wavSample buf := by
  funext i
  simp [SoundState.sampleAt, wavSample, buffer, bit8, wide, littleEndian, Nat.add_assoc]

theorem sampleAt_narrow (narrow : wavBps buf = 8) (i : Nat) :
    s.sampleAt i ≠ wavSample buf i := by
  simp only [SoundState.sampleAt, wavSample, buffer, bit8, narrow, decide_true, if_true]
  exact signedByte_ne _

theorem wavSamples_ne_of_narrow (narrow : wavBps buf = 8) {n : Nat} (some_ : 0 < n) :
    wavSamples buf ≠ (List.range n).map s.sampleAt := by
  intro same
  have count := congrArg List.length same
  rw [length_wavSamples, List.length_map, List.length_range] at count
  have first := congrArg (fun samples => samples[0]?) same
  rw [wavSamples, count] at first
  simp only [List.getElem?_map, List.getElem?_range some_, Option.map_some,
    Option.some.injEq] at first
  exact sampleAt_narrow buffer bit8 narrow 0 first.symm

theorem wavSamples_eq_iff_of_wide (wide : wavBps buf = 16) (n : Nat) :
    wavSamples buf = (List.range n).map s.sampleAt ↔ wavDataSize buf / 2 = n := by
  rw [sampleAt_wide buffer bit8 wide]
  constructor
  · intro same
    have count := congrArg List.length same
    rw [length_wavSamples, wide, List.length_map, List.length_range] at count
    exact count
  · rintro rfl
    rw [wavSamples, wide]

end Samples

theorem CanonicalWav.restSamples_lt (wav : CanonicalWav buf len) :
    restSamples buf len < 0x100000000 := by
  have small := wav.small
  unfold restSamples
  exact Nat.lt_of_le_of_lt (Nat.div_le_self _ _) (by omega)

end Audio

/-- A canonical WAV is played as what it is exactly if it has 16 bits, some data, and
nothing behind the data that makes a sample. -/
theorem wav_playsAsWav_iff (acts : List AudioAct)
    (idle : (Audio.machine.after .powerUp acts).sound.soundBusy = false) (buf : Bytes)
    (len : Nat) (wav : Audio.CanonicalWav buf len) :
    Audio.PlaysAsWav (Audio.machine.after .powerUp acts) buf len ↔
      Audio.wavBps buf = 16 ∧ 0 < Audio.wavDataSize buf / 2 ∧
        Audio.wavDataSize buf / 2 = (len - Audio.wavHeaderSize) / 2 := by
  have tuned := Audio.tuned_after acts
  have fresh := Audio.fresh_after acts
  generalize Audio.machine.after .powerUp acts = a at *
  have zero : a.initialise.sound.ui32Flags = .zero := by
    rw [fresh.flags_initialise]
    exact not_not.mp (of_decide_eq_false idle)
  obtain ⟨inc, rounds, starting, buffer, bit8⟩ := wav.started tuned zero
  have fewer : Audio.wavDataSize buf / (Audio.wavBps buf / 8) ≤ Audio.restSamples buf len :=
    Nat.div_le_div_right wav.dataSize
  rcases Nat.eq_zero_or_pos (Audio.restSamples buf len) with none_ | some_
  · have nothing : Audio.wavSamples buf = [] :=
      List.length_eq_zero_iff.mp
        ((Audio.length_wavSamples buf).trans (Nat.le_zero.mp (none_ ▸ fewer)))
    rw [none_] at starting
    constructor
    · intro plays
      exact absurd (nothing ▸ plays.samples) starting.not_loads_nil
    · rintro ⟨wide, data, whole⟩
      simp only [Audio.restSamples, wide] at none_
      omega
  · have loads := starting.loads_iff some_ wav.restSamples_lt
    rcases wav.depth with narrow | wide
    · constructor
      · intro plays
        have same := (loads _).mp plays.samples
        exact absurd same (Audio.wavSamples_ne_of_narrow buffer bit8 narrow some_)
      · rintro ⟨wide, -⟩
        exact absurd (narrow.symm.trans wide) (by decide)
    · have samples := Audio.wavSamples_eq_iff_of_wide buffer bit8 wide (Audio.restSamples buf len)
      have whole : Audio.restSamples buf len = (len - Audio.wavHeaderSize) / 2 := by
        rw [Audio.restSamples, wide]
      constructor
      · intro plays
        have count := samples.mp ((loads _).mp plays.samples)
        exact ⟨wide, by omega, count.trans whole⟩
      · rintro ⟨-, -, same⟩
        refine ⟨(loads _).mpr (samples.mpr (same.trans whole.symm)), fun _ _ _ narrow => ?_⟩
        exact absurd (narrow.symm.trans wide) (by decide)

/-- A file of 8 kHz. -/
def wavOf (bps : UInt8) (data : List UInt8) : Bytes := fun i =>
  ([0x52, 0x49, 0x46, 0x46, 0, 0, 0, 0, 0x57, 0x41, 0x56, 0x45, 0x66, 0x6d, 0x74, 0x20, 16, 0, 0, 0,
    1, 0, 1, 0, 0x40, 0x1f, 0, 0, 0x40, 0x1f, 0, 0, 1, 0, bps, 0, 0x64, 0x61, 0x74, 0x61,
    .ofNat data.length, 0, 0, 0] ++ data).getD i 0

/-- One sample of 16 bits. -/
theorem wav_playsAsWav_iff_wide :
    Audio.PlaysAsWav (Audio.machine.after .powerUp []) (wavOf 16 [0x34, 0x12]) 46 :=
  (wav_playsAsWav_iff [] rfl (wavOf 16 [0x34, 0x12]) 46
    ⟨by decide, by decide, rfl, rfl, rfl, rfl, rfl, rfl, by decide, .inr rfl, rfl, by decide⟩).mpr
    ⟨rfl, by decide, by decide⟩

/-- One silent sample of 8 bits is played as the lowest sample. -/
theorem wav_playsAsWav_fails :
    ¬ ∀ acts : List AudioAct, (Audio.machine.after .powerUp acts).sound.soundBusy = false →
      ∀ (buf : Bytes) (len : Nat), Audio.CanonicalWav buf len →
        Audio.PlaysAsWav (Audio.machine.after .powerUp acts) buf len := by
  intro claim
  have wav : Audio.CanonicalWav (wavOf 8 [0x80]) 45 :=
    ⟨by decide, by decide, rfl, rfl, rfl, rfl, rfl, rfl, by decide, .inl rfl, rfl, by decide⟩
  have plays := claim [] rfl _ _ wav
  obtain ⟨inc, rounds, starting, buffer, bit8⟩ := wav.started Audio.tuned_powerUp rfl
  have same := (starting.loads_iff (by decide) wav.restSamples_lt _).mp plays.samples
  have first : Audio.wavSample (wavOf 8 [0x80]) 0 = _ := (List.cons.inj same).1
  exact Audio.sampleAt_narrow buffer bit8 rfl 0 first.symm

end TildaMk4.Sound
