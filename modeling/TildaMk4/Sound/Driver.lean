import TildaMk4.Lib.Transition
import TildaMk4.Lib.Words
import TildaMk4.Storage.Cache

/-!
# The sound driver

`sound.c`: the state of the driver, the PWM registers that it sets, and the
interrupt handler that ramps the output up, plays the buffer and ramps it down.
The handler also returns the sample indices that it reads from the buffer.
-/

namespace TildaMk4.Sound

open Storage Transition Words

/-- The value of a `uint32_t` that an integer is stored in. -/
def u32 (value : Int) : Nat := (value % 0x100000000).toNat

/-- The value of an `int32_t` that an integer is stored in. -/
def i32 (value : Int) : Int := value.bmod 0x100000000

/-- The bits of `ui32Flags`; the bit for 64 kHz is never set. -/
structure SoundFlags where
  startup : Bool
  shutdown : Bool
  play : Bool
  khz8 : Bool
  khz16 : Bool
  khz32 : Bool
  bit8 : Bool
  bit16 : Bool
  deriving DecidableEq

namespace SoundFlags

def zero : SoundFlags := ⟨false, false, false, false, false, false, false, false⟩

def onlyShutdown : SoundFlags := { zero with shutdown := true }

end SoundFlags

/-- The functions that are passed as `pfnCallback`. -/
inductive SoundCallback
  | soundHandler

/-- `tSoundState`, and what the driver has set in the PWM module. `piBuffer` is the
memory from the pointer on. -/
structure SoundState where
  ui32Period : Nat
  ui32Flags : SoundFlags
  piBuffer : Bytes
  ui32Length : Nat
  ui32Offset : Nat
  i32Volume : Int
  pi16Samples0 : Int
  pi16Samples1 : Int
  i32Step : Int
  i32RateAdjust : Int
  pfnCallback : Option SoundCallback
  pwmGenPeriod : Nat
  pwmPulseWidth : Nat
  pwmIntEnabled : Bool
  pwmGenEnabled : Bool

namespace SoundState

/-- The static initialisation. -/
def powerUp : SoundState where
  ui32Period := 0
  ui32Flags := .zero
  piBuffer := fun _ => 0
  ui32Length := 0
  ui32Offset := 0
  i32Volume := 0
  pi16Samples0 := 0
  pi16Samples1 := 0
  i32Step := 0
  i32RateAdjust := 0
  pfnCallback := none
  pwmGenPeriod := 0
  pwmPulseWidth := 0
  pwmIntEnabled := false
  pwmGenEnabled := false

variable (s : SoundState)

def soundBusy : Bool := s.ui32Flags ≠ .zero

/-- `SPWM_setup` enables the interrupt of the generator but not the generator. -/
def soundInit (ui32SysClock : Nat) : SoundState :=
  { s with
    ui32Period := ui32SysClock / 64000
    i32Volume := 255
    pwmIntEnabled := true
    ui32Flags := .zero }

def soundVolumeSet (i32Volume : Int) : SoundState := { s with i32Volume := i32Volume }

/-- The flag that `SoundStart` sets for the rate, if it knows the rate. -/
def setRateFlag (ui32Rate : Nat) : Option SoundState :=
  if ui32Rate = 8000 ∨ ui32Rate = 11025 then
    some { s with ui32Flags := { s.ui32Flags with khz8 := true } }
  else if ui32Rate = 16000 ∨ ui32Rate = 22050 then
    some { s with ui32Flags := { s.ui32Flags with khz16 := true } }
  else if ui32Rate = 32000 ∨ ui32Rate = 44100 then
    some { s with ui32Flags := { s.ui32Flags with khz32 := true } }
  else none

def periodTicks (ui32Rate : Nat) : Nat :=
  if ui32Rate = 8000 ∨ ui32Rate = 16000 ∨ ui32Rate = 32000 then 120000000 / 64000
  else 120000000 / 88200

def setDepthFlag (ui8Depth : Nat) : Option SoundState :=
  if ui8Depth = 8 then some { s with ui32Flags := { s.ui32Flags with bit8 := true } }
  else if ui8Depth = 16 then some { s with ui32Flags := { s.ui32Flags with bit16 := true } }
  else none

/-- The rest of `SoundStart` once the settings are accepted. -/
def startPlayback (piBuffer : Bytes) (ui32Length : Nat) (pfnCallback : Option SoundCallback) :
    SoundState :=
  { s with
    piBuffer := piBuffer
    ui32Length := ui32Length
    pfnCallback := pfnCallback
    ui32Offset := 0
    pi16Samples0 := 0
    pi16Samples1 := 0
    ui32Flags := { s.ui32Flags with startup := true, play := true }
    i32Step := 1
    pwmPulseWidth := 1
    pwmIntEnabled := true
    pwmGenEnabled := true }

def soundStart (piBuffer : Bytes) (ui32Length ui32Rate ui8Depth : Nat)
    (pfnCallback : Option SoundCallback) : Bool × SoundState :=
  if s.ui32Flags ≠ .zero then (false, s)
  else
    match s.setRateFlag ui32Rate with
    | none => (false, s)
    | some rated =>
      let timed := { rated with pwmGenPeriod := periodTicks ui32Rate }
      match timed.setDepthFlag ui8Depth with
      | none => (false, timed)
      | some deep => (true, deep.startPlayback piBuffer ui32Length pfnCallback)

def soundStop : SoundState :=
  if s.ui32Flags ≠ .zero ∧ s.ui32Flags.shutdown = false then
    { s with
      ui32Flags := .onlyShutdown
      i32Step := (s.ui32Period / 2 : Nat)
      pwmIntEnabled := true }
  else s

/-- The `if` at the start of `SoundIntHandler`. -/
def adjustRate : SoundState :=
  if s.i32RateAdjust ≠ 0 then
    { s with ui32Period := u32 (s.ui32Period + s.i32RateAdjust), i32RateAdjust := 0 }
  else s

def setPulseWidth (width : Int) : SoundState := { s with pwmPulseWidth := u32 width }

def setStep (step : Int) : SoundState := { s with i32Step := step }

/-- The branch for `SOUND_FLAG_STARTUP`. -/
def startupRamp : SoundState :=
  let stepped := (s.setStep (i32 (s.i32Step + 1))).setPulseWidth (i32 (s.i32Step + 1))
  if s.ui32Period / 2 ≤ u32 stepped.i32Step then
    { stepped with ui32Flags := { s.ui32Flags with startup := false }, i32Step := 0 }
  else stepped

/-- The branch for `SOUND_FLAG_SHUTDOWN`. -/
def shutdownRamp : SoundState :=
  if s.i32Step = 1 then
    { s with pwmIntEnabled := false, pwmGenEnabled := false, ui32Flags := .zero }
  else (s.setStep (i32 (s.i32Step - 1))).setPulseWidth (i32 (s.i32Step - 1))

/-- The pulse width of the sample between the previous and the current one. -/
def dutyCycle : Int :=
  let blend := (i32 (i32 (s.pi16Samples0 * i32 (8 - s.i32Step)) +
    i32 (s.pi16Samples1 * s.i32Step))).tdiv 8
  let level := i32 ((i32 (i32 (blend * s.i32Volume) * s.i32Volume)).tdiv 65536 + 32768)
  (u32 (s.ui32Period * u32 level) / 65536 : Nat)

/-- `i32Step` after the increment for the rate. -/
def nextStep : Int :=
  if s.ui32Flags.khz8 then (s.i32Step + 1) % 8
  else if s.ui32Flags.khz16 then (s.i32Step + 2) % 8
  else if s.ui32Flags.khz32 then (s.i32Step + 4) % 8
  else s.i32Step

/-- The sample at the current offset, as an `int16_t`. -/
def sampleAt (offset : Nat) : Int :=
  if s.ui32Flags.bit8 then ((s.piBuffer offset).toNat : Int).bmod 0x100 * 0x100
  else ((s.piBuffer (2 * offset)).toNat + 0x100 * (s.piBuffer (2 * offset + 1)).toNat : Int).bmod
    0x10000

def loadSample : SoundState :=
  { s with pi16Samples0 := s.pi16Samples1, pi16Samples1 := s.sampleAt s.ui32Offset }

/-- The offset after its increment, back at 0 at the end of the buffer. -/
def nextOffset : SoundState :=
  { s with
    ui32Offset :=
      if (s.ui32Offset + 1) % 0x100000000 = s.ui32Length then 0
      else (s.ui32Offset + 1) % 0x100000000 }

/-- `soundHandler` of `modaudio.c`, which is called with `half`. -/
def soundHandler (half : Bool) : SoundState := if half then s.soundStop else s

/-- The call of `pfnCallback` at the end and in the middle of the buffer. -/
def callback : SoundState :=
  match s.pfnCallback with
  | none => s
  | some .soundHandler =>
    if s.ui32Offset = 0 then s.soundHandler true
    else if s.ui32Offset = s.ui32Length / 2 then s.soundHandler false
    else s

/-- The part of the handler that plays. -/
def playStep : List Nat × SoundState :=
  let stepped := (s.setPulseWidth s.dutyCycle).setStep s.nextStep
  if s.nextStep = 0 then ([s.ui32Offset], stepped.loadSample.nextOffset.callback)
  else ([], stepped)

def soundIntHandler : List Nat × SoundState :=
  if s.adjustRate.ui32Flags.startup then ([], s.adjustRate.startupRamp)
  else if s.adjustRate.ui32Flags.shutdown then ([], s.adjustRate.shutdownRamp)
  else s.adjustRate.playStep

/-- One interrupt after the other. -/
def interrupts : Machine SoundState Unit (List Nat) where
  perform s _ := s.soundIntHandler

end SoundState

/-- What the functions of `modaudio.c` raise. -/
inductive Exn
  | typeError (message : String)
  | overflowError
  deriving DecidableEq

/-- The static variables of `modaudio.c`, over the driver. -/
structure Audio where
  init : Bool
  curVolume : Nat
  sound : SoundState

namespace Audio

def powerUp : Audio := ⟨false, 128, .powerUp⟩

variable (a : Audio)

def initialise : Audio :=
  if a.init then a else { a with sound := a.sound.soundInit 120000000, init := true }

/-- `play`; `bps` is passed on as a `uint8_t`. -/
def play (buf : Bytes) (len fsHz bps : Nat) : Bool × Audio :=
  let started := a.initialise.sound.soundStart buf (if bps = 16 then len / 2 else len) fsHz
    (bps % 0x100) (some .soundHandler)
  (started.1, { a.initialise with sound := started.2 })

def typeErrorSettings : String := "Input settings are not supported."

def typeErrorNotWav : String := "Input is not a WAV buffer"

def typeErrorFormat : String := "Input must be mono and 8 or 16 bps"

/-- A call raises if `SoundStart` returns false. -/
def answered (started : Bool × Audio) : Except Exn Unit × Audio :=
  (if started.1 then .ok () else .error (.typeError typeErrorSettings), started.2)

/-- `audio_play` up to the wait, for `len` bytes at `buf`. An integer that is no machine
word raises in `mp_arg_parse_all`, before anything is done. -/
def audioPlay (buf : Bytes) (len : Nat) (sampleRate sampleDepth : Int) : Except Exn Unit × Audio :=
  match word? sampleRate, word? sampleDepth with
  | some rate, some depth => answered (a.play buf len (u32 rate.toInt) (u32 depth.toInt))
  | _, _ => (.error .overflowError, a)

/-- The little-endian number in `size` bytes at `at_`. -/
def littleEndian (buf : Bytes) (at_ : Nat) : Nat → Nat
  | 0 => 0
  | size + 1 => (buf at_).toNat + 0x100 * littleEndian buf (at_ + 1) size

/-- `memcmp(buf + at_, text, 4) == 0`. -/
def fourBytes (buf : Bytes) (at_ : Nat) (text : List UInt8) : Bool :=
  (List.range 4).map (fun i => buf (at_ + i)) = text

/-- `sizeof(wav_header)`. -/
def wavHeaderSize : Nat := 44

def wavNumChannels (buf : Bytes) : Nat := littleEndian buf 22 2

def wavSampleRate (buf : Bytes) : Nat := littleEndian buf 24 4

def wavBps (buf : Bytes) : Nat := littleEndian buf 34 2

/-- The part of the buffer that `audio_play_wav` passes on. -/
def wavPlay (buf : Bytes) (len : Nat) : Bool × Audio :=
  a.play (fun i => buf (wavHeaderSize + i)) (u32 (len - wavHeaderSize)) (wavSampleRate buf)
    (wavBps buf)

/-- `audio_play_wav` up to the wait. The header is read whatever `len` is. -/
def audioPlayWav (buf : Bytes) (len : Nat) : Except Exn Unit × Audio :=
  if !fourBytes buf 0 [0x52, 0x49, 0x46, 0x46] || !fourBytes buf 12 [0x66, 0x6d, 0x74, 0x20] then
    (.error (.typeError typeErrorNotWav), a)
  else if wavNumChannels buf ≠ 1 ∨ ¬ (wavBps buf = 8 ∨ wavBps buf = 16) then
    (.error (.typeError typeErrorFormat), a)
  else answered (a.wavPlay buf len)

/-- `SoundVolumeSet(volume); cur_volume = volume`. -/
def setVolume (volume : Int) : Audio :=
  { a with sound := a.sound.soundVolumeSet volume, curVolume := volume.toNat }

/-- `audio_volume` with an argument. -/
def audioVolume (volume : Int) : Except Exn Unit × Audio :=
  match word? volume with
  | some word => (.ok (), a.setVolume (min (max word.toInt 0) 255))
  | none => (.error .overflowError, a)

/-- `SoundIntHandler`, called while the interrupt and its generator are enabled. -/
def interrupt : Audio :=
  if a.sound.pwmIntEnabled && a.sound.pwmGenEnabled then
    { a with sound := a.sound.soundIntHandler.2 }
  else a

end Audio

inductive AudioAct
  | play (buf : Bytes) (len : Nat) (sampleRate sampleDepth : Int)
  | playWav (buf : Bytes) (len : Nat)
  | volume (volume : Int)
  | interrupt

namespace Audio

def perform (a : Audio) : AudioAct → Except Exn Unit × Audio
  | .play buf len sampleRate sampleDepth => a.audioPlay buf len sampleRate sampleDepth
  | .playWav buf len => a.audioPlayWav buf len
  | .volume volume => a.audioVolume volume
  | .interrupt => (.ok (), a.interrupt)

def machine : Machine Audio AudioAct (Except Exn Unit) where
  perform := Audio.perform

section Cases

variable {a : Audio} {P : Except Exn Unit × Audio → Prop}

/-- A call of `audio.play` raises before anything is done, or gets as far as `play`. -/
theorem audioPlay_cases (buf : Bytes) (len : Nat) {sampleRate sampleDepth : Int}
    (overflow : P (.error .overflowError, a))
    (played : P (answered (a.play buf len (u32 sampleRate) (u32 sampleDepth)))) :
    P (a.audioPlay buf len sampleRate sampleDepth) := by
  unfold audioPlay
  split
  next rate depth =>
    rw [word?_eq_some.mp rate, word?_eq_some.mp depth]
    exact played
  next => exact overflow

/-- Machine words get as far as `play`. -/
theorem audioPlay_of_words (buf : Bytes) (len : Nat) {sampleRate sampleDepth : Int}
    (rate : (word? sampleRate).isSome = true) (depth : (word? sampleDepth).isSome = true) :
    a.audioPlay buf len sampleRate sampleDepth =
      answered (a.play buf len (u32 sampleRate) (u32 sampleDepth)) := by
  obtain ⟨rate, rate_⟩ := Option.isSome_iff_exists.mp rate
  obtain ⟨depth, depth_⟩ := Option.isSome_iff_exists.mp depth
  unfold audioPlay
  rw [rate_, depth_, ← word?_eq_some.mp rate_, ← word?_eq_some.mp depth_]

theorem audioPlayWav_cases (buf : Bytes) (len : Nat)
    (notWav : P (.error (.typeError typeErrorNotWav), a))
    (format : P (.error (.typeError typeErrorFormat), a))
    (played : P (answered (a.wavPlay buf len))) : P (a.audioPlayWav buf len) := by
  unfold audioPlayWav
  split_ifs
  · exact notWav
  · exact format
  · exact played

theorem audioVolume_cases {volume : Int} (overflow : P (.error .overflowError, a))
    (set : P (.ok (), a.setVolume (min (max volume 0) 255))) : P (a.audioVolume volume) := by
  unfold audioVolume
  split
  next word =>
    rw [word?_eq_some.mp word]
    exact set
  next => exact overflow

/-- What `play`, a volume in range and the interrupt keep, every call keeps. -/
theorem perform_keep {Inv : Audio → Prop} (held : Inv a)
    (play : ∀ buf len fsHz bps, Inv (a.play buf len fsHz bps).2)
    (volume : ∀ volume : Int, 0 ≤ volume → volume ≤ 255 → Inv (a.setVolume volume))
    (interrupt : Inv a.interrupt) (act : AudioAct) : Inv (a.perform act).2 := by
  cases act with
  | play buf len sampleRate sampleDepth =>
    exact audioPlay_cases (P := fun result => Inv result.2) buf len held (play ..)
  | playWav buf len =>
    exact audioPlayWav_cases (P := fun result => Inv result.2) buf len held held (play ..)
  | volume value =>
    refine audioVolume_cases (P := fun result => Inv result.2) held ?_
    exact volume _ (by omega) (by omega)
  | interrupt => exact interrupt

theorem answered_ok {started : Bool × Audio} :
    (answered started).1 = .ok () ↔ started.1 = true := by
  unfold answered
  cases started.1 <;> simp

theorem answered_error {started : Bool × Audio} {exn : Exn} :
    (answered started).1 = .error exn ↔ started.1 = false ∧ exn = .typeError typeErrorSettings := by
  unfold answered
  cases started.1 <;> simp [eq_comm]

end Cases

end Audio

end TildaMk4.Sound
