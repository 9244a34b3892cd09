import TildaMk4.Sound.Refusal

/-!
# The volume

`audio.volume` reports `cur_volume` of `modaudio.c`, and the interrupt scales by
`i32Volume` of the driver. Both are set by `audio.volume`; the driver's is set once more
by `SoundInit`, in the first call that plays.
-/

namespace TildaMk4.Sound.Volume

open Storage Transition Words

/-- The calls with any integers, and the interrupt while they wait and in between. -/
inductive Act
  | play (buf : Bytes) (len : Nat) (sampleRate sampleDepth : Int)
  | playWav (buf : Bytes) (len : Nat)
  | volume (value : Option Int)
  | interrupt

inductive Answer
  | none
  | int (value : Int)
  | raised (exn : Exn)
  deriving DecidableEq

section Perform

variable (a : Audio)

/-- `answer` if nothing was raised. -/
def answered (answer : Answer) (result : Except Exn Unit × Audio) : Answer × Audio :=
  (match result.1 with
    | .ok () => answer
    | .error exn => .raised exn, result.2)

def perform : Act → Answer × Audio
  | .play buf len sampleRate sampleDepth =>
    answered .none (a.audioPlay buf len sampleRate sampleDepth)
  | .playWav buf len => answered .none (a.audioPlayWav buf len)
  | .volume (some value) => answered (.int value) (a.audioVolume value)
  | .volume none => (.int a.curVolume, a)
  | .interrupt => (.none, a.interrupt)

end Perform

def machine : Machine Audio Act Answer where
  perform := perform

/-- Once the driver is initialised, `audio.volume()` reports the volume of the driver. -/
def InForce (a : Audio) : Prop :=
  a.init = true → (perform a (.volume none)).1 = .int a.sound.i32Volume ∧
    0 ≤ a.sound.i32Volume ∧ a.sound.i32Volume ≤ 255

instance (a : Audio) : Decidable (InForce a) := inferInstanceAs (Decidable (_ → _))

/-- It is so after a call. -/
def LeavesInForce (a : Audio) (act : Act) : Prop := InForce (perform a act).2

/-- The header is one that `audio_play_wav` accepts. -/
def WavAccepted (buf : Bytes) : Prop :=
  Audio.fourBytes buf 0 [0x52, 0x49, 0x46, 0x46] = true ∧
    Audio.fourBytes buf 12 [0x66, 0x6d, 0x74, 0x20] = true ∧
    Audio.wavNumChannels buf = 1 ∧ (Audio.wavBps buf = 8 ∨ Audio.wavBps buf = 16)

instance (buf : Bytes) : Decidable (WavAccepted buf) := inferInstanceAs (Decidable (_ ∧ _))

/-! ## The two copies -/

/-- What the calls make of the two copies of the volume. -/
structure Volumes where
  init : Bool
  current : Int
  driver : Int
  deriving DecidableEq

inductive Change
  | set (volume : Int)
  | start
  | nothing
  deriving DecidableEq

def Volumes.apply (v : Volumes) : Change → Volumes
  | .set volume => { v with current := volume, driver := volume }
  | .start => if v.init then v else { v with init := true, driver := 255 }
  | .nothing => v

def volumes (a : Audio) : Volumes := ⟨a.init, a.curVolume, a.sound.i32Volume⟩

/-- A call that gets as far as `play` starts the driver, whatever `SoundStart` says. -/
def Act.change : Act → Change
  | .play _ _ sampleRate sampleDepth =>
    if (word? sampleRate).isSome && (word? sampleDepth).isSome then .start else .nothing
  | .playWav buf _ => if WavAccepted buf then .start else .nothing
  | .volume (some value) =>
    if (word? value).isSome then .set (min (max value 0) 255) else .nothing
  | .volume none | .interrupt => .nothing

/-- The driver is not started while the volume that was set is another than its default. -/
def Admits (a : Audio) (act : Act) : Prop :=
  a.init = false → act.change = .start → a.curVolume = 255

instance (a : Audio) (act : Act) : Decidable (Admits a act) :=
  inferInstanceAs (Decidable (_ → _ → _))

section Frame

variable (s : SoundState)

theorem i32Volume_soundStop : s.soundStop.i32Volume = s.i32Volume := by
  unfold SoundState.soundStop
  split <;> rfl

theorem i32Volume_callback : s.callback.i32Volume = s.i32Volume := by
  rcases s.callback_cases with same | stopped
  · rw [same]
  · rw [stopped, i32Volume_soundStop]

theorem i32Volume_adjustRate : s.adjustRate.i32Volume = s.i32Volume := by
  unfold SoundState.adjustRate
  split <;> rfl

theorem i32Volume_playStep : s.playStep.2.i32Volume = s.i32Volume := by
  unfold SoundState.playStep
  dsimp only
  split
  next => exact i32Volume_callback _
  next => rfl

/-- The handler reads the volume and leaves it as it is. -/
theorem i32Volume_soundIntHandler : s.soundIntHandler.2.i32Volume = s.i32Volume := by
  have adjusted := i32Volume_adjustRate s
  unfold SoundState.soundIntHandler
  split
  next =>
    rw [← adjusted]
    unfold SoundState.startupRamp
    dsimp only
    split <;> rfl
  next =>
    split
    next =>
      rw [← adjusted]
      unfold SoundState.shutdownRamp
      split <;> rfl
    next => exact (i32Volume_playStep _).trans adjusted

theorem i32Volume_soundStart (buf : Bytes) (length rate depth : Nat)
    (callback : Option SoundCallback) :
    (s.soundStart buf length rate depth callback).2.i32Volume = s.i32Volume := by
  have way := SoundState.soundStart_cases s buf length rate depth callback
  generalize s.soundStart buf length rate depth callback = result at way ⊢
  obtain ⟨started, after⟩ := result
  cases way <;> rfl

end Frame

section Perform

variable (a : Audio)

theorem volumes_play (buf : Bytes) (len fsHz bps : Nat) :
    volumes (a.play buf len fsHz bps).2 = (volumes a).apply .start := by
  have kept := i32Volume_soundStart a.initialise.sound buf (if bps = 16 then len / 2 else len) fsHz
    (bps % 0x100) (some .soundHandler)
  unfold volumes Audio.play
  dsimp only
  rw [kept]
  unfold Audio.initialise Volumes.apply
  cases ready : a.init with
  | true => simp [ready]
  | false => rfl

theorem volumes_audioPlayWav (buf : Bytes) (len : Nat) :
    volumes (a.audioPlayWav buf len).2 =
      (volumes a).apply (if WavAccepted buf then .start else .nothing) := by
  unfold Audio.audioPlayWav
  split
  next notWav =>
    have refused : ¬WavAccepted buf := fun accepted => by
      simp [accepted.1, accepted.2.1] at notWav
    rw [if_neg refused]
    rfl
  next wav =>
    split
    next format =>
      have refused : ¬WavAccepted buf := fun accepted =>
        format.elim (fun channels => channels accepted.2.2.1) fun depth => depth accepted.2.2.2
      rw [if_neg refused]
      rfl
    next mono =>
      have accepted : WavAccepted buf := by
        obtain ⟨channels, depth⟩ := not_or.mp mono
        simp only [Bool.or_eq_true, Bool.not_eq_true', not_or, Bool.not_eq_false] at wav
        exact ⟨wav.1, wav.2, not_not.mp channels, not_not.mp depth⟩
      rw [if_pos accepted]
      exact volumes_play ..

theorem volumes_audioPlay (buf : Bytes) (len : Nat) (sampleRate sampleDepth : Int) :
    volumes (a.audioPlay buf len sampleRate sampleDepth).2 = (volumes a).apply
      (if (word? sampleRate).isSome && (word? sampleDepth).isSome then .start else .nothing) := by
  split
  next words =>
    obtain ⟨rate, depth⟩ := Bool.and_eq_true_iff.mp words
    rw [Audio.audioPlay_of_words buf len rate depth]
    exact volumes_play ..
  next large =>
    unfold Audio.audioPlay
    split
    next rate depth =>
      rw [rate, depth] at large
      exact absurd rfl large
    next => rfl

theorem volumes_audioVolume (value : Int) : volumes (a.audioVolume value).2 =
    (volumes a).apply (if (word? value).isSome then .set (min (max value 0) 255) else .nothing) := by
  unfold Audio.audioVolume
  split
  next volume word =>
    have low : 0 ≤ min (max value 0) 255 := by omega
    rw [word]
    simp only [volumes, Audio.setVolume, SoundState.soundVolumeSet, word?_eq_some.mp word,
      Int.toNat_of_nonneg low, Volumes.apply, Option.isSome_some, if_true]
  next refused =>
    rw [refused]
    rfl

theorem volumes_interrupt : volumes a.interrupt = volumes a := by
  unfold Audio.interrupt
  split
  next => simp only [volumes, i32Volume_soundIntHandler]
  next => rfl

/-- On the two copies a call does no more than its change. -/
theorem volumes_perform (act : Act) :
    volumes (perform a act).2 = (volumes a).apply act.change := by
  cases act with
  | play buf len sampleRate sampleDepth => exact volumes_audioPlay ..
  | playWav buf len => exact volumes_audioPlayWav ..
  | volume value =>
    cases value with
    | none => rfl
    | some value => exact volumes_audioVolume ..
  | interrupt => exact volumes_interrupt a

end Perform

/-- The reported volume is in range, and that of the driver once there is one. -/
structure Inv (v : Volumes) : Prop where
  low : 0 ≤ v.current
  high : v.current ≤ 255
  agree : v.init = true → v.current = v.driver

theorem change_range {act : Act} {volume : Int} (set : act.change = .set volume) :
    0 ≤ volume ∧ volume ≤ 255 := by
  cases act with
  | play | playWav =>
    simp only [Act.change] at set
    split at set <;> cases set
  | volume value =>
    cases value with
    | none => cases set
    | some value =>
      simp only [Act.change] at set
      split at set <;> cases set
      omega
  | interrupt => cases set

/-- Only a start can part the two copies. -/
theorem Inv.apply_iff {v : Volumes} (inv : Inv v) (act : Act) :
    Inv (v.apply act.change) ↔ (v.init = false → act.change = .start → v.current = 255) := by
  obtain ⟨low, high, agree⟩ := inv
  cases change : act.change with
  | set volume =>
    obtain ⟨low, high⟩ := change_range change
    exact iff_of_true ⟨low, high, fun _ => rfl⟩ fun _ other => nomatch other
  | start =>
    unfold Volumes.apply
    cases ready : v.init with
    | true =>
      rw [if_pos rfl]
      exact iff_of_true ⟨low, high, agree⟩ nofun
    | false =>
      rw [if_neg Bool.false_ne_true]
      exact ⟨fun inv _ _ => inv.agree rfl, fun default => ⟨low, high, fun _ => default rfl rfl⟩⟩
  | nothing => exact iff_of_true ⟨low, high, agree⟩ fun _ other => nomatch other

theorem inForce_iff {a : Audio} (high : (a.curVolume : Int) ≤ 255) : InForce a ↔ Inv (volumes a) := by
  simp only [InForce, perform, Answer.int.injEq]
  constructor
  · exact fun inForce => ⟨Int.natCast_nonneg _, high, fun ready => (inForce ready).1⟩
  · intro inv ready
    have same : (a.curVolume : Int) = a.sound.i32Volume := inv.agree ready
    omega

theorem current_le (a : Audio) (act : Act) (inv : Inv (volumes a)) :
    ((perform a act).2.curVolume : Int) ≤ 255 := by
  change (volumes (perform a act).2).current ≤ 255
  rw [volumes_perform]
  cases change : act.change with
  | set volume => exact (change_range change).2
  | start =>
    simp only [Volumes.apply]
    split <;> exact inv.high
  | nothing => exact inv.high

theorem admits_iff (a : Audio) (act : Act) : Admits a act ↔
    ((volumes a).init = false → act.change = .start → (volumes a).current = 255) := by
  have same : (volumes a).current = 255 ↔ a.curVolume = 255 := by
    simp only [volumes]
    omega
  rw [same]
  exact Iff.rfl

theorem inForce_perform_iff {a : Audio} (inv : Inv (volumes a)) (act : Act) :
    InForce (perform a act).2 ↔ Admits a act := by
  rw [inForce_iff (current_le a act inv), volumes_perform, inv.apply_iff, admits_iff]

/-- From power-up on the reported volume is the one in force after every call, exactly if no
call starts the driver while another volume than its default is set. -/
theorem volume_inForce_iff (acts : List Act) :
    machine.EachStep LeavesInForce .powerUp acts ↔ machine.EachStep Admits .powerUp acts := by
  refine Machine.eachStep_iff_of_keep machine (fun a => Inv (volumes a)) ?_ ?_ acts
    ⟨by decide, by decide, nofun⟩
  · intro a act inv admitted
    change Inv (volumes (perform a act).2)
    rw [volumes_perform]
    exact (inv.apply_iff act).mpr ((admits_iff a act).mp admitted)
  · exact fun act inv => inForce_perform_iff inv act

/-- A volume of 100 is set and a sound is played: it is reported still, and 255 is in force. -/
theorem volume_reset_by_play : ¬machine.EachStep LeavesInForce .powerUp
    [.volume (some 100), .play (fun _ => 0) 2 16000 16] := by
  rintro ⟨_, playing, _⟩
  have reset : ¬InForce (perform (perform .powerUp (.volume (some 100))).2
    (.play (fun _ => 0) 2 16000 16)).2 := by decide
  exact reset playing

end TildaMk4.Sound.Volume
