import TildaMk4.Reset.Statements
import TildaMk4.Sound.Refusal

/-!
# What a soft reset leaves behind

Of what may use something of the run before, only three parties need watching: the
callback of a button on a pin and the tilda thread, which `machine_teardown` leaves
enabled, and the interrupt of the sound driver, which no one stops. And a callback that
is registered for no button or for no pin is not cleared.
-/

namespace TildaMk4.Reset

open Buttons Program Sound Transition

variable {Obj : Type}

/-! ## The sound that is played -/

/-- The generator runs, and the ramp down has not begun. -/
def Sounding (s : SoundState) : Prop := s.pwmGenEnabled = true ∧ s.ui32Flags.shutdown = false

/-- No interrupt starts a sound. -/
theorem Sounding.of_soundIntHandler {s : SoundState} (adjust : s.i32RateAdjust = 0)
    (sounding : Sounding s.soundIntHandler.2) : Sounding s := by
  have step := SoundState.soundIntHandler_cases adjust
  generalize s.soundIntHandler.2 = t at step sounding
  cases step with
  | rampUp | rampedUp | rampDown | between | reads => exact sounding
  | rampedDown => nomatch sounding.1
  | stops => nomatch sounding.2

/-- A sample is taken of a sound that is played. -/
theorem sounding_of_reads {s : SoundState} (adjust : s.i32RateAdjust = 0)
    (running : s.pwmGenEnabled = true) (reads : s.soundIntHandler.1 ≠ []) : Sounding s := by
  refine ⟨running, Bool.eq_false_iff.mpr fun shutdown => reads ?_⟩
  rw [SoundState.soundIntHandler, SoundState.adjustRate_of_zero adjust]
  split <;> rfl

/-- A sound that plays after `play` was played before, or has been accepted. -/
theorem sounding_play {a : Audio} (fresh : a.Fresh) (buf : Storage.Bytes) (len fsHz bps : Nat)
    (sounding : Sounding (a.play buf len fsHz bps).2.sound) :
    Sounding a.sound ∨ (a.play buf len fsHz bps).1 = true := by
  have initialised (running : a.initialise.sound.pwmGenEnabled = true)
      (shutdown : a.initialise.sound.ui32Flags.shutdown = false) : Sounding a.sound := by
    rw [fresh.flags_initialise] at shutdown
    refine ⟨?_, shutdown⟩
    unfold Audio.initialise at running
    split at running <;> exact running
  have way := SoundState.soundStart_cases a.initialise.sound buf
    (if bps = 16 then len / 2 else len) fsHz (bps % 0x100) (some .soundHandler)
  unfold Audio.play at sounding ⊢
  dsimp only at sounding ⊢
  generalize a.initialise.sound.soundStart buf (if bps = 16 then len / 2 else len) fsHz
    (bps % 0x100) (some .soundHandler) = started at way sounding ⊢
  obtain ⟨started, after⟩ := started
  cases way with
  | busy => exact .inl (initialised sounding.1 sounding.2)
  | badRate => exact .inl (initialised sounding.1 sounding.2)
  | badDepth idle => exact .inl (initialised sounding.1 (congrArg SoundFlags.shutdown idle))
  | accepted => exact .inr rfl

theorem sounding_audioPlay {a : Audio} (fresh : a.Fresh) (buf : Storage.Bytes) (len : Nat)
    (sampleRate sampleDepth : Int)
    (sounding : Sounding (a.audioPlay buf len sampleRate sampleDepth).2.sound) :
    Sounding a.sound ∨ (a.audioPlay buf len sampleRate sampleDepth).1 = .ok () := by
  revert sounding
  refine Audio.audioPlay_cases
    (P := fun result => Sounding result.2.sound → Sounding a.sound ∨ result.1 = .ok ()) buf len
    .inl fun sounding => ?_
  exact (sounding_play fresh _ _ _ _ sounding).imp_right Audio.answered_ok.mpr

theorem sounding_audioPlayWav {a : Audio} (fresh : a.Fresh) (buf : Storage.Bytes) (len : Nat)
    (sounding : Sounding (a.audioPlayWav buf len).2.sound) :
    Sounding a.sound ∨ (a.audioPlayWav buf len).1 = .ok () := by
  revert sounding
  refine Audio.audioPlayWav_cases
    (P := fun result => Sounding result.2.sound → Sounding a.sound ∨ result.1 = .ok ()) buf len
    .inl .inl fun sounding => ?_
  exact (sounding_play fresh _ _ _ _ sounding).imp_right Audio.answered_ok.mpr

/-- A sound that is played is one of the present run. -/
structure Heard (audio : Audio) (handedIn run : Nat) : Prop where
  tuned : audio.Tuned
  fresh : audio.Fresh
  owned : Sounding audio.sound → handedIn = run

theorem Heard.perform {audio : Audio} {handedIn run : Nat} (heard : Heard audio handedIn run)
    (act : AudioAct) (kept : Sounding (audio.perform act).2.sound → Sounding audio.sound) :
    Heard (audio.perform act).2 handedIn run :=
  ⟨heard.tuned.perform act, heard.fresh.perform act, fun sounding => heard.owned (kept sounding)⟩

theorem Heard.volume {audio : Audio} {handedIn run : Nat} (heard : Heard audio handedIn run)
    (volume : Int) : Heard (audio.audioVolume volume).2 handedIn run :=
  heard.perform (.volume volume) <| Audio.audioVolume_cases
    (P := fun result => Sounding result.2.sound → Sounding audio.sound) id id

theorem Heard.interrupt {audio : Audio} {handedIn run : Nat} (heard : Heard audio handedIn run) :
    Heard audio.interrupt handedIn run := by
  refine heard.perform .interrupt ?_
  change Sounding audio.interrupt.sound → _
  unfold Audio.interrupt
  split
  next => exact Sounding.of_soundIntHandler heard.tuned.adjust
  next => exact id

namespace State

/-- The steps that may use what is there: no interrupt of a button's pin and no wake-up
by the tilda thread while the semaphore is deleted, no callback of a button from the
sweep until it is cleared, no callback registered for what is no button or no pin of the
board, and no end of a run while a sound is played. -/
def Admits (s : State Obj) : Act Obj → Prop
  | .gpioInterrupt pin => (s.port.gpio pin).callback = some .tildaGpioCallback →
      ¬SemaphoreDeleted s.todo ∧ ¬Uncleared s.port s.todo (pin + joyCenter)
  | .thread _ =>
    match s.thread.pc with
    | .schedulePress button | .scheduleRelease button => ¬Uncleared s.port s.todo button
    | .wake => s.thread.scheduled = true → ¬SemaphoreDeleted s.todo
    | .pend | .check _ | .onPress _ | .onRelease _ => True
  | .enableInterrupt button .. => ∀ id, buttonId button = some id → id.toNat < buttonsMax
  | .irq id _ => ∀ pin, pinId id = some pin → pin.toNat < gpioCount
  | .softReset => ¬Sounding s.audio.sound
  | .statement | .disableInterrupt _ | .play .. | .playWav .. | .volume _
  | .tcaInterrupt | .pwmInterrupt => True

/-- What holds of `mp_main` at its next statement, and of the sound. -/
structure Inv (s : State Obj) : Prop where
  main : Throughout Port.exec Current Port.Settled s.todo s.port
  heard : Heard s.audio s.handedIn s.port.run

theorem Inv.current {s : State Obj} (inv : s.Inv) : Current s.port s.todo :=
  inv.main.here fun settled => settled.current ⟨List.not_mem_nil, fun _ => List.not_mem_nil⟩

theorem boardPin_callback (pin : Nat) : (boardPin pin).callback ≠ some .gpioCallback ∧
    (boardPin pin).callback ≠ some .tildaGpioCallback := by
  dsimp only [boardPin]
  split_ifs <;> exact ⟨by decide, by decide⟩

theorem inv_boot (buttonState : UInt16) : (boot buttonState : State Obj).Inv := by
  have swept : (boot buttonState : State Obj).port.Swept (List.range buttonsMax) :=
    ⟨rfl, fun word run obj => nofun, fun pin => (boardPin_callback pin).1,
      fun pin joystick => absurd joystick (boardPin_callback pin).2,
      fun button _ ⟨run, obj, same⟩ => nomatch same⟩
  exact ⟨swept.softReset rfl, Audio.tuned_powerUp, fun _ => ⟨rfl, rfl⟩, fun _ => rfl⟩

theorem run_exec (statement : Statement Obj) (p : Port Obj) : (p.exec statement).run = p.run := by
  cases statement with
  | disableIntInUse pin => rw [Port.exec]; split <;> rfl
  | clearCallbackInUse pin => rw [Port.exec]; split <;> rfl
  | _ => rfl

section Keeping

variable {s s' : State Obj} {emitted : Option (List (Use Obj))}

theorem script_cases {next : State Obj} (stepped : s.script next = some (s', emitted)) :
    s.todo = [] ∧ s' = next ∧ emitted = some [] := by
  unfold script at stepped
  split at stepped
  next empty =>
    cases stepped
    exact ⟨List.isEmpty_iff.mp empty, rfl, rfl⟩
  next => nomatch stepped

theorem Inv.settled (inv : s.Inv) (idle : s.todo = []) : s.port.Settled := by
  have held := inv.main
  rwa [idle] at held

/-- A call of a script whose statements keep what is settled. -/
theorem Inv.call (inv : s.Inv) {program : List (Statement Obj)} (idle : s.todo = [])
    (keeps : s.port.Settled → Throughout Port.exec Current Port.Settled program s.port) :
    Inv { s with todo := program } :=
  ⟨keeps (inv.settled idle), inv.heard⟩

theorem Inv.played (inv : s.Inv) (act : AudioAct)
    (kept : Sounding (s.audio.perform act).2.sound →
      Sounding s.audio.sound ∨ (s.audio.perform act).1 = .ok ()) :
    (s.played (s.audio.perform act)).Inv := by
  have tuned := inv.heard.tuned.perform act
  have fresh := inv.heard.fresh.perform act
  refine ⟨inv.main, tuned, fresh, fun sounding => ?_⟩
  rcases kept sounding with before | accepted
  · have owned := inv.heard.owned before
    unfold State.played
    dsimp only
    split
    next => rfl
    next => exact owned
  · unfold State.played
    rw [accepted]

/-- What a call registers for a button is settled again once the call is over. -/
theorem Inv.enableInterrupt (inv : s.Inv) (idle : s.todo = []) {button : Int}
    (known : ∀ id, buttonId button = some id → id.toNat < buttonsMax) (interrupt : Option Obj)
    (onPress onRelease : Bool) : (s.enableInterrupt button interrupt onPress onRelease).Inv := by
  unfold State.enableInterrupt
  split
  next id same =>
    exact inv.call idle fun settled =>
      settled.registerButtonCallback (known id same) interrupt onPress onRelease
  next => exact inv

/-- The same for a pin. -/
theorem Inv.irq (inv : s.Inv) (idle : s.todo = []) {id : Int}
    (known : ∀ pin, pinId id = some pin → pin.toNat < gpioCount) (handler : Option Obj) :
    (s.irq id handler).Inv := by
  unfold State.irq
  split
  next pin same =>
    have inside : pin.toNat < numPins := (known pin same).trans (by decide)
    exact inv.call idle fun settled => settled.machinePinIrq inside handler
  next => exact inv

/-- A run that ends in silence. -/
theorem Inv.softReset (inv : s.Inv) (idle : s.todo = []) (silent : ¬Sounding s.audio.sound) :
    Inv { s with port := { s.port with run := s.port.run + 1 }, todo := softResetExit } :=
  ⟨(inv.settled idle).softResetExit, inv.heard.tuned, inv.heard.fresh, fun sounding =>
    absurd sounding silent⟩

/-- The tilda thread changes its own variables only. -/
theorem threadStep_frame {read : TcaRead} (stepped : s.threadStep read = some (s', emitted)) :
    s'.port = s.port ∧ s'.todo = s.todo ∧ s'.audio = s.audio ∧ s'.handedIn = s.handedIn ∧
      ∃ uses, emitted = some uses := by
  unfold threadStep at stepped
  split at stepped
  case h_1 =>
    split at stepped
    next => cases stepped; exact ⟨rfl, rfl, rfl, rfl, _, rfl⟩
    next => nomatch stepped
  all_goals
    cases stepped
    exact ⟨rfl, rfl, rfl, rfl, _, rfl⟩

theorem Inv.keep {act : Act Obj} (inv : s.Inv) (admitted : s.Admits act)
    (stepped : s.step act = some (s', emitted)) : s'.Inv := by
  cases act with
  | statement =>
    rw [step] at stepped
    split at stepped
    next => nomatch stepped
    next statement rest todo =>
      cases stepped
      have main := inv.main
      rw [todo] at main
      exact ⟨main.2, by rw [run_exec]; exact inv.heard⟩
  | enableInterrupt button interrupt onPress onRelease =>
    obtain ⟨idle, rfl, -⟩ := script_cases stepped
    exact inv.enableInterrupt idle admitted interrupt onPress onRelease
  | disableInterrupt button =>
    obtain ⟨idle, rfl, -⟩ := script_cases stepped
    exact inv.call idle fun settled => settled.unregisterButtonCallback button
  | irq id handler =>
    obtain ⟨idle, rfl, -⟩ := script_cases stepped
    exact inv.irq idle admitted handler
  | play buf len sampleRate sampleDepth =>
    obtain ⟨-, rfl, -⟩ := script_cases stepped
    exact inv.played (.play buf len sampleRate sampleDepth)
      (sounding_audioPlay inv.heard.fresh buf len sampleRate sampleDepth)
  | playWav buf len =>
    obtain ⟨-, rfl, -⟩ := script_cases stepped
    exact inv.played (.playWav buf len) (sounding_audioPlayWav inv.heard.fresh buf len)
  | volume volume =>
    obtain ⟨-, rfl, -⟩ := script_cases stepped
    exact ⟨inv.main, inv.heard.volume volume⟩
  | softReset =>
    obtain ⟨idle, rfl, -⟩ := script_cases stepped
    exact inv.softReset idle admitted
  | gpioInterrupt pin =>
    rw [step] at stepped
    split at stepped
    next => cases stepped; exact inv
    next => nomatch stepped
  | tcaInterrupt =>
    cases stepped
    exact ⟨inv.main, inv.heard⟩
  | thread read =>
    obtain ⟨port, todo, audio, handedIn, -⟩ := threadStep_frame stepped
    exact ⟨by rw [port, todo]; exact inv.main, by rw [port, audio, handedIn]; exact inv.heard⟩
  | pwmInterrupt =>
    rw [step] at stepped
    split at stepped
    next => cases stepped; exact ⟨inv.main, inv.heard.interrupt⟩
    next => nomatch stepped

end Keeping

/-! ## What each use comes to -/

section Uses

variable {s s' : State Obj}

theorem clean_schedule (word : Nat) :
    (Use.schedule (s.port.rootPointer word) s.port.swept).Clean ↔ ¬s.port.Outdated word := by
  cases held : s.port.rootPointer word with
  | null => exact iff_of_true trivial fun ⟨_, _, same, _⟩ => nomatch held.symm.trans same
  | constNone => exact iff_of_true trivial fun ⟨_, _, same, _⟩ => nomatch held.symm.trans same
  | callback run obj =>
    constructor
    · rintro (recent : s.port.swept ≤ run) ⟨run', obj', same, old⟩
      obtain ⟨rfl, -⟩ := RootPointer.callback.inj (held.symm.trans same)
      omega
    · intro fresh
      exact Nat.le_of_not_lt fun old => fresh ⟨run, obj, held, old⟩

theorem clean_scheduleCallback (word : Nat) :
    (∀ use ∈ s.scheduleCallback word, use.Clean) ↔ ¬s.port.Outdated word := by
  rw [← clean_schedule, scheduleCallback]
  cases s.port.rootPointer word with
  | null => simp
  | constNone => exact iff_of_true (List.forall_mem_nil _) trivial
  | callback run obj => simp

theorem clean_post : (Use.post s.port.machineSleepSem : Use Obj).Clean ↔
    s.port.machineSleepSem = true := Iff.rfl

theorem Inv.tildaGpioCallback (inv : s.Inv) {pin : Nat}
    (joystick : (s.port.gpio pin).callback = some .tildaGpioCallback) :
    (∀ use ∈ s.tildaGpioCallback pin, use.Clean) ↔
      ¬SemaphoreDeleted s.todo ∧ ¬Uncleared s.port s.todo (pin + joyCenter) := by
  have current := inv.current
  have inside := current.joystick pin joystick
  rw [State.tildaGpioCallback, List.forall_mem_append, List.forall_mem_singleton, clean_post,
    clean_scheduleCallback, current.buttons _ inside, current.semaphore, and_comm]

theorem Inv.gpioCallback (inv : s.Inv) {pin : Nat}
    (handler : (s.port.gpio pin).callback = some .gpioCallback) :
    ∀ use ∈ s.gpioCallback pin, use.Clean := by
  obtain ⟨kept, fresh⟩ := inv.current.handlers pin handler
  rw [State.gpioCallback, List.forall_mem_append, List.forall_mem_singleton]
  exact ⟨(clean_scheduleCallback _).mpr fresh, inv.current.semaphore.mpr kept⟩

/-- The samples that are read are of the present run's buffer. -/
theorem Inv.samples (inv : s.Inv) (running : s.audio.sound.pwmGenEnabled = true) :
    ∀ use ∈ s.samples, use.Clean := by
  rw [State.samples, List.forall_mem_map]
  intro offset member
  have reads := List.ne_nil_of_mem member
  exact Nat.le_of_eq
    (inv.heard.owned (sounding_of_reads inv.heard.tuned.adjust running reads)).symm

theorem Inv.threadStep (inv : s.Inv) {read : TcaRead} {uses : List (Use Obj)}
    (stepped : s.threadStep read = some (s', some uses)) :
    (∀ use ∈ uses, use.Clean) ↔ s.Admits (.thread read) := by
  have schedules (button : TcaButton) :
      (∀ use ∈ [Use.schedule (s.port.rootPointer (Reset.tildaButtonCallback button)) s.port.swept],
        use.Clean) ↔ ¬Uncleared s.port s.todo button := by
    have inside : button.val < buttonsMax := button.isLt.trans (by decide)
    rw [List.forall_mem_singleton, clean_schedule, inv.current.buttons _ inside]
  have nothing : (∀ use ∈ ([] : List (Use Obj)), use.Clean) ↔ True :=
    iff_true_intro (List.forall_mem_nil _)
  rw [Admits]
  rw [State.threadStep] at stepped
  cases pc : s.thread.pc with
  | pend =>
    simp only [pc] at stepped
    split at stepped
    next => cases stepped; exact nothing
    next => nomatch stepped
  | check button => simp only [pc] at stepped; cases stepped; exact nothing
  | onPress button => simp only [pc] at stepped; cases stepped; exact nothing
  | onRelease button => simp only [pc] at stepped; cases stepped; exact nothing
  | schedulePress button => simp only [pc] at stepped; cases stepped; exact schedules button
  | scheduleRelease button => simp only [pc] at stepped; cases stepped; exact schedules button
  | wake =>
    simp only [pc] at stepped
    cases stepped
    split
    next scheduled =>
      rw [List.forall_mem_singleton, clean_post, inv.current.semaphore]
      exact ⟨fun kept _ => kept, fun kept => kept scheduled⟩
    next idle => exact iff_of_true (nothing.mpr trivial) fun scheduled => absurd scheduled idle

/-- What an event uses is of the present run exactly if the event is admitted. -/
theorem Inv.event {act : Act Obj} {emitted : Option (List (Use Obj))} (inv : s.Inv)
    (event : act.Event) (stepped : s.step act = some (s', emitted)) :
    (∀ uses, emitted = some uses → ∀ use ∈ uses, use.Clean) ↔ s.Admits act := by
  have only (uses : List (Use Obj)) :
      (∀ uses', some uses = some uses' → ∀ use ∈ uses', use.Clean) ↔ ∀ use ∈ uses, use.Clean :=
    ⟨fun all => all uses rfl, fun all uses' same => Option.some.inj same ▸ all⟩
  cases act with
  | gpioInterrupt pin =>
    rw [step] at stepped
    split at stepped
    next callback enabled same =>
      cases stepped
      rw [only, Admits, same]
      cases callback with
      | tildaGpioCallback =>
        exact (inv.tildaGpioCallback same).trans ⟨fun kept _ => kept, fun kept => kept rfl⟩
      | gpioCallback => exact iff_of_true (inv.gpioCallback same) nofun
      | pdbStart | bqInterruptHandler | hdcInterruptHandler =>
        exact iff_of_true (List.forall_mem_nil _) nofun
    next => nomatch stepped
  | tcaInterrupt =>
    cases stepped
    exact iff_of_true ((only []).mpr (List.forall_mem_nil _)) trivial
  | thread read =>
    obtain ⟨-, -, -, -, uses, rfl⟩ := threadStep_frame stepped
    rw [only]
    exact inv.threadStep stepped
  | pwmInterrupt =>
    rw [step] at stepped
    split at stepped
    next enabled =>
      cases stepped
      exact iff_of_true ((only _).mpr (inv.samples (Bool.and_eq_true_iff.mp enabled).2)) trivial
    next => nomatch stepped
  | _ => exact event.elim

/-- The statements and the calls use nothing. -/
theorem step_of_not_event {act : Act Obj} {emitted : Option (List (Use Obj))}
    (quiet : ¬act.Event) (stepped : s.step act = some (s', emitted)) : emitted = some [] := by
  cases act with
  | statement =>
    rw [step] at stepped
    split at stepped
    next => nomatch stepped
    next => cases stepped; rfl
  | gpioInterrupt | tcaInterrupt | thread | pwmInterrupt => exact absurd trivial quiet
  | _ =>
    obtain ⟨-, -, rfl⟩ := script_cases stepped
    rfl

theorem Inv.clean {act : Act Obj} {emitted : Option (List (Use Obj))} (inv : s.Inv)
    (admitted : s.Admits act) (stepped : s.step act = some (s', emitted)) :
    ∀ uses, emitted = some uses → ∀ use ∈ uses, use.Clean := by
  by_cases event : act.Event
  · exact (inv.event event stepped).mpr admitted
  · rw [step_of_not_event event stepped]
    intro uses same
    exact Option.some.inj same ▸ List.forall_mem_nil _

end Uses

end State

/-- In the runs of admitted steps, with any number of soft resets, no semaphore is posted
while it is deleted, no callback of a run that has been swept is scheduled and no buffer
of an earlier run is read; and wherever such a run has come to, an event does none of it
exactly if it is admitted. -/
theorem oldRun_unused (Obj : Type) (buttonState : UInt16) :
    (State.system Obj).SeparatesOn (.boot buttonState) State.Admits Act.Event
      fun uses => ∀ use ∈ uses, use.Clean :=
  System.separatesOn_of_invariant State.Inv (State.inv_boot buttonState)
    (fun inv admitted stepped => inv.keep admitted stepped)
    (fun inv admitted stepped => inv.clean admitted stepped)
    fun inv event stepped => (inv.event event stepped).mp

/-- Registers a callback for the joystick, and presses it on a soft reset right behind
`machine_teardown`. -/
def pressInTeardown : List (Act Unit) :=
  List.replicate 47 .statement ++ [.enableInterrupt 16 (some ()) true false] ++
    List.replicate 6 .statement ++ [.softReset] ++ List.replicate 200 .statement ++
    [.gpioInterrupt 0]

theorem oldRun_unused_fails : ¬∀ (buttonState : UInt16) history s,
    (State.system Unit).Run (fun _ _ => True) (.boot buttonState) history s →
      ∀ uses ∈ history, ∀ use ∈ uses, use.Clean := by
  intro unused
  obtain ⟨history, s, run, posted⟩ := System.exists_run_of_exec (State.system Unit)
    (fun _ _ => True) (.boot 0xffff) pressInTeardown
    (fun result => result.1.any fun uses => uses.any fun use => !decide use.Clean)
    (by decide +kernel)
  obtain ⟨uses, member, bad⟩ := List.any_eq_true.mp posted
  obtain ⟨use, among, unclean⟩ := List.any_eq_true.mp bad
  have clean := unused 0xffff history s run uses member use among
  simp [clean] at unclean

end TildaMk4.Reset
