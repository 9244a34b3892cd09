import Mathlib.Logic.Relation
import TildaMk4.Usb.BlockTransfers

/-!
# Ejecting the disk

What the handlers can do to the medium (`Media.Step`), and from it: a disk that is
not ejected can always be opened again by the host, and one that was ejected by
START STOP UNIT never, because TEST UNIT READY refuses to look for it and START STOP
UNIT needs it to be open.
-/

namespace TildaMk4.Usb

open Storage Transition

/-- What decides about the medium. -/
structure Media where
  pvMedia : Bool
  iMediaStatus : MediaStatus
  usbEnabled : Bool
  usbInUse : Bool
  deriving DecidableEq

def Msc.media (s : Msc) : Media where
  pvMedia := s.pvMedia
  iMediaStatus := s.iMediaStatus
  usbEnabled := s.adapter.usbEnabled
  usbInUse := s.adapter.usbInUse

namespace Media

def closed (m : Media) : Media := { m with pvMedia := false, usbInUse := false }

/-- The changes of the medium that the handlers are made of. -/
inductive Step : Media → Media → Prop
  | open_ {m : Media} : m.usbEnabled = true → m.iMediaStatus ≠ .notPresent ∨ m.pvMedia = true →
      Step m { m with pvMedia := true, usbInUse := true }
  | refuse {m : Media} : m.usbEnabled = false → Step m { m with pvMedia := false }
  | status {m : Media} {status : MediaStatus} : m.pvMedia = true → status ≠ .notPresent →
      Step m { m with iMediaStatus := status }
  | eject {m : Media} : m.pvMedia = true → Step m { m.closed with iMediaStatus := .notPresent }
  | close {m : Media} : m.pvMedia = true → Step m m.closed
  | enable {m : Media} : Step m { m with usbEnabled := true }
  | disable {m : Media} : m.usbInUse = false → Step m { m with usbEnabled := false }

abbrev Steps := Relation.ReflTransGen Step

/-- The medium is open exactly while the storage counts it as in use, which needs it
to be enabled; an ejected medium is closed. -/
structure Consistent (m : Media) : Prop where
  inUse : m.pvMedia = m.usbInUse
  enabled : m.usbInUse = true → m.usbEnabled = true
  ejected : m.iMediaStatus = .notPresent → m.pvMedia = false

theorem Consistent.step {m m' : Media} (consistent : m.Consistent) (step : Step m m') :
    m'.Consistent := by
  cases step with
  | open_ enabled present =>
    refine ⟨rfl, fun _ => enabled, fun ejected => ?_⟩
    rcases present with present | media
    · exact absurd ejected present
    · exact absurd (media.symm.trans (consistent.ejected ejected)) Bool.noConfusion
  | refuse disabled =>
    have unused : m.usbInUse = false := by
      by_contra used
      have enabled := consistent.enabled (Bool.not_eq_false _ ▸ used)
      exact absurd (enabled.symm.trans disabled) Bool.noConfusion
    exact ⟨unused.symm, consistent.enabled, fun _ => rfl⟩
  | status media present =>
    exact ⟨consistent.inUse, consistent.enabled, fun ejected => absurd ejected present⟩
  | eject media => exact ⟨rfl, nofun, fun _ => rfl⟩
  | close media => exact ⟨rfl, nofun, fun _ => rfl⟩
  | enable => exact ⟨consistent.inUse, fun _ => rfl, consistent.ejected⟩
  | disable unused =>
    exact ⟨consistent.inUse, fun used => absurd (used.symm.trans unused) Bool.noConfusion,
      consistent.ejected⟩

theorem Consistent.steps {m m' : Media} (consistent : m.Consistent) (steps : Steps m m') :
    m'.Consistent := by
  induction steps with
  | refl => exact consistent
  | tail _ step inductionHypothesis => exact inductionHypothesis.step step

/-- The medium is closed and was ejected. -/
structure Ejected (m : Media) : Prop where
  status : m.iMediaStatus = .notPresent
  closed : m.pvMedia = false

theorem Ejected.step {m m' : Media} (ejected : m.Ejected) (step : Step m m') : m'.Ejected := by
  have closed (media : m.pvMedia = true) : m'.Ejected :=
    absurd (media.symm.trans ejected.closed) Bool.noConfusion
  cases step with
  | open_ enabled present =>
    rcases present with present | media
    · exact absurd ejected.status present
    · exact closed media
  | refuse => exact ⟨ejected.status, rfl⟩
  | status media | eject media | close media => exact closed media
  | enable | disable => exact ⟨ejected.status, ejected.closed⟩

theorem Ejected.steps {m m' : Media} (ejected : m.Ejected) (steps : Steps m m') : m'.Ejected := by
  induction steps with
  | refl => exact ejected
  | tail _ step inductionHypothesis => exact inductionHypothesis.step step

end Media

open Media

namespace Msc

variable (s : Msc)

@[simp] theorem media_setStatus (status residue : Nat) :
    (s.setStatus status residue).media = s.media := rfl

@[simp] theorem media_setState (state : ScsiState) : (s.setState state).media = s.media := rfl

@[simp] theorem media_setFlagDmaIn (flag : Bool) : (s.setFlagDmaIn flag).media = s.media := rfl

@[simp] theorem media_setFlagDmaOut (flag : Bool) : (s.setFlagDmaOut flag).media = s.media := rfl

@[simp] theorem media_setCurrentLBA (lba : Nat) : (s.setCurrentLBA lba).media = s.media := rfl

@[simp] theorem media_setBuffer (buffer : Bytes) : (s.setBuffer buffer).media = s.media := rfl

@[simp] theorem media_schedule (numBlocks : Nat) : (s.schedule numBlocks).media = s.media := rfl

@[simp] theorem media_countBlock : s.countBlock.media = s.media := rfl

@[simp] theorem media_nextBlock : s.nextBlock.media = s.media := rfl

@[simp] theorem media_blockRead : s.blockRead.2.2.media = s.media := rfl

@[simp] theorem media_blockWrite : s.blockWrite.2.2.media = s.media := rfl

@[simp] theorem media_closeMedia : s.closeMedia.media = s.media.closed := rfl

@[simp] theorem media_failNoMedia (endpoint : Endpoint) :
    (s.failNoMedia endpoint).2.media = s.media := rfl

@[simp] theorem media_usbdScsiSendStatus : s.usbdScsiSendStatus.2.media = s.media := rfl

theorem andThen_snd (first : List MscEvent × Msc) (second : Msc → List MscEvent × Msc) :
    (andThen first second).2 = (second first.2).2 := rfl

theorem openMedia_steps (present : s.iMediaStatus ≠ .notPresent ∨ s.pvMedia = true) :
    Steps s.media s.openMedia.media := by
  cases enabled : s.adapter.usbEnabled with
  | true =>
    have opened : s.openMedia.media = { s.media with pvMedia := true, usbInUse := true } := by
      simp [media, openMedia, Adapter.scmscOpen, Adapter.storageOpenUsb, Adapter.storageInit,
        enabled]
    rw [opened]
    exact .single (.open_ enabled present)
  | false =>
    have refused : s.openMedia.media = { s.media with pvMedia := false } := by
      simp [media, openMedia, Adapter.scmscOpen, Adapter.storageOpenUsb, enabled]
    rw [refused]
    exact .single (.refuse enabled)

theorem usbdScsiReadCapacities_media : s.usbdScsiReadCapacities.2.media = s.media := by
  unfold usbdScsiReadCapacities
  split <;> rfl

theorem usbdScsiReadCapacity_media : s.usbdScsiReadCapacity.2.media = s.media := by
  unfold usbdScsiReadCapacity
  split <;> rfl

theorem usbdScsiRead10_steps (cbwcb : Vector UInt8 16) :
    Steps s.media (s.usbdScsiRead10 cbwcb).2.media := by
  unfold usbdScsiRead10
  split
  next media =>
    split
    next =>
      rw [andThen_snd, media_failNoMedia, media_closeMedia, media_blockRead, media_setCurrentLBA]
      exact .single (.close media)
    next =>
      rw [andThen_snd, media_setState, media_schedule, media_setFlagDmaIn, media_blockRead,
        media_setCurrentLBA]
  next => rw [media_failNoMedia]

theorem usbdScsiWrite10_media (cbwcb : Vector UInt8 16) :
    (s.usbdScsiWrite10 cbwcb).2.media = s.media := by
  unfold usbdScsiWrite10
  split <;> rfl

theorem usbdScsiModeSense6_media (length : Nat) : (s.usbdScsiModeSense6 length).2.media = s.media := by
  unfold usbdScsiModeSense6
  split <;> rfl

theorem usbdScsiPreventAllowMediumRemoval_media (allow : Bool) :
    (s.usbdScsiPreventAllowMediumRemoval allow).2.media = s.media := by
  unfold usbdScsiPreventAllowMediumRemoval
  split <;> rfl

theorem startStop_steps (media : s.pvMedia = true) (start loej : Bool) :
    Steps s.media (s.startStop start loej).2.media := by
  unfold startStop
  split
  next => exact .single (.status media nofun)
  next => exact .single (.status media nofun)
  next =>
    split
    next => exact .single (.eject media)
    next => exact .refl
  next =>
    have opened := openMedia_steps s (.inr media)
    split
    next open_ => exact opened.tail (.status open_ nofun)
    next => exact opened

theorem usbdScsiStartStopUnit_steps (start loej : Bool) :
    Steps s.media (s.usbdScsiStartStopUnit start loej).2.media := by
  unfold usbdScsiStartStopUnit
  split
  next media => exact startStop_steps s media start loej
  next => exact .refl

theorem testUnitReady_steps : Steps s.media s.testUnitReady.2.media := by
  unfold testUnitReady
  split
  next => exact .refl
  next =>
    split
    next => exact .refl
    next present => split <;> exact openMedia_steps s (.inl present)

theorem unsupported_media (cbw : Cbw) : (s.unsupported cbw).2.media = s.media := by
  unfold unsupported
  split <;> rfl

theorem dispatch_steps (cbw : Cbw) : Steps s.media (s.dispatch cbw).2.media := by
  unfold dispatch
  split
  next => exact .refl
  next => exact s.testUnitReady_steps
  next => rw [usbdScsiReadCapacities_media]
  next => rw [usbdScsiReadCapacity_media]
  next => exact .refl
  next cbwcb _ => exact s.usbdScsiRead10_steps cbwcb
  next cbwcb _ => rw [usbdScsiWrite10_media]
  next => rw [usbdScsiModeSense6_media]
  next allow _ => rw [usbdScsiPreventAllowMediumRemoval_media]
  next start loej _ => exact s.usbdScsiStartStopUnit_steps start loej
  next => rw [unsupported_media]

theorem usbdScsiCommand_steps (cbw : Cbw) : Steps s.media (s.usbdScsiCommand cbw).2.media := by
  unfold usbdScsiCommand
  split <;> exact s.dispatch_steps cbw

theorem media_sendBlock (irq : EndpointIrq) : (s.sendBlock irq).2.media = s.media := by
  unfold sendBlock
  split
  next => split <;> simp only [media_setState, media_setFlagDmaIn, media_setStatus, media_countBlock,
    media_usbdScsiSendStatus]
  next => rw [andThen_snd, media_blockRead, media_nextBlock, media_countBlock]

theorem media_receiveBlock (irq : EndpointIrq) : (s.receiveBlock irq).2.media = s.media := by
  unfold receiveBlock
  rw [andThen_snd]
  split <;> simp only [media_usbdScsiSendStatus, media_setFlagDmaOut, media_setStatus,
    media_nextBlock, media_blockWrite, media_setBuffer, media_countBlock]

theorem media_handleIn (irq : EndpointIrq) : (s.handleIn irq).2.media = s.media := by
  unfold handleIn
  split
  next =>
    split
    next => exact s.media_sendBlock irq
    next => rfl
    next => rfl
    next => rfl
  next => rfl

theorem handleOut_steps (irq : EndpointIrq) : Steps s.media (s.handleOut irq).2.media := by
  unfold handleOut
  split
  next =>
    split
    next => rw [media_receiveBlock]
    next =>
      unfold receiveCommand
      split
      next cbw _ => exact usbdScsiCommand_steps { s with sScsiCsw := ⟨cbw.dCBWTag, 0, 0⟩ } cbw
      next => exact .refl
    next => exact .refl
  next => exact .refl

theorem disableUsb_steps : Steps s.media { s with adapter := s.adapter.disableUsb }.media := by
  unfold Adapter.disableUsb
  split
  next =>
    cases used : s.adapter.usbInUse with
    | true =>
      have same : (s.adapter.usbEnabled && true) = s.adapter.usbEnabled := Bool.and_true _
      simp only [media, used, same]
      exact .refl
    | false =>
      simp only [media, used, Bool.and_false]
      exact .single (.disable rfl)
  next => exact .refl

theorem perform_steps (act : MscAct) : Steps s.media (s.perform act).2.media := by
  cases act with
  | endpoints irq =>
    have out := handleOut_steps (s.handleIn irq).2 irq
    rw [media_handleIn] at out
    exact out
  | disconnect =>
    simp only [perform, handleDisconnect]
    split
    next media => exact .single (.close media)
    next => exact .refl
  | configChange => exact .refl
  | enableUsb => exact .single .enable
  | disableUsb => exact s.disableUsb_steps
  | storage cache => exact .refl

/-- The data phase ends at the latest after `left + 1` more blocks. -/
def Left (left : Nat) (s : Msc) : Prop :=
  s.pui32BlockSize = 0 ∧ s.ui32BytesToTransfer = 0 ∨
    s.pui32BlockSize = 512 ∧ s.ui32BytesToTransfer = 512 * (left + 1) % uint32Size

/-- A data phase is going on. -/
def Transfers (s : Msc) : Prop :=
  s.ui8SCSIState = .sendBlocks ∨ s.ui8SCSIState = .receiveBlocks

/-- Every data phase comes to an end. -/
def Drains (s : Msc) : Prop := s.Transfers → ∃ left, s.Left left

theorem drains_of_state {s : Msc} {state : ScsiState} (same : s.ui8SCSIState = state)
    (quiet : state ≠ .sendBlocks ∧ state ≠ .receiveBlocks) : s.Drains := by
  rintro (sends | receives)
  · exact absurd (same.symm.trans sends) quiet.1
  · exact absurd (same.symm.trans receives) quiet.2

theorem left_schedule {s : Msc} (sizes : s.BlockSizes) (numBlocks : Nat) :
    ∃ left, (s.schedule numBlocks).Left left := by
  rcases sizes.device with zero | size
  · refine ⟨0, .inl ⟨zero, ?_⟩⟩
    simp only [schedule, zero, Nat.zero_mul, Nat.zero_mod]
  · refine ⟨numBlocks + (2 ^ 23 - 1), .inr ⟨size, ?_⟩⟩
    simp only [schedule, size, uint32Size]
    omega

theorem Left.countBlock {s : Msc} {left : Nat} (remaining : s.Left left) :
    s.countBlock.ui32BytesToTransfer = 0 ∨ ∃ less < left, s.countBlock.Left less := by
  rcases remaining with ⟨zero, bytes⟩ | ⟨size, bytes⟩
  · left
    simp only [Msc.countBlock, zero, bytes, uint32Size, Nat.zero_mod, Nat.add_zero, Nat.sub_zero,
      Nat.mod_self]
  · cases left with
    | zero =>
      left
      simp only [Msc.countBlock, size, bytes, uint32Size]
    | succ less =>
      right
      refine ⟨less, Nat.lt_succ_self less, .inr ⟨size, ?_⟩⟩
      simp only [Msc.countBlock, size, bytes, uint32Size]
      omega

variable {s}

theorem drains_failNoMedia (endpoint : Endpoint) : (s.failNoMedia endpoint).2.Drains :=
  drains_of_state (s := (s.failNoMedia endpoint).2) rfl ⟨nofun, nofun⟩

theorem drains_setState_sendStatus : (s.setState .sendStatus).Drains :=
  drains_of_state (s := s.setState .sendStatus) rfl ⟨nofun, nofun⟩

theorem drains_usbdScsiSendStatus : s.usbdScsiSendStatus.2.Drains :=
  drains_of_state (s := s.usbdScsiSendStatus.2) rfl ⟨nofun, nofun⟩

theorem drains_of_idle (idle : s.ui8SCSIState = .idle) : s.Drains :=
  drains_of_state idle (by decide)

theorem drains_schedule (sizes : s.BlockSizes) (numBlocks : Nat) (state : ScsiState) :
    ((s.schedule numBlocks).setState state).Drains :=
  fun _ => left_schedule sizes numBlocks

theorem drains_usbdScsiRead10 (sizes : s.BlockSizes) (cbwcb : Vector UInt8 16) :
    (s.usbdScsiRead10 cbwcb).2.Drains := by
  unfold usbdScsiRead10
  split
  next =>
    split
    next => exact drains_failNoMedia .inEndpoint
    next =>
      rw [andThen_snd]
      exact drains_schedule (sizes.setCurrentLBA (lbaOf cbwcb)).blockRead.setFlagDmaIn _ _
  next => exact drains_failNoMedia .inEndpoint

theorem drains_usbdScsiWrite10 (sizes : s.BlockSizes) (cbwcb : Vector UInt8 16) :
    (s.usbdScsiWrite10 cbwcb).2.Drains := by
  unfold usbdScsiWrite10
  split
  next => exact fun _ => left_schedule (sizes.setCurrentLBA (lbaOf cbwcb)) _
  next => exact drains_failNoMedia .outEndpoint

theorem drains_answer (answered failed : Msc) (events : List MscEvent) (endpoint : Endpoint) :
    (if s.pvMedia = true then (events, answered.setState .sendStatus)
      else failed.failNoMedia endpoint).2.Drains := by
  split
  next => exact drains_setState_sendStatus
  next => exact drains_failNoMedia endpoint

theorem drains_dispatch (sizes : s.BlockSizes) (idle : s.ui8SCSIState = .idle) (cbw : Cbw) :
    (s.dispatch cbw).2.Drains := by
  unfold dispatch
  split
  next => exact drains_setState_sendStatus
  next =>
    unfold testUnitReady
    split
    next => exact drains_of_idle idle
    next =>
      split
      next => exact drains_of_idle idle
      next => split <;> exact drains_of_idle idle
  next => exact drains_answer _ _ _ _
  next => exact drains_answer _ _ _ _
  next => exact drains_setState_sendStatus
  next cbwcb _ => exact drains_usbdScsiRead10 sizes cbwcb
  next cbwcb _ => exact drains_usbdScsiWrite10 sizes cbwcb
  next => exact drains_answer _ _ _ _
  next => exact drains_answer _ _ _ _
  next => exact drains_answer _ _ _ _
  next =>
    unfold unsupported
    split
    next => exact drains_of_idle rfl
    next => exact drains_of_idle idle

theorem drains_sendBlock (drains : s.Drains) (sends : s.ui8SCSIState = .sendBlocks)
    (irq : EndpointIrq) : (s.sendBlock irq).2.Drains := by
  obtain ⟨left, remaining⟩ := drains (.inl sends)
  unfold sendBlock
  split
  next =>
    split
    next => exact drains_setState_sendStatus
    next => exact drains_usbdScsiSendStatus
  next more =>
    obtain ⟨less, _, remaining⟩ := remaining.countBlock.resolve_left more
    exact fun _ => ⟨less, remaining⟩

theorem drains_receiveBlock (drains : s.Drains) (receives : s.ui8SCSIState = .receiveBlocks)
    (irq : EndpointIrq) : (s.receiveBlock irq).2.Drains := by
  obtain ⟨left, remaining⟩ := drains (.inr receives)
  simp only [receiveBlock, andThen]
  split
  next => exact drains_usbdScsiSendStatus
  next more =>
    obtain ⟨less, _, remaining⟩ := remaining.countBlock.resolve_left more
    exact fun _ => ⟨less, remaining⟩

theorem drains_handleIn (drains : s.Drains) (irq : EndpointIrq) : (s.handleIn irq).2.Drains := by
  unfold handleIn
  split
  next =>
    split
    next sends => exact drains_sendBlock drains sends irq
    next => exact drains_usbdScsiSendStatus
    next => exact drains_of_idle rfl
    next => exact drains
  next => exact drains

theorem drains_handleOut (sizes : s.BlockSizes) (drains : s.Drains) (irq : EndpointIrq) :
    (s.handleOut irq).2.Drains := by
  unfold handleOut
  split
  next =>
    split
    next receives => exact drains_receiveBlock drains receives irq
    next idle =>
      unfold receiveCommand
      split
      next cbw _ =>
        have tagged : { s with sScsiCsw := ⟨cbw.dCBWTag, 0, 0⟩ }.BlockSizes := sizes.of_same
        unfold usbdScsiCommand
        split
        next => exact drains_usbdScsiSendStatus
        next => exact drains_dispatch tagged idle cbw
      next => exact drains_of_idle rfl
    next => exact drains
  next => exact drains

theorem drains_perform (sizes : s.BlockSizes) (drains : s.Drains) (act : MscAct) :
    (s.perform act).2.Drains := by
  cases act with
  | endpoints irq => exact drains_handleOut (sizes.handleIn irq) (drains_handleIn drains irq) irq
  | disconnect =>
    simp only [perform, handleDisconnect]
    split <;> exact drains
  | configChange | enableUsb | disableUsb | storage => exact drains

/-- What holds of the device after any sequence of acts from boot on. -/
structure Reachable (s : Msc) : Prop where
  sizes : s.BlockSizes
  drains : s.Drains
  media : s.media.Consistent

theorem reachable_after (flash : Bytes) (acts : List MscAct) :
    (machine.after (boot flash) acts).Reachable :=
  Machine.after_keep machine Reachable
    (fun act reachable =>
      { sizes := reachable.sizes.perform act
        drains := drains_perform reachable.sizes reachable.drains act
        media := reachable.media.steps (perform_steps _ act) })
    acts
    { sizes := blockSizes_boot flash
      drains := drains_of_idle rfl
      media := ⟨rfl, nofun, nofun⟩ }

end Msc

/-- The host commands and the USB events. -/
def MscAct.FromHost : MscAct → Prop
  | .endpoints _ | .disconnect | .configChange => True
  | .enableUsb | .disableUsb | .storage _ => False

/-- The OUT channel has received a block. -/
def EndpointIrq.outDone : EndpointIrq := { EndpointIrq.none with outStatus := true }

namespace Msc

/-- `pvMedia` is not 0 and `usb_in_use` is true. -/
def Open (s : Msc) : Prop := s.pvMedia = true ∧ s.adapter.usbInUse = true

/-- The device waits for a command, with the medium as in `m`. -/
structure AtRest (m : Media) (s : Msc) : Prop where
  idle : s.ui8SCSIState = .idle
  media : s.media = m

abbrev ReachesByHost (Q : Msc → Prop) (s : Msc) : Prop := machine.Reaches MscAct.FromHost Q s

variable {s : Msc} {m : Media} {Q : Msc → Prop}

theorem fires_inDone :
    (EndpointIrq.inDone.inStatus || s.flagDmaIn && EndpointIrq.inDone.inDmaComplete) = true := rfl

theorem fires_outDone :
    (EndpointIrq.outDone.outStatus || s.flagDmaOut && EndpointIrq.outDone.outDmaComplete) = true :=
  rfl

theorem reaches_of_inDone (rest : ReachesByHost Q (s.handleIn .inDone).2) : ReachesByHost Q s := by
  have same : (s.perform (.endpoints .inDone)).2 = (s.handleIn .inDone).2 := by
    change (andThen (s.handleIn .inDone) fun s => s.handleOut .inDone).2 = _
    rw [andThen_snd, handleOut, if_neg]
    simp [EndpointIrq.inDone, EndpointIrq.none]
  have permitted : MscAct.FromHost (.endpoints .inDone) := trivial
  exact .step permitted (same ▸ rest)

theorem reaches_of_outDone (rest : ReachesByHost Q (s.handleOut .outDone).2) :
    ReachesByHost Q s := by
  have quiet : s.handleIn .outDone = ([], s) := by
    rw [handleIn, if_neg]
    simp [EndpointIrq.outDone, EndpointIrq.none]
  have same : (s.perform (.endpoints .outDone)).2 = (s.handleOut .outDone).2 := by
    change (andThen (s.handleIn .outDone) fun s => s.handleOut .outDone).2 = _
    rw [andThen_snd, quiet]
  have permitted : MscAct.FromHost (.endpoints .outDone) := trivial
  exact .step permitted (same ▸ rest)

theorem reaches_of_sentStatus (sent : s.ui8SCSIState = .sentStatus) (same : s.media = m) :
    ReachesByHost (AtRest m) s := by
  have handled : s.handleIn .inDone = ([], s.setState .idle) := by
    rw [handleIn, if_pos fires_inDone, sent]
  apply reaches_of_inDone
  rw [handled]
  exact .here ⟨rfl, (media_setState s .idle).trans same⟩

theorem reaches_of_sendStatus (sends : s.ui8SCSIState = .sendStatus) (same : s.media = m) :
    ReachesByHost (AtRest m) s := by
  have handled : s.handleIn .inDone = s.usbdScsiSendStatus := by
    rw [handleIn, if_pos fires_inDone, sends]
  apply reaches_of_inDone
  rw [handled]
  exact reaches_of_sentStatus rfl ((media_usbdScsiSendStatus s).trans same)

/-- The data phase of a read ends, by induction on the blocks that are left. -/
theorem reaches_of_sendBlocks (left : Nat) : ∀ {s : Msc}, s.ui8SCSIState = .sendBlocks →
    s.Left left → s.media = m → ReachesByHost (AtRest m) s := by
  induction left using Nat.strong_induction_on with
  | h left inductionHypothesis =>
    intro s sends remaining same
    have handled : s.handleIn .inDone = s.sendBlock .inDone := by
      rw [handleIn, if_pos fires_inDone, sends]
    have kept := (s.media_sendBlock .inDone).trans same
    apply reaches_of_inDone
    rw [handled]
    by_cases done : s.countBlock.ui32BytesToTransfer = 0
    · have ended : s.sendBlock .inDone =
          ((s.countBlock.setStatus 0 0).setFlagDmaIn false).usbdScsiSendStatus := by
        rw [sendBlock, if_pos done]
        rfl
      rw [ended] at kept ⊢
      exact reaches_of_sentStatus rfl kept
    · have moved : (s.sendBlock .inDone).2 = s.countBlock.nextBlock.blockRead.2.2 := by
        rw [sendBlock, if_neg done, andThen_snd]
      obtain ⟨less, fewer, remaining⟩ := remaining.countBlock.resolve_left done
      rw [moved] at kept ⊢
      exact inductionHypothesis less fewer sends remaining kept

/-- The state after one block has been received and written. -/
def blockReceived (s : Msc) (irq : EndpointIrq) : Msc :=
  (s.countBlock.setBuffer irq.received).blockWrite.2.2.nextBlock

theorem receiveBlock_snd (s : Msc) (irq : EndpointIrq) : (s.receiveBlock irq).2 =
    (if (s.blockReceived irq).ui32BytesToTransfer = 0 then
      (((s.blockReceived irq).setStatus 0 0).setFlagDmaOut false).usbdScsiSendStatus
    else ([], s.blockReceived irq)).2 := by
  rw [receiveBlock, andThen_snd, blockReceived]

theorem reaches_of_receiveBlocks (left : Nat) : ∀ {s : Msc}, s.ui8SCSIState = .receiveBlocks →
    s.Left left → s.media = m → ReachesByHost (AtRest m) s := by
  induction left using Nat.strong_induction_on with
  | h left inductionHypothesis =>
    intro s receives remaining same
    have handled : s.handleOut .outDone = s.receiveBlock .outDone := by
      rw [handleOut, if_pos fires_outDone, receives]
    have kept := (s.media_receiveBlock .outDone).trans same
    apply reaches_of_outDone
    rw [handled]
    rw [receiveBlock_snd] at kept ⊢
    by_cases done : (s.blockReceived .outDone).ui32BytesToTransfer = 0
    · rw [if_pos done] at kept ⊢
      exact reaches_of_sentStatus rfl kept
    · rw [if_neg done] at kept ⊢
      obtain ⟨less, fewer, remaining⟩ := remaining.countBlock.resolve_left done
      exact inductionHypothesis less fewer receives remaining kept

theorem reaches_atRest (drains : s.Drains) : ReachesByHost (AtRest s.media) s := by
  cases state : s.ui8SCSIState with
  | idle => exact .here ⟨state, rfl⟩
  | sendBlocks =>
    obtain ⟨left, remaining⟩ := drains (.inl state)
    exact reaches_of_sendBlocks left state remaining rfl
  | receiveBlocks =>
    obtain ⟨left, remaining⟩ := drains (.inr state)
    exact reaches_of_receiveBlocks left state remaining rfl
  | sendStatus => exact reaches_of_sendStatus state rfl
  | sentStatus => exact reaches_of_sentStatus state rfl

/-- TEST UNIT READY without data. -/
def askReady : Cbw := ⟨0, 0, false, .testUnitReady⟩

theorem perform_askReady (idle : s.ui8SCSIState = .idle) :
    (s.perform (.endpoints (.command askReady))).2.media =
      (s.atCommand askReady).testUnitReady.2.media := by
  have quiet : s.handleIn (.command askReady) = ([], s) := by
    rw [handleIn, if_neg]
    simp [EndpointIrq.command, EndpointIrq.none]
  have received : s.Receives (.command askReady) askReady :=
    ⟨by rw [quiet]; exact idle, rfl, rfl⟩
  change (s.handleEndpoints (.command askReady)).2.media = _
  have noData : askReady.dCBWDataTransferLength = 0 := rfl
  rw [handleEndpoints_of_receives received, usbdScsiCommand, if_pos noData, andThen_snd,
    media_usbdScsiSendStatus]
  rfl

theorem testUnitReady_opens (enabled : s.media.usbEnabled = true)
    (present : s.media.iMediaStatus ≠ .notPresent) : s.testUnitReady.2.media.pvMedia = true := by
  unfold testUnitReady
  split
  next open_ => exact open_
  next =>
    have found : s.adapter.usbEnabled = true := enabled
    have opened : s.openMedia.pvMedia = true := by
      simp [openMedia, Adapter.scmscOpen, Adapter.storageOpenUsb, found]
    split
    next ejected => exact absurd ejected present
    next => exact opened

theorem reaches_open (consistent : m.Consistent) (enabled : m.usbEnabled = true)
    (present : m.iMediaStatus ≠ .notPresent) (rest : s.AtRest m) : ReachesByHost Open s := by
  obtain ⟨idle, rfl⟩ := rest
  have asked := perform_askReady idle
  have opened : (s.perform (.endpoints (.command askReady))).2.media.pvMedia = true := by
    rw [asked]
    exact testUnitReady_opens (s := s.atCommand askReady) enabled present
  have inUse := (consistent.steps (perform_steps s (.endpoints (.command askReady)))).inUse
  have permitted : MscAct.FromHost (.endpoints (.command askReady)) := trivial
  exact .step permitted
    (.here ⟨opened, inUse.symm.trans opened⟩)

theorem not_reaches_open_of_ejected (ejected : s.media.Ejected) : ¬ReachesByHost Open s :=
  Machine.not_reaches_of_keep (fun s => s.media.Ejected)
    (fun act _ ejected => ejected.steps (perform_steps _ act))
    (fun ejected open_ => absurd (open_.1.symm.trans ejected.closed) Bool.noConfusion) ejected

/-- The disk can be opened again by the host exactly if it has not been ejected. -/
theorem reopens_iff (flash : Bytes) (acts : List MscAct)
    (enabled : (machine.after (boot flash) acts).adapter.usbEnabled = true) :
    ReachesByHost Open (machine.after (boot flash) acts) ↔
      (machine.after (boot flash) acts).iMediaStatus ≠ .notPresent := by
  have reachable := reachable_after flash acts
  generalize machine.after (boot flash) acts = s at enabled reachable
  constructor
  · intro reopens ejected
    exact not_reaches_open_of_ejected ⟨ejected, reachable.media.ejected ejected⟩ reopens
  · intro present
    exact (reaches_atRest reachable.drains).bind (reaches_open reachable.media enabled present)

/-- After boot, with the disk enabled. -/
theorem reopens_iff_boot :
    ReachesByHost Open (machine.after (boot fun _ => 0) [.enableUsb]) ↔
      (machine.after (boot fun _ => 0) [.enableUsb]).iMediaStatus ≠ .notPresent :=
  reopens_iff (fun _ => 0) [.enableUsb] rfl

/-- A host command without data, up to the idle state after its status. -/
def hostCommand (command : ScsiCommand) : List MscAct :=
  [.endpoints (.command ⟨0, 0, false, command⟩), .endpoints .inDone]

/-- The disk is opened, removal is allowed, and the disk is ejected. -/
def ejecting : List MscAct :=
  .enableUsb :: (hostCommand .testUnitReady ++ hostCommand (.mediumRemoval true) ++
    hostCommand (.startStopUnit false true))

theorem reopens_fails :
    ¬ ∀ (flash : Bytes) (acts : List MscAct),
      (machine.after (boot flash) acts).adapter.usbEnabled = true →
      ReachesByHost Open (machine.after (boot flash) acts) := by
  intro always
  have ejected : (machine.after (boot fun _ => 0) ejecting).media.Ejected := ⟨rfl, rfl⟩
  exact not_reaches_open_of_ejected ejected (always (fun _ => 0) ejecting rfl)

end Msc

end TildaMk4.Usb
