import Mathlib.Algebra.GroupWithZero.Nat
import TildaMk4.Usb.StatusWrappers

/-!
# A status wrapper that is owed is sent

Whatever else happens in between, the interrupts of the two endpoints bring the data phase to
its end: there are at most as many blocks as the 32 bit byte counter can count down.
-/

namespace TildaMk4.Usb

open Storage Transition Requests

/-- An interrupt with the status bits of both endpoints. -/
def MscAct.serves : MscAct → Bool
  | .endpoints irq => irq.inStatus && irq.outStatus
  | _ => false

namespace Msc

/-- The state of the data phase. -/
def Moves (s : Msc) : Prop := s.ui8SCSIState = .sendBlocks ∨ s.ui8SCSIState = .receiveBlocks

/-- In the data phase whole blocks are counted, unless their size is still 0. -/
structure Steady (s : Msc) : Prop where
  sizes : s.BlockSizes
  whole : s.Moves →
    s.pui32BlockSize = 0 ∧ s.ui32BytesToTransfer = 0 ∨
      s.pui32BlockSize = 512 ∧ 512 ∣ s.ui32BytesToTransfer

/-- The interrupts that the data phase still takes. -/
def rank (s : Msc) : Nat :=
  match s.ui8SCSIState with
  | .sendBlocks | .receiveBlocks => s.countBlock.ui32BytesToTransfer / 512 + 1
  | _ => 0

theorem rank_of_moves {s : Msc} (moves : s.Moves) :
    s.rank = s.countBlock.ui32BytesToTransfer / 512 + 1 := by
  rcases moves with state | state <;> rw [rank, state]

theorem rank_le (s : Msc) : s.rank ≤ uint32Size / 512 := by
  have bound : s.countBlock.ui32BytesToTransfer < uint32Size := Nat.mod_lt _ (by decide)
  unfold rank
  simp only [uint32Size] at bound ⊢
  split <;> omega

variable {s : Msc}

/-- After a block whole blocks remain; if any do, they are full and one fewer. -/
theorem Steady.countBlock (steady : s.Steady) (moves : s.Moves) :
    s.countBlock.ui32BytesToTransfer = 0 ∨
      s.pui32BlockSize = 512 ∧ 512 ∣ s.countBlock.ui32BytesToTransfer ∧
        s.countBlock.countBlock.ui32BytesToTransfer + 512 = s.countBlock.ui32BytesToTransfer := by
  rcases steady.whole moves with ⟨size, bytes⟩ | ⟨size, blocks, bytes⟩
  · refine .inl ?_
    simp only [Msc.countBlock, size, bytes]
    decide
  · have whole : 512 ∣ s.countBlock.ui32BytesToTransfer := by
      simp only [Msc.countBlock, size, bytes, uint32Size]
      omega
    have small : s.countBlock.ui32BytesToTransfer < uint32Size := Nat.mod_lt _ (by decide)
    rcases Nat.eq_zero_or_pos s.countBlock.ui32BytesToTransfer with done | some_
    · exact .inl done
    refine .inr ⟨size, whole, ?_⟩
    have next : s.countBlock.countBlock.ui32BytesToTransfer =
        (uint32Size + s.countBlock.ui32BytesToTransfer - s.pui32BlockSize % uint32Size) %
          uint32Size := rfl
    rw [next, size]
    simp only [uint32Size] at small ⊢
    omega

namespace Steady

theorem of_still (sizes : s.BlockSizes) (still : ¬s.Moves) : s.Steady :=
  ⟨sizes, fun moves => absurd moves still⟩

theorem of_scheduled (sizes : s.BlockSizes)
    (scheduled : s.Moves → ∃ numBlocks,
      s.ui32BytesToTransfer = s.pui32BlockSize * numBlocks % uint32Size) : s.Steady := by
  refine ⟨sizes, fun moves => ?_⟩
  obtain ⟨numBlocks, bytes⟩ := scheduled moves
  rcases sizes.device with size | size
  · exact .inl ⟨size, by rw [bytes, size, Nat.zero_mul, Nat.zero_mod]⟩
  · refine .inr ⟨size, ?_⟩
    rw [bytes, size]
    exact (Nat.dvd_mod_iff (by decide)).mpr (Nat.dvd_mul_right 512 numBlocks)

theorem of_same {t : Msc} (steady : s.Steady) (sizes : t.BlockSizes)
    (state : t.ui8SCSIState = s.ui8SCSIState) (size : t.pui32BlockSize = s.pui32BlockSize)
    (bytes : t.ui32BytesToTransfer = s.ui32BytesToTransfer) : t.Steady := by
  refine ⟨sizes, fun moves => ?_⟩
  rw [size, bytes]
  exact steady.whole (by rwa [Moves, state] at moves)

/-- The ends of the two branches that start a data phase, from any state. -/
theorem sends (t : Msc) (numBlocks : Nat)
    (sizes : (((t.setFlagDmaIn true).schedule numBlocks).setState .sendBlocks).BlockSizes) :
    (((t.setFlagDmaIn true).schedule numBlocks).setState .sendBlocks).Steady :=
  of_scheduled sizes fun _ => ⟨numBlocks, rfl⟩

theorem receives (t : Msc) (numBlocks : Nat)
    (sizes : (((t.schedule numBlocks).setState .receiveBlocks).setFlagDmaOut true).BlockSizes) :
    (((t.schedule numBlocks).setState .receiveBlocks).setFlagDmaOut true).Steady :=
  of_scheduled sizes fun _ => ⟨numBlocks, rfl⟩

theorem failNoMedia (sizes : s.BlockSizes) (endpoint : Endpoint) :
    (s.failNoMedia endpoint).2.Steady :=
  of_still (sizes.failNoMedia endpoint) (by simp [Moves, Msc.failNoMedia, setState])

end Steady

theorem not_moves_of_sendStatus (state : s.ui8SCSIState = .sendStatus) : ¬s.Moves := by
  simp [Moves, state]

theorem not_moves_of_idle (state : s.ui8SCSIState = .idle) : ¬s.Moves := by
  simp [Moves, state]

/-- Only the commands that move blocks start a data phase. -/
theorem dispatch_still (idle : s.ui8SCSIState = .idle) {cbw : Cbw}
    (reads : ∀ cbwcb, cbw.command ≠ .read10 cbwcb)
    (writes : ∀ cbwcb, cbw.command ≠ .write10 cbwcb) :
    ¬(s.dispatch cbw).2.Moves := by
  unfold dispatch
  split
  next => exact not_moves_of_sendStatus rfl
  next =>
    unfold testUnitReady
    split
    next => exact not_moves_of_idle idle
    next =>
      split
      next => exact not_moves_of_idle idle
      next => split <;> exact not_moves_of_idle idle
  next =>
    unfold usbdScsiReadCapacities
    split <;> exact not_moves_of_sendStatus rfl
  next =>
    unfold usbdScsiReadCapacity
    split <;> exact not_moves_of_sendStatus rfl
  next => exact not_moves_of_sendStatus rfl
  next command => exact absurd command (reads _)
  next command => exact absurd command (writes _)
  next =>
    unfold usbdScsiModeSense6
    split <;> exact not_moves_of_sendStatus rfl
  next =>
    unfold usbdScsiPreventAllowMediumRemoval
    split <;> exact not_moves_of_sendStatus rfl
  next =>
    unfold usbdScsiStartStopUnit
    split <;> exact not_moves_of_sendStatus rfl
  next =>
    unfold unsupported
    split
    next => exact not_moves_of_idle rfl
    next => exact not_moves_of_idle idle

namespace Steady

theorem dispatch (sizes : s.BlockSizes) (idle : s.ui8SCSIState = .idle) (cbw : Cbw) :
    (s.dispatch cbw).2.Steady := by
  have kept := sizes.dispatch cbw
  cases command : cbw.command with
  | read10 cbwcb =>
    cases media : s.pvMedia with
    | true =>
      rw [dispatch_read10 sizes media command] at kept ⊢
      exact sends _ _ kept
    | false =>
      simp only [Msc.dispatch, command, usbdScsiRead10, media, Bool.false_eq_true, if_false]
      exact failNoMedia sizes _
  | write10 cbwcb =>
    cases media : s.pvMedia with
    | true =>
      rw [dispatch_write10 media command] at kept ⊢
      exact receives _ _ kept
    | false =>
      simp only [Msc.dispatch, command, usbdScsiWrite10, media, Bool.false_eq_true, if_false]
      exact failNoMedia sizes _
  | _ => exact of_still kept (dispatch_still idle (by simp [command]) (by simp [command]))

theorem usbdScsiCommand (sizes : s.BlockSizes) (idle : s.ui8SCSIState = .idle) (cbw : Cbw) :
    (s.usbdScsiCommand cbw).2.Steady := by
  have kept := sizes.usbdScsiCommand cbw
  unfold Msc.usbdScsiCommand at kept ⊢
  split
  next nothing =>
    rw [if_pos nothing] at kept
    exact of_still kept (by simp [Moves, andThen, usbdScsiSendStatus, setState])
  next => exact dispatch sizes idle cbw

/-- A block has gone and more are to come. -/
theorem moved (steady : s.Steady) (moves : s.Moves)
    (more : s.countBlock.ui32BytesToTransfer ≠ 0) {t : Msc} (sizes : t.BlockSizes)
    (state : t.ui8SCSIState = s.ui8SCSIState) (size : t.pui32BlockSize = s.pui32BlockSize)
    (bytes : t.ui32BytesToTransfer = s.countBlock.ui32BytesToTransfer) :
    t.Steady ∧ t.rank < s.rank := by
  obtain ⟨full, whole, next⟩ := (steady.countBlock moves).resolve_left more
  have moving : t.Moves := by rwa [Moves, state]
  refine ⟨⟨sizes, fun _ => .inr ⟨size.trans full, bytes ▸ whole⟩⟩, ?_⟩
  have counted : t.countBlock.ui32BytesToTransfer =
      s.countBlock.countBlock.ui32BytesToTransfer := by
    simp only [Msc.countBlock, size, bytes]
  rw [rank_of_moves moving, rank_of_moves moves, counted]
  omega

/-- The data phase is over. -/
theorem ended (moves : s.Moves) {t : Msc} (sizes : t.BlockSizes)
    (state : t.ui8SCSIState = .sendStatus ∨ t.ui8SCSIState = .sentStatus) :
    t.Steady ∧ t.rank < s.rank := by
  refine ⟨of_still sizes ?_, ?_⟩
  · rcases state with state | state <;> simp [Moves, state]
  · rw [rank_of_moves moves]
    rcases state with state | state <;> rw [rank, state] <;> exact Nat.succ_pos _

theorem sendBlock (steady : s.Steady) (state : s.ui8SCSIState = .sendBlocks) (irq : EndpointIrq) :
    (s.sendBlock irq).2.Steady ∧ (s.sendBlock irq).2.rank < s.rank := by
  have kept := steady.sizes.sendBlock irq
  unfold Msc.sendBlock at kept ⊢
  split
  next done =>
    rw [if_pos done] at kept
    split
    next last =>
      rw [if_pos last] at kept
      exact ended (.inl state) kept (.inl rfl)
    next last =>
      rw [if_neg last] at kept
      exact ended (.inl state) kept (.inr rfl)
  next more =>
    rw [if_neg more] at kept
    exact steady.moved (.inl state) more kept rfl rfl rfl

theorem receiveBlock (steady : s.Steady) (state : s.ui8SCSIState = .receiveBlocks)
    (irq : EndpointIrq) :
    (s.receiveBlock irq).2.Steady ∧ (s.receiveBlock irq).2.rank < s.rank := by
  have kept := steady.sizes.receiveBlock irq
  simp only [Msc.receiveBlock, andThen] at kept ⊢
  split
  next done =>
    rw [if_pos done] at kept
    exact ended (.inr state) kept (.inr rfl)
  next more =>
    rw [if_neg more] at kept
    exact steady.moved (.inr state) more kept rfl rfl rfl

theorem handleIn (steady : s.Steady) (irq : EndpointIrq) : (s.handleIn irq).2.Steady := by
  have kept := steady.sizes.handleIn irq
  unfold Msc.handleIn at kept ⊢
  split
  next called =>
    rw [if_pos called] at kept
    split
    next state => exact (steady.sendBlock state irq).1
    next state =>
      rw [state] at kept
      exact of_still kept (by simp [Moves, usbdScsiSendStatus, setState])
    next state =>
      rw [state] at kept
      exact of_still kept (not_moves_of_idle rfl)
    next => exact steady
  next => exact steady

theorem handleOut (steady : s.Steady) (irq : EndpointIrq) : (s.handleOut irq).2.Steady := by
  unfold Msc.handleOut
  split
  next =>
    split
    next state => exact (steady.receiveBlock state irq).1
    next idle =>
      unfold receiveCommand
      split
      next cbw _ =>
        have tagged : { s with sScsiCsw := ⟨cbw.dCBWTag, 0, 0⟩ }.BlockSizes := steady.sizes.of_same
        exact usbdScsiCommand tagged idle cbw
      next => exact of_still steady.sizes.setState (not_moves_of_idle rfl)
    next => exact steady
  next => exact steady

theorem perform (steady : s.Steady) (act : MscAct) : (s.perform act).2.Steady := by
  have kept := steady.sizes.perform act
  cases act with
  | endpoints irq => exact (steady.handleIn irq).handleOut irq
  | disconnect =>
    refine steady.of_same kept ?_ ?_ ?_ <;>
      (simp only [Msc.perform, handleDisconnect]; split <;> rfl)
  | _ => exact steady.of_same kept rfl rfl rfl

end Steady

theorem steady_boot (flash : Bytes) : (boot flash).Steady :=
  .of_still (blockSizes_boot flash) (not_moves_of_idle rfl)

theorem handleIn_of_not_in (irq : EndpointIrq) (state : s.ui8SCSIState = .receiveBlocks) :
    s.handleIn irq = ([], s) := by
  rw [handleIn, state]
  split <;> rfl

/-- The OUT half has nothing to do outside of its two states. -/
theorem handleOut_quiet (irq : EndpointIrq)
    (state : s.ui8SCSIState ≠ .receiveBlocks ∧ s.ui8SCSIState ≠ .idle) :
    s.handleOut irq = ([], s) := by
  unfold handleOut
  split
  next =>
    split
    next receives => exact absurd receives state.1
    next idle => exact absurd idle state.2
    next => rfl
  next => rfl

theorem sendBlock_state (irq : EndpointIrq) (state : s.ui8SCSIState = .sendBlocks) :
    (s.sendBlock irq).2.ui8SCSIState ≠ .receiveBlocks ∧
      (s.sendBlock irq).2.ui8SCSIState ≠ .idle := by
  unfold sendBlock
  split
  next =>
    split
    next => exact ⟨ScsiState.noConfusion, ScsiState.noConfusion⟩
    next => exact ⟨ScsiState.noConfusion, ScsiState.noConfusion⟩
  next =>
    have moved : s.countBlock.nextBlock.blockRead.2.2.ui8SCSIState = .sendBlocks := state
    rw [andThen, moved]
    exact ⟨ScsiState.noConfusion, ScsiState.noConfusion⟩

theorem rank_of_same {t : Msc} (state : t.ui8SCSIState = s.ui8SCSIState)
    (size : t.pui32BlockSize = s.pui32BlockSize)
    (bytes : t.ui32BytesToTransfer = s.ui32BytesToTransfer) : t.rank = s.rank := by
  simp only [rank, state, countBlock, size, bytes]

/-- The IN half is called in an interrupt that serves both endpoints. -/
theorem inCalled_of_serves {irq : EndpointIrq} (serves : (MscAct.endpoints irq).serves = true) :
    (irq.inStatus || s.flagDmaIn && irq.inDmaComplete) = true := by
  rw [(Bool.and_eq_true_iff.mp serves).1, Bool.true_or]

theorem outCalled_of_serves {irq : EndpointIrq} (serves : (MscAct.endpoints irq).serves = true) :
    (irq.outStatus || s.flagDmaOut && irq.outDmaComplete) = true := by
  rw [(Bool.and_eq_true_iff.mp serves).2, Bool.true_or]

/-- While a wrapper is owed, an interrupt that sends nothing leaves fewer to come, or is none
that the data phase waits for. -/
theorem rank_endpoints (steady : s.Steady) (irq : EndpointIrq) (owes : s.owed ≠ none)
    (silent : s.wire (.endpoints irq) = []) :
    (s.handleEndpoints irq).2.rank ≤ s.rank ∧
      ((MscAct.endpoints irq).serves = true → (s.handleEndpoints irq).2.rank < s.rank) := by
  have handled : (s.handleEndpoints irq).2 = ((s.handleIn irq).2.handleOut irq).2 := rfl
  rw [handled]
  cases state : s.ui8SCSIState with
  | idle => exact absurd (owed_idle state) owes
  | sentStatus => exact absurd (by rw [owed, state]) owes
  | receiveBlocks =>
    rw [handleIn_of_not_in irq state]
    unfold handleOut
    split
    next =>
      rw [state]
      have fewer := (steady.receiveBlock state irq).2
      exact ⟨Nat.le_of_lt fewer, fun _ => fewer⟩
    next quiet => exact ⟨Nat.le_refl _, fun serves => absurd (outCalled_of_serves serves) quiet⟩
  | sendBlocks =>
    unfold handleIn
    split
    next =>
      rw [state]
      simp only
      rw [handleOut_quiet irq (sendBlock_state irq state)]
      have fewer := (steady.sendBlock state irq).2
      exact ⟨Nat.le_of_lt fewer, fun _ => fewer⟩
    next quiet =>
      rw [handleOut_quiet irq (by simp [state])]
      exact ⟨Nat.le_refl _, fun serves => absurd (inCalled_of_serves serves) quiet⟩
  | sendStatus =>
    have nothing : wireOf (s.handleIn irq).1 = [] := (List.append_eq_nil_iff.mp silent).1
    unfold handleIn at nothing ⊢
    split
    next called =>
      rw [if_pos called, state] at nothing
      cases nothing
    next quiet =>
      rw [handleOut_quiet irq (by simp [state])]
      exact ⟨Nat.le_refl _, fun serves => absurd (inCalled_of_serves serves) quiet⟩

theorem rank_wire (steady : s.Steady) (act : MscAct) (owes : s.owed ≠ none)
    (silent : s.wire act = []) :
    (s.perform act).2.rank ≤ s.rank ∧ (act.serves = true → (s.perform act).2.rank < s.rank) := by
  cases act with
  | endpoints irq => exact rank_endpoints steady irq owes silent
  | disconnect =>
    refine ⟨Nat.le_of_eq (rank_of_same ?_ ?_ ?_),
      fun serves => absurd serves Bool.false_ne_true⟩ <;>
      (simp only [Msc.perform, handleDisconnect]; split <;> rfl)
  | _ =>
    exact ⟨Nat.le_of_eq (rank_of_same rfl rfl rfl), fun serves => absurd serves Bool.false_ne_true⟩

/-- Wherever a run from boot has come to, a status wrapper that is owed is the next thing on
the wire, after at most 2²³ interrupts that serve both endpoints and one more. -/
theorem owed_sent (flash : Bytes) (acts more : List MscAct) {csw : Csw}
    (owes : (machine.after (boot flash) acts).owed = some csw)
    (served : uint32Size / 512 < more.countP MscAct.serves) :
    ∃ rest, (transport.answers (machine.after (boot flash) acts) more).flatten =
      .reply csw :: rest := by
  have steady : (machine.after (boot flash) acts).Steady :=
    Machine.after_keep machine Steady (fun act steady => steady.perform act) acts
      (steady_boot flash)
  exact reply_within transport Steady owed rank MscAct.serves
    (fun act steady => steady.perform act) (fun act steady => followAll_wire steady.sizes act)
    (fun act steady => rank_wire steady act) more steady owes
    (Nat.lt_of_le_of_lt (rank_le _) served)

/-- A host that asks for the INQUIRY data, then one that serves both endpoints. -/
def inquiryIrq (inStatus : Bool) : EndpointIrq where
  inStatus := inStatus
  inDmaComplete := false
  txPktRdy := false
  outStatus := true
  outDmaComplete := false
  received := fun _ => 0
  packet := some ⟨7, 36, true, .inquiry⟩

theorem owed_sent_inquiry :
    ∃ rest, (transport.answers
      (machine.after (boot fun _ => 0) [.endpoints (inquiryIrq false)])
      (List.replicate 8388609 (.endpoints (inquiryIrq true)))).flatten = .reply ⟨7, 0, 0⟩ :: rest := by
  refine owed_sent _ _ _ rfl ?_
  have served : (MscAct.endpoints (inquiryIrq true)).serves = true := rfl
  rw [List.countP_replicate, if_pos served]
  decide

end Msc

end TildaMk4.Usb
