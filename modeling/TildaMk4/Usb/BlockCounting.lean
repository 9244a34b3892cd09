import TildaMk4.Usb.BlockTransfers

/-!
# How many blocks READ(10) and WRITE(10) move

A command is watched from its arrival until the device is idle again, between
the two halves of `HandleEndpoints`: the IN half may end one command and the OUT
half of the same call begin the next.
-/

namespace TildaMk4.Usb

open Storage Transition

/-- `MscAct` with the two halves of `HandleEndpoints` apart. -/
inductive MscHalf
  | bulkIn (irq : EndpointIrq)
  | bulkOut (irq : EndpointIrq)
  | disconnect
  | configChange
  | enableUsb
  | disableUsb
  | storage (cache : Cache)

def MscAct.halves : MscAct → List MscHalf
  | .endpoints irq => [.bulkIn irq, .bulkOut irq]
  | .disconnect => [.disconnect]
  | .configChange => [.configChange]
  | .enableUsb => [.enableUsb]
  | .disableUsb => [.disableUsb]
  | .storage cache => [.storage cache]

namespace Msc

def performHalf (s : Msc) : MscHalf → List MscEvent × Msc
  | .bulkIn irq => s.handleIn irq
  | .bulkOut irq => s.handleOut irq
  | .disconnect => s.perform .disconnect
  | .configChange => s.perform .configChange
  | .enableUsb => s.perform .enableUsb
  | .disableUsb => s.perform .disableUsb
  | .storage cache => s.perform (.storage cache)

def halves : Machine Msc MscHalf (List MscEvent) where
  perform := performHalf

/-- Taking `HandleEndpoints` apart changes nothing about a run. -/
theorem halves_run (acts : List MscAct) : ∀ s : Msc,
    (halves.answers s (acts.flatMap MscAct.halves)).flatten = (machine.answers s acts).flatten ∧
      halves.after s (acts.flatMap MscAct.halves) = machine.after s acts := by
  induction acts with
  | nil => exact fun _ => ⟨rfl, rfl⟩
  | cons act rest inductionHypothesis =>
    intro s
    obtain ⟨answers, after⟩ := inductionHypothesis (machine.perform s act).2
    cases act with
    | endpoints irq =>
      refine ⟨?_, after⟩
      have both : (machine.perform s (.endpoints irq)).1 =
          (s.handleIn irq).1 ++ ((s.handleIn irq).2.handleOut irq).1 := rfl
      simp only [Machine.answers, List.flatten_cons, both, ← answers, List.append_assoc]
      rfl
    | disconnect => exact ⟨answers, after⟩
    | configChange => exact ⟨answers, after⟩
    | enableUsb => exact ⟨answers, after⟩
    | disableUsb => exact ⟨answers, after⟩
    | storage cache => exact ⟨answers, after⟩

/-- The interrupt that the SCSI state waits for. -/
def serves (s : Msc) : MscHalf → Bool
  | .bulkIn irq =>
    (irq.inStatus || s.flagDmaIn && irq.inDmaComplete) &&
      (s.ui8SCSIState == .sendBlocks || s.ui8SCSIState == .sendStatus ||
        s.ui8SCSIState == .sentStatus)
  | .bulkOut irq =>
    (irq.outStatus || s.flagDmaOut && irq.outDmaComplete) && s.ui8SCSIState == .receiveBlocks
  | _ => false

/-- The command that has `arrived` in execution: how many interrupts have served it,
and what has been sent since. It ends when the device is idle. -/
inductive Execution (arrived : List MscEvent × Msc) : Nat → List MscEvent → Msc → Prop where
  | arrives : Execution arrived 0 arrived.1 arrived.2
  | goesOn {served : Nat} {sent : List MscEvent} {s : Msc} (half : MscHalf) :
      Execution arrived served sent s → s.ui8SCSIState ≠ .idle →
      Execution arrived (served + if s.serves half then 1 else 0)
        (sent ++ (s.performHalf half).1) (s.performHalf half).2

/-- Any run that leaves the device busy before each of its handlers is part of the
execution. -/
theorem Execution.run {arrived : List MscEvent × Msc} (acts : List MscHalf) :
    ∀ {served : Nat} {sent : List MscEvent} {s : Msc}, Execution arrived served sent s →
      halves.EachStep (fun s _ => s.ui8SCSIState ≠ .idle) s acts →
      ∃ served', Execution arrived served' (sent ++ (halves.answers s acts).flatten)
        (halves.after s acts) := by
  induction acts with
  | nil =>
    intro served sent s execution _
    refine ⟨served, ?_⟩
    simpa only [Machine.answers, Machine.after, List.flatten_nil, List.append_nil] using execution
  | cons half rest inductionHypothesis =>
    intro served sent s execution each
    obtain ⟨served', later⟩ := inductionHypothesis (execution.goesOn half each.1) each.2
    rw [List.append_assoc] at later
    exact ⟨served', later⟩

end Msc

/-- What a command for `count` blocks has done after `served` interrupts. -/
structure CountsBlocks (op : BlockOp) (lba count tag served : Nat) (sent : List MscEvent)
    (s : Msc) : Prop where
  data : s.ui8SCSIState = .sendBlocks ∨ s.ui8SCSIState = .receiveBlocks →
    0 < s.ui32BytesToTransfer ∧
      s.ui32BytesToTransfer + storageGetBlockSize * served = storageGetBlockSize * count ∧
      sent = op.transfers lba (served + op.ahead)
  due : s.ui8SCSIState = .sendStatus → sent = op.transfers lba count
  sent_ : s.ui8SCSIState = .sentStatus ∨ s.ui8SCSIState = .idle →
    ∃ csw : Csw, csw.dCSWTag = tag ∧ sent = op.transfers lba count ++ [.csw csw]
  returns : s.ui8SCSIState ≠ .idle → served ≤ count + 1 ∧ ∃ half, s.serves half = true

variable {s : Msc} {op : BlockOp} {lba count tag served : Nat} {sent : List MscEvent}

/-- How far a command has come that moves all of its blocks. -/
inductive Counting (op : BlockOp) (lba count tag : Nat) : Nat → List MscEvent → Msc → Prop where
  | moving {served : Nat} {s : Msc} : Moving op lba count count served s →
      s.pui32BlockSize = storageGetBlockSize → s.sScsiCsw.dCSWTag = tag →
      Counting op lba count tag served (op.transfers lba (served + op.ahead)) s
  | waiting {s : Msc} : s.ui8SCSIState = .sendStatus → s.sScsiCsw.dCSWTag = tag →
      Counting op lba count tag count (op.transfers lba count) s
  | sent {served : Nat} {s : Msc} (csw : Csw) : s.ui8SCSIState = .sentStatus →
      csw.dCSWTag = tag → served ≤ count + 1 →
      Counting op lba count tag served (op.transfers lba count ++ [.csw csw]) s
  | ended {served : Nat} {s : Msc} (csw : Csw) : s.ui8SCSIState = .idle → csw.dCSWTag = tag →
      Counting op lba count tag served (op.transfers lba count ++ [.csw csw]) s

theorem Counting.of_same {s' : Msc} (counting : Counting op lba count tag served sent s)
    (state : s'.ui8SCSIState = s.ui8SCSIState := by rfl)
    (size : s'.pui32BlockSize = s.pui32BlockSize := by rfl)
    (bytes : s'.ui32BytesToTransfer = s.ui32BytesToTransfer := by rfl)
    (current : s'.ui32CurrentLBA = s.ui32CurrentLBA := by rfl)
    (csw : s'.sScsiCsw = s.sScsiCsw := by rfl) :
    Counting op lba count tag served sent s' := by
  cases counting with
  | moving moving full tagged =>
    exact .moving (moving.of_same state size bytes current) (size.trans full) (csw ▸ tagged)
  | waiting waits tagged => exact .waiting (state.trans waits) (csw ▸ tagged)
  | sent csw sent tagged bound => exact .sent csw (state.trans sent) tagged bound
  | ended csw idle tagged => exact .ended csw (state.trans idle) tagged

theorem Counting.quiet {half : MscHalf} (counting : Counting op lba count tag served sent s)
    (unserved : s.serves half = false) :
    Counting op lba count tag (served + if s.serves half then 1 else 0) (sent ++ []) s := by
  simpa only [unserved, Bool.false_eq_true, if_false, Nat.add_zero, List.append_nil] using counting

theorem Moving.all_served (moving : Moving op lba count count served s)
    (finished : s.countBlock.ui32BytesToTransfer = 0) : served + 1 = count :=
  moving.countBlock_eq_zero_iff.mp finished

/-- An IN interrupt that finds a read in its data phase. -/
theorem Counting.sendBlock (irq : EndpointIrq) (moving : Moving .read lba count count served s)
    (full : s.pui32BlockSize = storageGetBlockSize) (tagged : s.sScsiCsw.dCSWTag = tag) :
    Counting .read lba count tag (served + 1)
      (BlockOp.read.transfers lba (served + 1) ++ (s.sendBlock irq).1) (s.sendBlock irq).2 := by
  by_cases finished : s.countBlock.ui32BytesToTransfer = 0
  · rw [Msc.sendBlock, if_pos finished, moving.all_served finished]
    split
    next =>
      rw [List.append_nil]
      exact .waiting rfl tagged
    next => exact .sent _ rfl tagged (Nat.le_succ count)
  · have next : Moving .read lba count count (served + 1)
        s.countBlock.nextBlock.blockRead.2.2 := (moving.advance finished).of_same
    rw [moving.sendBlock_more finished irq, ← BlockOp.transfers_succ]
    exact .moving next full tagged

/-- An OUT interrupt that finds a write in its data phase. -/
theorem Counting.receiveBlock (irq : EndpointIrq) (moving : Moving .write lba count count served s)
    (full : s.pui32BlockSize = storageGetBlockSize) (tagged : s.sScsiCsw.dCSWTag = tag) :
    Counting .write lba count tag (served + 1)
      (BlockOp.write.transfers lba served ++ (s.receiveBlock irq).1) (s.receiveBlock irq).2 := by
  simp only [Msc.receiveBlock, Msc.andThen, moving.blockWrite_sent irq.received]
  rw [← List.append_assoc, ← BlockOp.transfers_succ]
  split
  next finished =>
    rw [moving.all_served finished]
    exact .sent _ rfl tagged (Nat.le_succ count)
  next more =>
    have next : Moving .write lba count count (served + 1)
        (s.countBlock.setBuffer irq.received).blockWrite.2.2.nextBlock :=
      (moving.advance more).of_same
    rw [List.append_nil]
    exact .moving next full tagged

theorem Counting.bulkIn (counting : Counting op lba count tag served sent s)
    (busy : s.ui8SCSIState ≠ .idle) (irq : EndpointIrq) :
    Counting op lba count tag (served + if s.serves (.bulkIn irq) then 1 else 0)
      (sent ++ (s.handleIn irq).1) (s.handleIn irq).2 := by
  cases fires : irq.inStatus || s.flagDmaIn && irq.inDmaComplete with
  | false =>
    have unserved : s.serves (.bulkIn irq) = false := by simp only [Msc.serves, fires, Bool.false_and]
    have nothing : s.handleIn irq = ([], s) := by
      rw [Msc.handleIn, fires]
      rfl
    rw [nothing]
    exact counting.quiet unserved
  | true =>
    cases counting with
    | moving moving full tagged =>
      cases op with
      | read =>
        have handled : s.handleIn irq = s.sendBlock irq := by
          rw [Msc.handleIn, fires, moving.state]
          rfl
        have served : s.serves (.bulkIn irq) = true := by
          simp only [Msc.serves, fires, moving.state]
          rfl
        rw [handled, served]
        exact Counting.sendBlock irq moving full tagged
      | write =>
        have handled : s.handleIn irq = ([], s) := by
          rw [Msc.handleIn, fires, moving.state]
          rfl
        have unserved : s.serves (.bulkIn irq) = false := by
          simp only [Msc.serves, fires, moving.state]
          rfl
        rw [handled]
        exact (Counting.moving moving full tagged).quiet unserved
    | waiting waits tagged =>
      have handled : s.handleIn irq = s.usbdScsiSendStatus := by
        rw [Msc.handleIn, fires, waits]
        rfl
      have served : s.serves (.bulkIn irq) = true := by
        simp only [Msc.serves, fires, waits]
        rfl
      rw [handled, served]
      exact .sent _ rfl tagged (Nat.le_refl _)
    | sent csw sent tagged bound =>
      have handled : s.handleIn irq = ([], s.setState .idle) := by
        rw [Msc.handleIn, fires, sent]
        rfl
      rw [handled, List.append_nil]
      exact .ended csw rfl tagged
    | ended csw idle tagged => exact absurd idle busy

theorem Counting.bulkOut (counting : Counting op lba count tag served sent s)
    (busy : s.ui8SCSIState ≠ .idle) (irq : EndpointIrq) :
    Counting op lba count tag (served + if s.serves (.bulkOut irq) then 1 else 0)
      (sent ++ (s.handleOut irq).1) (s.handleOut irq).2 := by
  by_cases served_ : s.serves (.bulkOut irq) = true
  · obtain ⟨fires, receiving⟩ := (Bool.and_eq_true _ _).mp served_
    have state : s.ui8SCSIState = .receiveBlocks := eq_of_beq receiving
    have handled : s.handleOut irq = s.receiveBlock irq := by
      rw [Msc.handleOut, fires, state]
      rfl
    rw [handled, served_]
    cases counting with
    | moving moving full tagged =>
      cases op with
      | read => cases moving.state.symm.trans state
      | write => exact Counting.receiveBlock irq moving full tagged
    | waiting waits tagged => cases waits.symm.trans state
    | sent csw sent tagged bound => cases sent.symm.trans state
    | ended csw idle tagged => exact absurd idle busy
  · have handled : s.handleOut irq = ([], s) := by
      unfold Msc.handleOut
      split
      next fires =>
        split
        next state => simp [Msc.serves, fires, state] at served_
        next idle => exact absurd idle busy
        next => rfl
      next => rfl
    rw [handled]
    exact counting.quiet (Bool.not_eq_true _ ▸ served_)

/-- What one handler does for the command that is executed. -/
theorem Counting.performHalf (counting : Counting op lba count tag served sent s)
    (busy : s.ui8SCSIState ≠ .idle) (half : MscHalf) :
    Counting op lba count tag (served + if s.serves half then 1 else 0)
      (sent ++ (s.performHalf half).1) (s.performHalf half).2 := by
  cases half with
  | bulkIn irq => exact counting.bulkIn busy irq
  | bulkOut irq => exact counting.bulkOut busy irq
  | disconnect =>
    refine (counting.quiet rfl).of_same ?_ ?_ ?_ ?_ ?_ <;>
      simp only [Msc.performHalf, Msc.perform, Msc.handleDisconnect] <;> split <;> rfl
  | configChange => exact counting.quiet rfl
  | enableUsb => exact (counting.quiet rfl).of_same
  | disableUsb => exact (counting.quiet rfl).of_same
  | storage cache => exact (counting.quiet rfl).of_same

theorem Counting.run {arrived : List MscEvent × Msc}
    (start : Counting op lba count tag 0 arrived.1 arrived.2)
    (execution : Msc.Execution arrived served sent s) :
    Counting op lba count tag served sent s := by
  induction execution with
  | arrives => exact start
  | goesOn half _ busy inductionHypothesis => exact inductionHypothesis.performHalf busy half

theorem BlockOp.scsiState_eq (op : BlockOp) :
    op.scsiState = .sendBlocks ∨ op.scsiState = .receiveBlocks := by
  cases op
  · exact .inl rfl
  · exact .inr rfl

theorem Msc.serves_in (waits : s.ui8SCSIState = .sendBlocks ∨ s.ui8SCSIState = .sendStatus ∨
    s.ui8SCSIState = .sentStatus) : ∃ half, s.serves half = true := by
  refine ⟨.bulkIn ⟨true, false, false, false, false, fun _ => 0, none⟩, ?_⟩
  rcases waits with state | state | state <;> simp [Msc.serves, state]

theorem Msc.serves_out (waits : s.ui8SCSIState = .receiveBlocks) :
    ∃ half, s.serves half = true := by
  refine ⟨.bulkOut ⟨false, false, false, true, false, fun _ => 0, none⟩, ?_⟩
  simp [Msc.serves, waits]

theorem Moving.countsBlocks (moving : Moving op lba count count served s)
    (full : s.pui32BlockSize = storageGetBlockSize) :
    CountsBlocks op lba count tag served (op.transfers lba (served + op.ahead)) s where
  data _ := by
    have inside := moving.inside
    have blockSize : storageGetBlockSize = 512 := rfl
    rw [moving.bytes, full, blockSize]
    exact ⟨by omega, by omega, rfl⟩
  due state := by
    rcases op.scsiState_eq with data | data <;>
      exact nomatch (moving.state.trans data).symm.trans state
  sent_ state := by
    rcases op.scsiState_eq with data | data <;> rcases state with state | state <;>
      exact nomatch (moving.state.trans data).symm.trans state
  returns _ := by
    refine ⟨Nat.le_succ_of_le (Nat.le_of_lt moving.inside), ?_⟩
    rcases op.scsiState_eq with data | data
    · exact Msc.serves_in (.inl (moving.state.trans data))
    · exact Msc.serves_out (moving.state.trans data)

theorem Counting.countsBlocks (counting : Counting op lba count tag served sent s) :
    CountsBlocks op lba count tag served sent s := by
  cases counting with
  | moving moving full tagged => exact moving.countsBlocks full
  | waiting waits tagged =>
    refine ⟨fun state => ?_, fun _ => rfl, fun state => ?_,
      fun _ => ⟨Nat.le_succ _, Msc.serves_in (.inr (.inl waits))⟩⟩
    · simp [waits] at state
    · simp [waits] at state
  | sent csw sent tagged bound =>
    refine ⟨fun state => ?_, fun state => ?_, fun _ => ⟨csw, tagged, rfl⟩,
      fun _ => ⟨bound, Msc.serves_in (.inr (.inr sent))⟩⟩
    · simp [sent] at state
    · simp [sent] at state
  | ended csw idle tagged =>
    refine ⟨fun state => ?_, fun state => ?_, fun _ => ⟨csw, tagged, rfl⟩,
      fun busy => absurd idle busy⟩
    · simp [idle] at state
    · simp [idle] at state

section Arrival

variable {irq : EndpointIrq} {cbw : Cbw} {cbwcb : Vector UInt8 16}

/-- When a command moves as many blocks as it names: the host must announce data if and
only if there are blocks to move, and a read always reads its first block. -/
def NamesItsBlocks (op : BlockOp) (length count : Nat) : Prop :=
  match op with
  | .read => 0 < count ∧ (length ≠ 0 ∨ count = 1)
  | .write => length ≠ 0 ↔ 0 < count

theorem Msc.schedule_bytes (s : Msc) (full : s.pui32BlockSize = storageGetBlockSize)
    (count : Nat) :
    (s.schedule count).ui32BytesToTransfer = storageGetBlockSize * count % uint32Size := by
  rw [Msc.schedule, full]

/-- A command that has data to move when it has been dispatched. -/
theorem Counting.arriveMoving (sizes : s.BlockSizes) (some_ : 0 < numBlocksOf cbwcb)
    (full : s.pui32BlockSize = storageGetBlockSize) (state : s.ui8SCSIState = op.scsiState)
    (current : s.ui32CurrentLBA = lbaOf cbwcb)
    (bytes : s.ui32BytesToTransfer = storageGetBlockSize * numBlocksOf cbwcb % uint32Size)
    (tagged : s.sScsiCsw.dCSWTag = tag) :
    Counting op (lbaOf cbwcb) (numBlocksOf cbwcb) tag 0
      (op.transfers (lbaOf cbwcb) op.ahead) s := by
  have moving := Moving.start s sizes some_ full state current bytes
  rw [if_neg (by decide)] at moving
  have counting := Counting.moving moving full tagged
  rwa [Nat.zero_add] at counting

/-- What follows the dispatch of a READ(10), once `t` is the state after its first block. -/
theorem Counting.afterFirstRead (t : Msc) (sizes : t.BlockSizes)
    (full : t.pui32BlockSize = storageGetBlockSize) (current : t.ui32CurrentLBA = lbaOf cbwcb)
    (tagged : t.sScsiCsw.dCSWTag = tag) (length : Nat)
    (names : NamesItsBlocks .read length (numBlocksOf cbwcb)) (result : List MscEvent × Msc)
    (read : result = (BlockOp.read.transfers (lbaOf cbwcb) 1,
      ((t.setFlagDmaIn true).schedule (numBlocksOf cbwcb)).setState .sendBlocks)) :
    Counting .read (lbaOf cbwcb) (numBlocksOf cbwcb) tag 0
      (if length = 0 then Msc.andThen result Msc.usbdScsiSendStatus else result).1
      (if length = 0 then Msc.andThen result Msc.usbdScsiSendStatus else result).2 := by
  obtain ⟨some_, announced⟩ := names
  subst read
  split
  next empty =>
    have one : numBlocksOf cbwcb = 1 := announced.resolve_left (absurd empty)
    rw [one]
    exact .sent _ rfl tagged (Nat.zero_le _)
  next nonempty =>
    exact Counting.arriveMoving sizes.setFlagDmaIn.schedule.setState some_ full rfl current
      (Msc.schedule_bytes _ full _) tagged

theorem Counting.arriveRead (sizes : s.BlockSizes) (media : s.pvMedia = true)
    (full : s.pui32BlockSize = storageGetBlockSize) (asks : cbw.command = .read10 cbwcb)
    (tagged : s.sScsiCsw.dCSWTag = tag)
    (names : NamesItsBlocks .read cbw.dCBWDataTransferLength (numBlocksOf cbwcb)) :
    Counting .read (lbaOf cbwcb) (numBlocksOf cbwcb) tag 0 (s.usbdScsiCommand cbw).1
      (s.usbdScsiCommand cbw).2 := by
  have kept := (sizes.setCurrentLBA (lbaOf cbwcb)).blockRead
  have current : (s.setCurrentLBA (lbaOf cbwcb)).blockRead.2.2.ui32CurrentLBA = lbaOf cbwcb := by
    simp only [Msc.blockRead_ui32CurrentLBA, Msc.setCurrentLBA_ui32CurrentLBA]
  have full_ : (s.setCurrentLBA (lbaOf cbwcb)).blockRead.2.2.pui32BlockSize =
      storageGetBlockSize := by
    rw [Msc.blockRead_pui32BlockSize, Msc.setCurrentLBA_pui32BlockSize, full]
  have tagged_ : (s.setCurrentLBA (lbaOf cbwcb)).blockRead.2.2.sScsiCsw.dCSWTag = tag := by
    rw [Msc.blockRead_sScsiCsw, Msc.setCurrentLBA_sScsiCsw, tagged]
  exact Counting.afterFirstRead _ kept full_ current tagged_ cbw.dCBWDataTransferLength names _
    (Msc.dispatch_read10 sizes media asks)

theorem Counting.arriveWrite (sizes : s.BlockSizes) (media : s.pvMedia = true)
    (full : s.pui32BlockSize = storageGetBlockSize) (asks : cbw.command = .write10 cbwcb)
    (tagged : s.sScsiCsw.dCSWTag = tag)
    (names : NamesItsBlocks .write cbw.dCBWDataTransferLength (numBlocksOf cbwcb)) :
    Counting .write (lbaOf cbwcb) (numBlocksOf cbwcb) tag 0 (s.usbdScsiCommand cbw).1
      (s.usbdScsiCommand cbw).2 := by
  have kept := sizes.dispatch cbw
  rw [Msc.usbdScsiCommand]
  rw [Msc.dispatch_write10 media asks] at kept ⊢
  split
  next empty =>
    have none_ : numBlocksOf cbwcb = 0 := Nat.eq_zero_of_not_pos fun some_ => names.mpr some_ empty
    rw [none_]
    exact .sent _ rfl tagged (Nat.zero_le _)
  next nonempty =>
    exact Counting.arriveMoving kept (names.mp nonempty) full rfl rfl
      (Msc.schedule_bytes _ full _) tagged

theorem BlockOp.transfers_length (op : BlockOp) (lba count : Nat) :
    (op.transfers lba count).length = count * (1 + op.ahead) := by
  induction count with
  | zero => simp [BlockOp.transfers_zero]
  | succ count inductionHypothesis =>
    rw [BlockOp.transfers_succ, List.length_append, inductionHypothesis, Nat.succ_mul]
    cases op <;> rfl

/-- A status sent at once comes after all the blocks only if it comes after as many. -/
theorem CountsBlocks.count_eq (moved : Nat) {csw : Csw}
    (counts : CountsBlocks op lba count tag served (op.transfers lba moved ++ [.csw csw]) s)
    (state : s.ui8SCSIState = .sentStatus) : moved = count := by
  obtain ⟨csw', _, same⟩ := counts.sent_ (.inl state)
  have lengths := congrArg List.length same
  simp only [List.length_append, List.length_singleton, BlockOp.transfers_length,
    Nat.add_right_cancel_iff] at lengths
  exact Nat.eq_of_mul_eq_mul_right (by omega) lengths

theorem CountsBlocks.some_ {events : List MscEvent} (counts : CountsBlocks op lba count tag 0 events s)
    (state : s.ui8SCSIState = .sendBlocks ∨ s.ui8SCSIState = .receiveBlocks) : 0 < count := by
  obtain ⟨positive, total, _⟩ := counts.data state
  have blockSize : storageGetBlockSize = 512 := rfl
  rw [blockSize] at total
  omega

/-- The handler that receives the command already shows a miscount. -/
theorem namesItsBlocks_of_counts (sizes : s.BlockSizes) (media : s.pvMedia = true)
    (asks : cbw.command = op.command cbwcb)
    (counts : CountsBlocks op (lbaOf cbwcb) (numBlocksOf cbwcb) tag 0 (s.usbdScsiCommand cbw).1
      (s.usbdScsiCommand cbw).2) :
    NamesItsBlocks op cbw.dCBWDataTransferLength (numBlocksOf cbwcb) := by
  rw [Msc.usbdScsiCommand] at counts
  cases op with
  | read =>
    rw [Msc.dispatch_read10 sizes media asks] at counts
    by_cases empty : cbw.dCBWDataTransferLength = 0
    · rw [if_pos empty] at counts
      have one := counts.count_eq 1 rfl
      exact ⟨one ▸ Nat.one_pos, .inr one.symm⟩
    · rw [if_neg empty] at counts
      exact ⟨counts.some_ (.inl rfl), .inl empty⟩
  | write =>
    rw [Msc.dispatch_write10 media asks] at counts
    by_cases empty : cbw.dCBWDataTransferLength = 0
    · rw [if_pos empty] at counts
      have none_ := counts.count_eq 0 rfl
      exact ⟨fun nonempty => absurd empty nonempty,
        fun some_ => absurd none_ (Nat.ne_of_lt some_)⟩
    · rw [if_neg empty] at counts
      exact ⟨fun _ => counts.some_ (.inr rfl), fun _ => empty⟩

/-- From the arrival of the command until the device is idle, the blocks are counted
exactly if and only if the host announces data for a command that has blocks, and a
read has some. -/
theorem blockCount_exact_iff (flash : Bytes) (past : List MscAct) (irq : EndpointIrq)
    (op : BlockOp) (cbw : Cbw) (cbwcb : Vector UInt8 16)
    (reached : Msc.machine.after (Msc.boot flash) past = s) (received : s.Receives irq cbw)
    (asks : cbw.command = op.command cbwcb) (media : s.pvMedia = true)
    (full : s.pui32BlockSize = storageGetBlockSize) :
    (∀ served sent t, Msc.Execution (s.handleEndpoints irq) served sent t →
      CountsBlocks op (lbaOf cbwcb) (numBlocksOf cbwcb) cbw.dCBWTag served sent t) ↔
      NamesItsBlocks op cbw.dCBWDataTransferLength (numBlocksOf cbwcb) := by
  have sizes : (s.atCommand cbw).BlockSizes := (reached ▸ Msc.blockSizes_after flash past).of_same
  rw [handleEndpoints_of_receives received]
  constructor
  · intro counts
    exact namesItsBlocks_of_counts sizes media asks (counts _ _ _ .arrives)
  · intro names served sent t execution
    have start : Counting op (lbaOf cbwcb) (numBlocksOf cbwcb) cbw.dCBWTag 0
        ((s.atCommand cbw).usbdScsiCommand cbw).1 ((s.atCommand cbw).usbdScsiCommand cbw).2 := by
      cases op with
      | read => exact Counting.arriveRead sizes media full asks rfl names
      | write => exact Counting.arriveWrite sizes media full asks rfl names
    exact (start.run execution).countsBlocks

end Arrival

/-- Reading two blocks of the partition. -/
theorem blockCount_exact_twoBlocks :
    (∀ served sent t, Msc.Execution
      ((Msc.machine.after (Msc.boot fun _ => 0) mounted).handleEndpoints
        (.command ⟨2, 1024, true, .read10 twoBlocks⟩)) served sent t →
      CountsBlocks .read 256 2 2 served sent t) ↔ NamesItsBlocks .read 1024 2 :=
  blockCount_exact_iff (fun _ => 0) mounted (.command ⟨2, 1024, true, .read10 twoBlocks⟩) .read
    ⟨2, 1024, true, .read10 twoBlocks⟩ twoBlocks rfl ⟨rfl, rfl, rfl⟩ rfl rfl rfl

/-- No block from block 256 on. -/
def noBlocks : Vector UInt8 16 := #v[0x28, 0, 0, 0, 1, 0, 0, 0, 0, 0, 0, 0, 0, 0, 0, 0]

/-- A READ(10) of no blocks for which the host announces data enters its data phase
with nothing to send. -/
theorem blockCount_exact_fails :
    ¬ ∀ (flash : Bytes) (past : List MscAct) (irq : EndpointIrq) (op : BlockOp) (cbw : Cbw)
      (cbwcb : Vector UInt8 16) (s : Msc), Msc.machine.after (Msc.boot flash) past = s →
      s.Receives irq cbw → cbw.command = op.command cbwcb → s.pvMedia = true →
      s.pui32BlockSize = storageGetBlockSize →
      ∀ served sent t, Msc.Execution (s.handleEndpoints irq) served sent t →
        CountsBlocks op (lbaOf cbwcb) (numBlocksOf cbwcb) cbw.dCBWTag served sent t := by
  intro always
  have counts := always (fun _ => 0) mounted (.command ⟨2, 512, true, .read10 noBlocks⟩) .read
    ⟨2, 512, true, .read10 noBlocks⟩ noBlocks _ rfl ⟨rfl, rfl, rfl⟩ rfl rfl rfl _ _ _ .arrives
  obtain ⟨positive, _⟩ := counts.data (.inl rfl)
  exact absurd positive (by decide)

/-- The next IN interrupt counts down from 0. -/
example : (((Msc.machine.after (Msc.boot fun _ => 0) mounted).handleEndpoints
    (.command ⟨2, 512, true, .read10 noBlocks⟩)).2.handleIn .inDone).2.ui32BytesToTransfer =
      uint32Size - 512 := by
  rfl

end TildaMk4.Usb
