import TildaMk4.Usb.MassStorage

/-!
# What the status of READ(10) and WRITE(10) says

Once such a command has found media, one block is moved for each interrupt and
the status that ends it is 0 whatever the storage answered. `Progress` follows
the command from interrupt to interrupt, through any other use of the device.
-/

namespace TildaMk4.Usb

open Storage Transition

/-- The result of `storage_read_blocks` and `storage_write_blocks` for one block. -/
def storageResult (block : Nat) : Nat := if ValidBlock block then 0 else 1

@[simp] theorem storageResult_eq_zero_iff (block : Nat) :
    storageResult block = 0 ↔ ValidBlock block := by
  simp [storageResult]

theorem convertBlock_ne_minusOne {block : Nat} (inside : InPartition block) :
    convertBlockToFlashAddr (block - flashPart1StartBlock) ≠ minusOne := by
  intro outside
  have beyond := (convertBlockToFlashAddr_eq_minusOne_iff _).mp outside
  simp only [InPartition, flashPart1StartBlock, flashBdevNumBlocks, flashMemSeg1NumBlocks]
    at inside beyond
  omega

/-- Whether a block can be read does not depend on the state of the cache. -/
theorem storageReadBlock_succeeds (c : Cache) (dest : Bytes) (at_ : Nat) {block : Nat}
    (valid : ValidBlock block) : (c.storageReadBlock dest at_ block).1 = true := by
  unfold Cache.storageReadBlock
  split
  next => rfl
  next nonzero =>
    have inside : InPartition block := valid.resolve_left nonzero
    rw [if_pos inside]
    simp only [Cache.flashBdevReadblock, if_neg (convertBlock_ne_minusOne inside)]

theorem storageWriteBlock_succeeds (c : Cache) (src : Bytes) (at_ : Nat) {block : Nat}
    (valid : ValidBlock block) : (c.storageWriteBlock src at_ block).1 = true := by
  unfold Cache.storageWriteBlock
  split
  next => rfl
  next nonzero =>
    have inside : InPartition block := valid.resolve_left nonzero
    rw [if_pos inside]
    simp only [Cache.flashBdevWriteblock, if_neg (convertBlock_ne_minusOne inside)]

theorem storageReadBlocks_one (c : Cache) (dest : Bytes) {block : Nat}
    (small : block < uint32Size) :
    (c.storageReadBlocks dest block 1).1 = storageResult block := by
  have same : (block + 0) % uint32Size = block := Nat.mod_eq_of_lt small
  simp only [Cache.storageReadBlocks, Cache.storageReadBlocksFrom, same, storageResult]
  split
  next dest' c' read =>
    rw [if_pos]
    by_contra bad
    rw [storageReadBlock_invalid c dest _ bad] at read
    exact Bool.false_ne_true (congrArg Prod.fst read)
  next dest' c' read =>
    rw [if_neg]
    intro valid
    have succeeds := storageReadBlock_succeeds c dest (0 * flashBlockSize % uint32Size) valid
    rw [read] at succeeds
    exact Bool.false_ne_true succeeds

theorem storageWriteBlocks_one (c : Cache) (src : Bytes) {block : Nat}
    (small : block < uint32Size) :
    (c.storageWriteBlocks src block 1).1 = storageResult block := by
  have same : (block + 0) % uint32Size = block := Nat.mod_eq_of_lt small
  simp only [Cache.storageWriteBlocks, Cache.storageWriteBlocksFrom, same, storageResult]
  split
  next c' write =>
    rw [if_pos]
    by_contra bad
    rw [storageWriteBlock_invalid c src _ bad] at write
    exact Bool.false_ne_true (congrArg Prod.fst write)
  next c' write =>
    rw [if_neg]
    intro valid
    have succeeds := storageWriteBlock_succeeds c src (0 * flashBlockSize % uint32Size) valid
    rw [write] at succeeds
    exact Bool.false_ne_true succeeds

theorem blockRead_sent {s : Msc} (small : s.ui32CurrentLBA < uint32Size) :
    s.blockRead.2.1 = [.storageRead s.ui32CurrentLBA (storageResult s.ui32CurrentLBA)] := by
  rw [← storageReadBlocks_one s.adapter.cache s.pui32Buffer small]
  rfl

theorem blockWrite_sent {s : Msc} (small : s.ui32CurrentLBA < uint32Size) :
    s.blockWrite.2.1 = [.storageWrite s.ui32CurrentLBA (storageResult s.ui32CurrentLBA)] := by
  rw [← storageWriteBlocks_one s.adapter.cache s.pui32Buffer small]
  rfl

inductive BlockOp
  | read
  | write

namespace BlockOp

def command : BlockOp → Vector UInt8 16 → ScsiCommand
  | read => .read10
  | write => .write10

/-- The call of the storage function for one block, with its result. -/
def call : BlockOp → Nat → Nat → MscEvent
  | read => .storageRead
  | write => .storageWrite

def scsiState : BlockOp → ScsiState
  | read => .sendBlocks
  | write => .receiveBlocks

/-- The first block of a read is read when the command arrives. -/
def ahead : BlockOp → Nat
  | read => 1
  | write => 0

/-- What is done for one block. -/
def transfer (op : BlockOp) (block : Nat) : List MscEvent :=
  match op with
  | read => [.storageRead block (storageResult block), .dmaIn]
  | write => [.storageWrite block (storageResult block)]

def transfers (op : BlockOp) (lba numBlocks : Nat) : List MscEvent :=
  (List.range numBlocks).flatMap fun i => op.transfer (blockAt lba i)

theorem transfers_zero (op : BlockOp) (lba : Nat) : op.transfers lba 0 = [] := rfl

theorem transfers_succ (op : BlockOp) (lba numBlocks : Nat) :
    op.transfers lba (numBlocks + 1) =
      op.transfers lba numBlocks ++ op.transfer (blockAt lba numBlocks) := by
  simp only [transfers, List.range_succ, List.flatMap_append, List.flatMap_cons, List.flatMap_nil,
    List.append_nil]

theorem call_mem_transfers {op : BlockOp} {lba numBlocks block result : Nat} :
    op.call block result ∈ op.transfers lba numBlocks ↔
      ∃ i < numBlocks, block = blockAt lba i ∧ result = storageResult block := by
  simp only [transfers, List.mem_flatMap, List.mem_range]
  refine exists_congr fun i => and_congr_right fun _ => ?_
  cases op with
  | read =>
    simp only [call, transfer, List.mem_cons, MscEvent.storageRead.injEq, reduceCtorEq,
      List.not_mem_nil, or_false]
    exact and_congr_right fun same => by rw [same]
  | write =>
    simp only [call, transfer, List.mem_cons, MscEvent.storageWrite.injEq, List.not_mem_nil,
      or_false]
    exact and_congr_right fun same => by rw [same]

theorem csw_not_mem_transfers (op : BlockOp) (lba numBlocks : Nat) (csw : Csw) :
    .csw csw ∉ op.transfers lba numBlocks := by
  simp only [transfers, List.mem_flatMap, not_exists, not_and]
  intro i _
  cases op <;> simp [transfer]

end BlockOp

variable {s : Msc} {op : BlockOp} {lba numBlocks total done : Nat}

/-- The data phase after `done` interrupts; the last one is number `total`. -/
structure Moving (op : BlockOp) (lba numBlocks total done : Nat) (s : Msc) : Prop where
  state : s.ui8SCSIState = op.scsiState
  bytes : s.ui32BytesToTransfer = s.pui32BlockSize * (numBlocks - done)
  small : s.pui32BlockSize * numBlocks < uint32Size
  current : s.ui32CurrentLBA = blockAt lba done
  inside : done < total
  bound : total ≤ numBlocks
  last : s.pui32BlockSize = 0 ∧ total = 1 ∨ s.pui32BlockSize ≠ 0 ∧ total = numBlocks

/-- How far a command has come that moves the blocks `moved` and ends with
`status`, after it has sent `sent`. -/
inductive Progress (op : BlockOp) (lba numBlocks : Nat) (moved : List MscEvent) (status : Nat) :
    List MscEvent → Msc → Prop where
  | moving {s : Msc} {total done : Nat} : Moving op lba numBlocks total done s →
      moved = op.transfers lba total → status = 0 →
      Progress op lba numBlocks moved status (op.transfers lba (done + op.ahead)) s
  | waiting {s : Msc} : s.ui8SCSIState = .sendStatus → s.sScsiCsw.bCSWStatus = status →
      Progress op lba numBlocks moved status moved s
  | ended {s : Msc} (csw : Csw) (later : List MscEvent) : csw.bCSWStatus = status →
      Progress op lba numBlocks moved status (moved ++ .csw csw :: later) s

theorem Moving.countBlock_bytes (moving : Moving op lba numBlocks total done s) :
    s.countBlock.ui32BytesToTransfer = s.pui32BlockSize * (numBlocks - (done + 1)) := by
  have rest : numBlocks - done = numBlocks - (done + 1) + 1 := by
    have := moving.inside
    have := moving.bound
    omega
  have less : s.pui32BlockSize * (numBlocks - done) ≤ s.pui32BlockSize * numBlocks :=
    Nat.mul_le_mul_left _ (Nat.sub_le _ _)
  have small := moving.small
  simp only [Msc.countBlock, moving.bytes]
  rw [rest, Nat.mul_succ] at less ⊢
  generalize s.pui32BlockSize * (numBlocks - (done + 1)) = left at less ⊢
  generalize s.pui32BlockSize * numBlocks = all at less small
  simp only [uint32Size] at small ⊢
  omega

theorem Moving.countBlock_eq_zero_iff (moving : Moving op lba numBlocks total done s) :
    s.countBlock.ui32BytesToTransfer = 0 ↔ done + 1 = total := by
  have inside := moving.inside
  rw [moving.countBlock_bytes, Nat.mul_eq_zero]
  rcases moving.last with ⟨zero, one⟩ | ⟨nonzero, all⟩
  · simp only [zero, true_or, true_iff]
    omega
  · simp only [nonzero, false_or]
    omega

theorem blockAt_succ (lba done : Nat) :
    (blockAt lba done + 1) % uint32Size = blockAt lba (done + 1) := by
  simp only [blockAt, uint32Size]
  omega

theorem blockAt_lt (lba i : Nat) : blockAt lba i < uint32Size :=
  Nat.mod_lt _ (by decide)

theorem Moving.of_same {s' : Msc} (moving : Moving op lba numBlocks total done s)
    (state : s'.ui8SCSIState = s.ui8SCSIState := by rfl)
    (size : s'.pui32BlockSize = s.pui32BlockSize := by rfl)
    (bytes : s'.ui32BytesToTransfer = s.ui32BytesToTransfer := by rfl)
    (current : s'.ui32CurrentLBA = s.ui32CurrentLBA := by rfl) :
    Moving op lba numBlocks total done s' where
  state := state.trans moving.state
  bytes := by rw [bytes, size, moving.bytes]
  small := size ▸ moving.small
  current := current.trans moving.current
  inside := moving.inside
  bound := moving.bound
  last := size ▸ moving.last

theorem Moving.advance (moving : Moving op lba numBlocks total done s)
    (more : s.countBlock.ui32BytesToTransfer ≠ 0) :
    Moving op lba numBlocks total (done + 1) s.countBlock.nextBlock where
  state := moving.state
  bytes := moving.countBlock_bytes
  small := moving.small
  current := by
    rw [← blockAt_succ, ← moving.current]
    rfl
  inside := by
    have inside := moving.inside
    have notLast : done + 1 ≠ total := fun last => more (moving.countBlock_eq_zero_iff.mpr last)
    omega
  bound := moving.bound
  last := moving.last

variable {moved sent : List MscEvent} {status : Nat}

theorem Progress.quiet (progress : Progress op lba numBlocks moved status sent s) :
    Progress op lba numBlocks moved status (sent ++ []) s := by
  rwa [List.append_nil]

/-- An IN interrupt with blocks left reads the next one. -/
theorem Moving.sendBlock_more (moving : Moving .read lba numBlocks total done s)
    (more : s.countBlock.ui32BytesToTransfer ≠ 0) (irq : EndpointIrq) :
    s.sendBlock irq = (BlockOp.read.transfer (blockAt lba (done + 1)),
      s.countBlock.nextBlock.blockRead.2.2) := by
  have advanced := moving.advance more
  have sent := blockRead_sent (s := s.countBlock.nextBlock)
    (advanced.current ▸ blockAt_lt lba (done + 1))
  rw [Msc.sendBlock, if_neg more]
  simp only [Msc.andThen, sent, advanced.current, BlockOp.transfer, List.cons_append,
    List.nil_append]

/-- An OUT interrupt writes the block that it announces. -/
theorem Moving.blockWrite_sent (moving : Moving .write lba numBlocks total done s)
    (received : Bytes) :
    (s.countBlock.setBuffer received).blockWrite.2.1 =
      BlockOp.write.transfer (blockAt lba done) := by
  have current : (s.countBlock.setBuffer received).ui32CurrentLBA = blockAt lba done :=
    moving.current
  rw [Usb.blockWrite_sent (current ▸ blockAt_lt lba done), current]
  rfl

/-- An IN interrupt while blocks are sent: the next block is read, or the status is due. -/
theorem Moving.sendBlock (moving : Moving .read lba numBlocks total done s) (irq : EndpointIrq) :
    Progress .read lba numBlocks (BlockOp.read.transfers lba total) 0
      (BlockOp.read.transfers lba (done + 1) ++ (s.sendBlock irq).1) (s.sendBlock irq).2 := by
  by_cases finished : s.countBlock.ui32BytesToTransfer = 0
  · rw [Msc.sendBlock, if_pos finished, moving.countBlock_eq_zero_iff.mp finished]
    split
    next => exact Progress.quiet (.waiting rfl rfl)
    next => exact .ended _ [] rfl
  · have next : Moving .read lba numBlocks total (done + 1) s.countBlock.nextBlock.blockRead.2.2 :=
      (moving.advance finished).of_same
    rw [moving.sendBlock_more finished irq, ← BlockOp.transfers_succ]
    exact .moving next rfl rfl

/-- An OUT interrupt while blocks are received: the block is written, and after
the last one the status goes out. -/
theorem Moving.receiveBlock (moving : Moving .write lba numBlocks total done s)
    (irq : EndpointIrq) :
    Progress .write lba numBlocks (BlockOp.write.transfers lba total) 0
      (BlockOp.write.transfers lba done ++ (s.receiveBlock irq).1) (s.receiveBlock irq).2 := by
  simp only [Msc.receiveBlock, Msc.andThen, moving.blockWrite_sent irq.received]
  rw [← List.append_assoc, ← BlockOp.transfers_succ]
  split
  next finished =>
    rw [moving.countBlock_eq_zero_iff.mp finished]
    exact .ended _ [] rfl
  next more =>
    have next : Moving .write lba numBlocks total (done + 1)
        (s.countBlock.setBuffer irq.received).blockWrite.2.2.nextBlock :=
      (moving.advance more).of_same
    exact Progress.quiet (.moving next rfl rfl)

theorem Progress.handleIn (progress : Progress op lba numBlocks moved status sent s)
    (irq : EndpointIrq) :
    Progress op lba numBlocks moved status (sent ++ (s.handleIn irq).1) (s.handleIn irq).2 := by
  cases progress with
  | moving moving whole success =>
    subst whole success
    unfold Msc.handleIn
    rw [moving.state]
    split
    next =>
      cases op with
      | read => exact moving.sendBlock irq
      | write => exact Progress.quiet (.moving moving rfl rfl)
    next => exact Progress.quiet (.moving moving rfl rfl)
  | waiting state status =>
    unfold Msc.handleIn
    rw [state]
    split
    next => exact .ended _ [] status
    next => exact Progress.quiet (.waiting state status)
  | ended csw later status =>
    rw [List.append_assoc, List.cons_append]
    exact .ended csw _ status

theorem Progress.handleOut (progress : Progress op lba numBlocks moved status sent s)
    (irq : EndpointIrq) :
    Progress op lba numBlocks moved status (sent ++ (s.handleOut irq).1) (s.handleOut irq).2 := by
  cases progress with
  | moving moving whole success =>
    subst whole success
    unfold Msc.handleOut
    rw [moving.state]
    split
    next =>
      cases op with
      | read => exact Progress.quiet (.moving moving rfl rfl)
      | write => exact moving.receiveBlock irq
    next => exact Progress.quiet (.moving moving rfl rfl)
  | waiting state status =>
    unfold Msc.handleOut
    rw [state]
    split <;> exact Progress.quiet (.waiting state status)
  | ended csw later status =>
    rw [List.append_assoc, List.cons_append]
    exact .ended csw _ status

theorem Progress.of_same {s' : Msc} (progress : Progress op lba numBlocks moved status sent s)
    (state : s'.ui8SCSIState = s.ui8SCSIState := by rfl)
    (size : s'.pui32BlockSize = s.pui32BlockSize := by rfl)
    (bytes : s'.ui32BytesToTransfer = s.ui32BytesToTransfer := by rfl)
    (current : s'.ui32CurrentLBA = s.ui32CurrentLBA := by rfl)
    (csw : s'.sScsiCsw = s.sScsiCsw := by rfl) :
    Progress op lba numBlocks moved status sent s' := by
  cases progress with
  | moving moving whole success =>
    exact .moving (moving.of_same state size bytes current) whole success
  | waiting waits status => exact .waiting (state.trans waits) (csw ▸ status)
  | ended csw later status => exact .ended csw later status

/-- Nothing but an interrupt moves a command forward, and nothing turns it aside. -/
theorem Progress.perform (progress : Progress op lba numBlocks moved status sent s)
    (act : MscAct) :
    Progress op lba numBlocks moved status (sent ++ (s.perform act).1) (s.perform act).2 := by
  cases act with
  | endpoints irq =>
    have both := (progress.handleIn irq).handleOut irq
    rwa [List.append_assoc] at both
  | disconnect =>
    refine Progress.quiet (progress.of_same ?_ ?_ ?_ ?_ ?_) <;>
      simp only [Msc.perform, Msc.handleDisconnect] <;> split <;> rfl
  | configChange => exact progress.quiet
  | enableUsb => exact Progress.quiet (progress.of_same)
  | disableUsb => exact Progress.quiet (progress.of_same)
  | storage cache => exact Progress.quiet (progress.of_same)

theorem Progress.run (progress : Progress op lba numBlocks moved status sent s)
    (acts : List MscAct) :
    Progress op lba numBlocks moved status (sent ++ (Msc.machine.answers s acts).flatten)
      (Msc.machine.after s acts) :=
  Msc.machine.outputs_keep (Progress op lba numBlocks moved status)
    (fun act progress => progress.perform act) acts progress

/-- The interrupt delivers the command `cbw` to an idle device. -/
def Msc.Receives (s : Msc) (irq : EndpointIrq) (cbw : Cbw) : Prop :=
  (s.handleIn irq).2.ui8SCSIState = .idle ∧
    (irq.outStatus || (s.handleIn irq).2.flagDmaOut && irq.outDmaComplete) = true ∧
    irq.packet = some cbw

/-- The state in which `USBDSCSICommand` is called. -/
def Msc.atCommand (s : Msc) (cbw : Cbw) : Msc :=
  { s.setState .idle with sScsiCsw := ⟨cbw.dCBWTag, 0, 0⟩ }

theorem setState_idle (idle : s.ui8SCSIState = .idle) : s.setState .idle = s := by
  rw [← idle]
  rfl

theorem handleIn_idle {irq : EndpointIrq} (idle : (s.handleIn irq).2.ui8SCSIState = .idle) :
    (s.handleIn irq).1 = [] ∧ (s.handleIn irq).2 = s.setState .idle := by
  revert idle
  unfold Msc.handleIn
  split
  next =>
    split
    next state =>
      intro idle
      unfold Msc.sendBlock at idle
      split at idle
      next => split at idle <;> exact nomatch idle
      next => exact nomatch state.symm.trans idle
    next => exact fun impossible => nomatch impossible
    next => exact fun _ => ⟨rfl, rfl⟩
    next => exact fun idle => ⟨rfl, (setState_idle idle).symm⟩
  next => exact fun idle => ⟨rfl, (setState_idle idle).symm⟩

theorem handleEndpoints_of_receives {irq : EndpointIrq} {cbw : Cbw} (received : s.Receives irq cbw) :
    s.handleEndpoints irq = (s.atCommand cbw).usbdScsiCommand cbw := by
  obtain ⟨idle, fires, packet⟩ := received
  obtain ⟨nothing, same⟩ := handleIn_idle idle
  have command : (s.setState .idle).handleOut irq = (s.atCommand cbw).usbdScsiCommand cbw := by
    rw [same] at fires
    rw [Msc.handleOut, if_pos fires]
    change (s.setState .idle).receiveCommand irq = _
    rw [Msc.receiveCommand, packet]
    rfl
  simp only [Msc.handleEndpoints, Msc.andThen, nothing, same, List.nil_append, command]

theorem lbaOf_lt (cbwcb : Vector UInt8 16) : lbaOf cbwcb < uint32Size := by
  have := cbwcb[2].toNat_lt
  have := cbwcb[3].toNat_lt
  have := cbwcb[4].toNat_lt
  have := cbwcb[5].toNat_lt
  simp only [lbaOf, uint32Size]
  omega

theorem numBlocksOf_lt (cbwcb : Vector UInt8 16) : numBlocksOf cbwcb < 0x10000 := by
  have := cbwcb[7].toNat_lt
  have := cbwcb[8].toNat_lt
  simp only [numBlocksOf]
  omega

theorem blockAt_lbaOf_zero (cbwcb : Vector UInt8 16) :
    blockAt (lbaOf cbwcb) 0 = lbaOf cbwcb := by
  rw [blockAt, Nat.add_zero, Nat.mod_eq_of_lt (lbaOf_lt cbwcb)]

/-- How many blocks a command moves that finds media, from the block size and the
transfer length of the host. -/
def blocksMoved (op : BlockOp) (blockSize length numBlocks : Nat) : Nat :=
  match op with
  | .read => if length = 0 ∨ blockSize = 0 then 1 else numBlocks
  | .write => if length = 0 then 0 else if blockSize = 0 then 1 else numBlocks

section Start

variable {irq : EndpointIrq} {cbw : Cbw} {cbwcb : Vector UInt8 16}

theorem Moving.start (t : Msc) {blockSize : Nat} (sizes : t.BlockSizes)
    (some_ : 0 < numBlocksOf cbwcb) (size : t.pui32BlockSize = blockSize)
    (state : t.ui8SCSIState = op.scsiState) (current : t.ui32CurrentLBA = lbaOf cbwcb)
    (bytes : t.ui32BytesToTransfer = blockSize * numBlocksOf cbwcb % uint32Size) :
    Moving op (lbaOf cbwcb) (numBlocksOf cbwcb)
      (if blockSize = 0 then 1 else numBlocksOf cbwcb) 0 t := by
  subst size
  have small : t.pui32BlockSize * numBlocksOf cbwcb < uint32Size := by
    have := numBlocksOf_lt cbwcb
    simp only [uint32Size]
    rcases sizes.device with zero | full
    · rw [zero]
      omega
    · rw [full]
      omega
  refine ⟨state, by rw [bytes, Nat.mod_eq_of_lt small, Nat.sub_zero], small,
    by rw [current, blockAt_lbaOf_zero], ?_, ?_, ?_⟩
  · split
    next => exact Nat.one_pos
    next => exact some_
  · split
    next => exact some_
    next => exact Nat.le_refl _
  · split
    next zero => exact .inl ⟨zero, rfl⟩
    next nonzero => exact .inr ⟨nonzero, rfl⟩

/-- What follows the dispatch of a READ(10), once `t` is the state after its first block. -/
theorem Progress.afterFirstRead (t : Msc) (sizes : t.BlockSizes) (some_ : 0 < numBlocksOf cbwcb)
    (current : t.ui32CurrentLBA = lbaOf cbwcb) (success : t.sScsiCsw.bCSWStatus = 0)
    (length : Nat) (result : List MscEvent × Msc)
    (read : result = (BlockOp.read.transfers (lbaOf cbwcb) 1,
      ((t.setFlagDmaIn true).schedule (numBlocksOf cbwcb)).setState .sendBlocks)) :
    Progress .read (lbaOf cbwcb) (numBlocksOf cbwcb)
      (BlockOp.read.transfers (lbaOf cbwcb)
        (blocksMoved .read t.pui32BlockSize length (numBlocksOf cbwcb))) 0
      (if length = 0 then Msc.andThen result Msc.usbdScsiSendStatus else result).1
      (if length = 0 then Msc.andThen result Msc.usbdScsiSendStatus else result).2 := by
  subst read
  split
  next empty =>
    rw [blocksMoved, if_pos (.inl empty)]
    exact .ended _ [] success
  next nonempty =>
    have moving : Moving .read (lbaOf cbwcb) (numBlocksOf cbwcb)
        (if t.pui32BlockSize = 0 then 1 else numBlocksOf cbwcb) 0
        (((t.setFlagDmaIn true).schedule (numBlocksOf cbwcb)).setState .sendBlocks) :=
      Moving.start _ sizes.setFlagDmaIn.schedule.setState some_ rfl rfl current rfl
    exact .moving moving (by simp only [blocksMoved, nonempty, false_or]) rfl

theorem Msc.dispatch_read10 (sizes : s.BlockSizes) (media : s.pvMedia = true)
    (asks : cbw.command = .read10 cbwcb) :
    s.dispatch cbw = (BlockOp.read.transfers (lbaOf cbwcb) 1,
      (((s.setCurrentLBA (lbaOf cbwcb)).blockRead.2.2.setFlagDmaIn true).schedule
        (numBlocksOf cbwcb)).setState .sendBlocks) := by
  have claimed : (s.setCurrentLBA (lbaOf cbwcb)).blockRead.1 ≠ 0 := by
    have bytes : (s.setCurrentLBA (lbaOf cbwcb)).blockRead.1 =
      1 * s.adapter.blockSize % uint32Size := rfl
    rw [bytes, sizes.media media]
    decide
  have sent : (s.setCurrentLBA (lbaOf cbwcb)).blockRead.2.1 =
      [.storageRead (lbaOf cbwcb) (storageResult (lbaOf cbwcb))] :=
    blockRead_sent (s := s.setCurrentLBA (lbaOf cbwcb)) (lbaOf_lt cbwcb)
  rw [BlockOp.transfers_succ, BlockOp.transfers_zero, blockAt_lbaOf_zero]
  simp only [Msc.dispatch, asks, Msc.usbdScsiRead10, media, if_true, if_neg claimed, Msc.andThen,
    sent, BlockOp.transfer, List.cons_append, List.nil_append]

theorem Msc.dispatch_write10 (media : s.pvMedia = true) (asks : cbw.command = .write10 cbwcb) :
    s.dispatch cbw = ([], (((s.setCurrentLBA (lbaOf cbwcb)).schedule
      (numBlocksOf cbwcb)).setState .receiveBlocks).setFlagDmaOut true) := by
  simp only [Msc.dispatch, asks, Msc.usbdScsiWrite10, media, if_true]

theorem Progress.startRead (sizes : s.BlockSizes) (media : s.pvMedia = true)
    (success : s.sScsiCsw.bCSWStatus = 0) (asks : cbw.command = .read10 cbwcb)
    (some_ : 0 < numBlocksOf cbwcb) :
    Progress .read (lbaOf cbwcb) (numBlocksOf cbwcb)
      (BlockOp.read.transfers (lbaOf cbwcb)
        (blocksMoved .read s.pui32BlockSize cbw.dCBWDataTransferLength (numBlocksOf cbwcb)))
      0 (s.usbdScsiCommand cbw).1 (s.usbdScsiCommand cbw).2 := by
  have kept := (sizes.setCurrentLBA (lbaOf cbwcb)).blockRead
  have current : (s.setCurrentLBA (lbaOf cbwcb)).blockRead.2.2.ui32CurrentLBA = lbaOf cbwcb := by
    simp only [Msc.blockRead_ui32CurrentLBA, Msc.setCurrentLBA_ui32CurrentLBA]
  have unfailed : (s.setCurrentLBA (lbaOf cbwcb)).blockRead.2.2.sScsiCsw.bCSWStatus = 0 := by
    rw [Msc.blockRead_sScsiCsw, Msc.setCurrentLBA_sScsiCsw, success]
  have started := Progress.afterFirstRead _ kept some_ current unfailed
    cbw.dCBWDataTransferLength _ (Msc.dispatch_read10 sizes media asks)
  rw [Msc.blockRead_pui32BlockSize, Msc.setCurrentLBA_pui32BlockSize] at started
  exact started

theorem Progress.startWrite (sizes : s.BlockSizes) (media : s.pvMedia = true)
    (success : s.sScsiCsw.bCSWStatus = 0) (asks : cbw.command = .write10 cbwcb)
    (some_ : 0 < numBlocksOf cbwcb) :
    Progress .write (lbaOf cbwcb) (numBlocksOf cbwcb)
      (BlockOp.write.transfers (lbaOf cbwcb)
        (blocksMoved .write s.pui32BlockSize cbw.dCBWDataTransferLength (numBlocksOf cbwcb)))
      0 (s.usbdScsiCommand cbw).1 (s.usbdScsiCommand cbw).2 := by
  have kept := sizes.dispatch cbw
  unfold Msc.usbdScsiCommand
  rw [Msc.dispatch_write10 media asks] at kept ⊢
  split
  next empty =>
    rw [blocksMoved, if_pos empty]
    exact .ended _ [] success
  next nonempty =>
    have moving : Moving .write (lbaOf cbwcb) (numBlocksOf cbwcb)
        (if s.pui32BlockSize = 0 then 1 else numBlocksOf cbwcb) 0 _ :=
      Moving.start _ kept some_ rfl rfl rfl rfl
    exact .moving moving (by rw [blocksMoved, if_neg nonempty]) rfl

theorem Progress.start (sizes : s.BlockSizes) (received : s.Receives irq cbw)
    (media : s.pvMedia = true) (asks : cbw.command = op.command cbwcb)
    (some_ : 0 < numBlocksOf cbwcb) :
    Progress op (lbaOf cbwcb) (numBlocksOf cbwcb)
      (op.transfers (lbaOf cbwcb)
        (blocksMoved op s.pui32BlockSize cbw.dCBWDataTransferLength (numBlocksOf cbwcb)))
      0 (s.handleEndpoints irq).1 (s.handleEndpoints irq).2 := by
  have atCommand : (s.atCommand cbw).BlockSizes := sizes.of_same
  rw [handleEndpoints_of_receives received]
  cases op with
  | read => exact Progress.startRead atCommand media rfl asks some_
  | write => exact Progress.startWrite atCommand media rfl asks some_

theorem Progress.startNoMedia (received : s.Receives irq cbw) (noMedia : s.pvMedia = false)
    (asks : cbw.command = op.command cbwcb) :
    ∃ endpoint, Progress op (lbaOf cbwcb) (numBlocksOf cbwcb) [.stall endpoint] 1
      (s.handleEndpoints irq).1 (s.handleEndpoints irq).2 := by
  have missing : (s.atCommand cbw).pvMedia = false := noMedia
  have result : ∃ endpoint, (s.atCommand cbw).dispatch cbw =
      (s.atCommand cbw).failNoMedia endpoint := by
    cases op with
    | read => exact ⟨.inEndpoint, by simp [Msc.dispatch, asks, BlockOp.command,
        Msc.usbdScsiRead10, missing]⟩
    | write => exact ⟨.outEndpoint, by simp [Msc.dispatch, asks, BlockOp.command,
        Msc.usbdScsiWrite10, missing]⟩
  obtain ⟨endpoint, result⟩ := result
  refine ⟨endpoint, ?_⟩
  rw [handleEndpoints_of_receives received, Msc.usbdScsiCommand, result]
  split
  next => exact .ended _ [] rfl
  next => exact .waiting rfl rfl

end Start

/-- The command transfers all the blocks that it addresses: the host announces data, and
the block size has been queried since the first open. -/
def MovesEveryBlock (op : BlockOp) (blockSize length numBlocks : Nat) : Prop :=
  match op with
  | .read => numBlocks = 1 ∨ length ≠ 0 ∧ blockSize ≠ 0
  | .write => length ≠ 0 ∧ (numBlocks = 1 ∨ blockSize ≠ 0)

theorem blocksMoved_eq_iff (op : BlockOp) (blockSize length : Nat) (some_ : 0 < numBlocks) :
    blocksMoved op blockSize length numBlocks = numBlocks ↔
      MovesEveryBlock op blockSize length numBlocks := by
  cases op with
  | read =>
    simp only [blocksMoved, MovesEveryBlock]
    split <;> omega
  | write =>
    simp only [blocksMoved, MovesEveryBlock]
    split
    next => omega
    next => split <;> omega

theorem blocksMoved_le (op : BlockOp) (blockSize length : Nat) (some_ : 0 < numBlocks) :
    blocksMoved op blockSize length numBlocks ≤ numBlocks := by
  cases op with
  | read =>
    simp only [blocksMoved]
    split <;> omega
  | write =>
    simp only [blocksMoved]
    split
    next => omega
    next => split <;> omega

/-- What the status of a command may say about the storage calls that it made. -/
structure Truthful (op : BlockOp) (lba numBlocks : Nat) (sent : List MscEvent) (csw : Csw) :
    Prop where
  transferred : csw.bCSWStatus = 0 → ∀ i < numBlocks, op.call (blockAt lba i) 0 ∈ sent
  noneFailed : csw.bCSWStatus = 0 → ∀ block result, op.call block result ∈ sent → result = 0
  refused : (∃ i < numBlocks, ¬ ValidBlock (blockAt lba i)) → csw.bCSWStatus ≠ 0

theorem blockAt_inj {i j : Nat} (iSmall : i < uint32Size) (jSmall : j < uint32Size)
    (same : blockAt lba i = blockAt lba j) : i = j := by
  simp only [blockAt, uint32Size] at *
  omega

/-- A command that reports success after `total` blocks is right exactly if these
are all of its blocks and the storage accepts every one of them. -/
theorem truthful_iff {csw : Csw} (success : csw.bCSWStatus = 0) (some_ : 0 < numBlocks)
    (small : numBlocks < 0x10000) (bound : total ≤ numBlocks) :
    Truthful op lba numBlocks (op.transfers lba total) csw ↔
      total = numBlocks ∧ ∀ i < numBlocks, ValidBlock (blockAt lba i) := by
  constructor
  · intro truthful
    refine ⟨?_, ?_⟩
    · obtain ⟨j, before, same, _⟩ := BlockOp.call_mem_transfers.mp
        (truthful.transferred success (numBlocks - 1) (by omega))
      have last := blockAt_inj (by simp only [uint32Size]; omega)
        (by simp only [uint32Size]; omega) same
      omega
    · intro i inside
      by_contra bad
      exact truthful.refused ⟨i, inside, bad⟩ success
  · rintro ⟨rfl, valid⟩
    refine ⟨fun _ i inside => ?_, fun _ block result made => ?_, fun ⟨i, inside, bad⟩ => ?_⟩
    · exact BlockOp.call_mem_transfers.mpr ⟨i, inside, rfl,
        ((storageResult_eq_zero_iff _).mpr (valid i inside)).symm⟩
    · obtain ⟨i, inside, rfl, rfl⟩ := BlockOp.call_mem_transfers.mp made
      exact (storageResult_eq_zero_iff _).mpr (valid i inside)
    · exact absurd (valid i inside) bad

/-- The first status that goes out is that of the command, after its data phase. -/
theorem Progress.first_csw {before later : List MscEvent} {csw : Csw}
    (progress : Progress op lba numBlocks moved status (before ++ .csw csw :: later) s)
    (first : ∀ c, .csw c ∉ before) (clean : ∀ c, .csw c ∉ moved) :
    before = moved ∧ csw.bCSWStatus = status := by
  generalize events : before ++ MscEvent.csw csw :: later = sent at progress
  have within : .csw csw ∈ sent := events ▸ List.mem_append_right _ (List.mem_cons_self ..)
  cases progress with
  | moving => exact absurd within (BlockOp.csw_not_mem_transfers _ _ _ _)
  | waiting => exact absurd within (clean csw)
  | ended csw' later' ends =>
    rcases List.append_eq_append_iff.mp events with ⟨gap, left, right⟩ | ⟨gap, left, right⟩
    · cases gap with
      | nil => exact ⟨by simpa using left.symm, by cases right; exact ends⟩
      | cons e gap =>
        cases right
        exact absurd (left ▸ List.mem_append_right _ (List.mem_cons_self ..)) (clean csw)
    · cases gap with
      | nil => exact ⟨by simpa using left, by cases right; exact ends⟩
      | cons e gap =>
        cases right
        exact absurd (left ▸ List.mem_append_right _ (List.mem_cons_self ..)) (first csw')

/-- The status of a READ(10) or WRITE(10) tells the truth exactly if there is no
media, or all the blocks are transferred and the storage accepts them all. -/
theorem status_truthful_iff (flash : Bytes) (past rest : List MscAct) (irq : EndpointIrq)
    (op : BlockOp) (cbw : Cbw) (cbwcb : Vector UInt8 16) (before later : List MscEvent) (csw : Csw)
    (reached : Msc.machine.after (Msc.boot flash) past = s) (received : s.Receives irq cbw)
    (asks : cbw.command = op.command cbwcb) (some_ : 0 < numBlocksOf cbwcb)
    (events : (Msc.machine.answers s (.endpoints irq :: rest)).flatten =
      before ++ .csw csw :: later)
    (first : ∀ c, .csw c ∉ before) :
    Truthful op (lbaOf cbwcb) (numBlocksOf cbwcb) before csw ↔
      s.pvMedia = false ∨
        MovesEveryBlock op s.pui32BlockSize cbw.dCBWDataTransferLength (numBlocksOf cbwcb) ∧
        ∀ i < numBlocksOf cbwcb, ValidBlock (blockAt (lbaOf cbwcb) i) := by
  have sizes : s.BlockSizes := reached ▸ Msc.blockSizes_after flash past
  cases media : s.pvMedia with
  | false =>
    obtain ⟨endpoint, started⟩ := Progress.startNoMedia received media asks
    have run := started.run rest
    rw [show _ ++ _ = _ from events] at run
    obtain ⟨_, failed⟩ := run.first_csw first (by simp)
    have failure : csw.bCSWStatus ≠ 0 := by omega
    simp only [true_or, iff_true]
    exact ⟨fun success => absurd success failure, fun success => absurd success failure,
      fun _ => failure⟩
  | true =>
    have run := (Progress.start sizes received media asks some_).run rest
    rw [show _ ++ _ = _ from events] at run
    obtain ⟨rfl, success⟩ := run.first_csw first
      fun c => BlockOp.csw_not_mem_transfers _ _ _ c
    simp only [Bool.true_eq_false, false_or]
    rw [truthful_iff success some_ (numBlocksOf_lt cbwcb) (blocksMoved_le _ _ _ some_),
      blocksMoved_eq_iff _ _ _ some_]

def EndpointIrq.none : EndpointIrq where
  inStatus := false
  inDmaComplete := false
  txPktRdy := false
  outStatus := false
  outDmaComplete := false
  received := fun _ => 0
  packet := .none

def EndpointIrq.inDone : EndpointIrq := { EndpointIrq.none with inStatus := true }

def EndpointIrq.command (cbw : Cbw) : EndpointIrq :=
  { EndpointIrq.none with outStatus := true, packet := some cbw }

/-- The disk has been enabled and opened by TEST UNIT READY. -/
def mounted : List MscAct :=
  [.enableUsb, .endpoints (.command ⟨1, 0, false, .testUnitReady⟩), .endpoints .inDone]

/-- Two blocks from the first block of the partition on. -/
def twoBlocks : Vector UInt8 16 := #v[0x28, 0, 0, 0, 1, 0, 0, 0, 2, 0, 0, 0, 0, 0, 0, 0]

/-- Block 1, which lies between the MBR and the partition. -/
def badBlock : Vector UInt8 16 := #v[0x28, 0, 0, 0, 0, 1, 0, 0, 1, 0, 0, 0, 0, 0, 0, 0]

/-- Reading two blocks of the partition. -/
theorem status_truthful_partition :
    Truthful .read 256 2
        [.storageRead 256 0, .dmaIn, .storageRead 257 0, .dmaIn] ⟨2, 0, 0⟩ ↔
      (Msc.machine.after (Msc.boot fun _ => 0) mounted).pvMedia = false ∨
        MovesEveryBlock .read 512 1024 2 ∧ ∀ i < 2, ValidBlock (blockAt 256 i) :=
  status_truthful_iff (fun _ => 0) mounted [.endpoints .inDone, .endpoints .inDone]
    (.command ⟨2, 1024, true, .read10 twoBlocks⟩) .read ⟨2, 1024, true, .read10 twoBlocks⟩
    twoBlocks [.storageRead 256 0, .dmaIn, .storageRead 257 0, .dmaIn] [] ⟨2, 0, 0⟩ rfl
    ⟨rfl, rfl, rfl⟩ rfl (by decide) (by decide) (by simp)

/-- Block 1 is reported as read although `storage_read_blocks` refused it. -/
theorem status_truthful_fails :
    ¬ ∀ (flash : Bytes) (past rest : List MscAct) (irq : EndpointIrq) (op : BlockOp) (cbw : Cbw)
      (cbwcb : Vector UInt8 16) (before later : List MscEvent) (csw : Csw),
      (Msc.machine.after (Msc.boot flash) past).Receives irq cbw →
      cbw.command = op.command cbwcb → 0 < numBlocksOf cbwcb →
      (Msc.machine.answers (Msc.machine.after (Msc.boot flash) past)
        (.endpoints irq :: rest)).flatten = before ++ .csw csw :: later →
      (∀ c, .csw c ∉ before) →
      Truthful op (lbaOf cbwcb) (numBlocksOf cbwcb) before csw := by
  intro always
  have truthful := always (fun _ => 0) mounted [.endpoints .inDone]
    (.command ⟨2, 512, true, .read10 badBlock⟩) .read ⟨2, 512, true, .read10 badBlock⟩ badBlock
    [.storageRead 1 1, .dmaIn] [] ⟨2, 0, 0⟩ ⟨rfl, rfl, rfl⟩ rfl (by decide) (by decide)
    (by simp)
  exact truthful.refused ⟨0, by decide, by decide⟩ rfl

end TildaMk4.Usb
