import Mathlib.Data.Nat.Find
import TildaMk4.Lib.Transition
import TildaMk4.Storage.Blocks

/-!
# The storage stack is a flat disk

The abstract side is an array of blocks without a cache, a buffer or a flush. The
block functions of `storage.c` over the cache give the same results for every
sequence of operations, with a turn of the flush thread anywhere between them.
-/

namespace TildaMk4.Storage

open Memory Transition

/-- The blocks that may be addressed: the MBR and those of the partition. -/
def ValidBlock (block : Nat) : Prop := block = 0 ∨ InPartition block

instance (block : Nat) : Decidable (ValidBlock block) :=
  inferInstanceAs (Decidable (_ ∨ _))

/-- Block `i` of a range, computed modulo 2^32. -/
def blockAt (first i : Nat) : Nat := (first + i) % uint32Size

/-- How many blocks of a range come before its first invalid one. -/
def transferred (first count : Nat) : Nat :=
  Nat.find (p := fun k => k = count ∨ ¬ ValidBlock (blockAt first k)) ⟨count, .inl rfl⟩

theorem transferred_eq_of_valid {first count : Nat}
    (valid : ∀ j < count, ValidBlock (blockAt first j)) : transferred first count = count :=
  (Nat.find_eq_iff _).mpr ⟨.inl rfl, fun j earlier stop =>
    stop.elim (fun same => absurd same (Nat.ne_of_lt earlier)) (fun bad => bad (valid j earlier))⟩

theorem transferred_eq_of_invalid {first count k : Nat} (inside : k < count)
    (valid : ∀ j < k, ValidBlock (blockAt first j)) (bad : ¬ ValidBlock (blockAt first k)) :
    transferred first count = k :=
  (Nat.find_eq_iff _).mpr ⟨.inr bad, fun j earlier stop =>
    stop.elim (fun same => by omega) (fun bad => bad (valid j earlier))⟩

theorem transferred_eq_iff (first count : Nat) :
    transferred first count = count ↔ ∀ i < count, ValidBlock (blockAt first i) := by
  refine ⟨fun complete i inside => ?_, transferred_eq_of_valid⟩
  have earlier := Nat.find_min (p := fun k => k = count ∨ ¬ ValidBlock (blockAt first k))
    ⟨count, .inl rfl⟩ (m := i) (by rw [← transferred, complete]; exact inside)
  exact not_not.mp fun bad => earlier (.inr bad)

theorem lt_of_validBlocks {first i : Nat} (small : first < uint32Size)
    (valid : ∀ j ≤ i, ValidBlock (blockAt first j)) : i < flashMemSeg1NumBlocks := by
  by_contra long
  have start := valid 0 (Nat.zero_le i)
  have second := valid 1 (by simp only [flashMemSeg1NumBlocks] at long; omega)
  have last := valid (2304 - first) (by
    simp only [flashMemSeg1NumBlocks, ValidBlock, InPartition, blockAt, flashPart1StartBlock,
      flashBdevNumBlocks, uint32Size] at *
    omega)
  simp only [flashMemSeg1NumBlocks, ValidBlock, InPartition, blockAt, flashPart1StartBlock,
    flashBdevNumBlocks, uint32Size] at *
  omega

/-- A flat array of blocks, indexed by the block numbers of `storage.c`. -/
abbrev FlatDisk := Nat → Bytes

namespace FlatDisk

/-- The array that a flash content stands for. -/
def ofFlash (flash : Bytes) : FlatDisk :=
  fun block i => flash ((block - flashPart1StartBlock) * flashBlockSize + i)

/-- What a block reads as: block 0 is the MBR whatever was written to it. -/
def block (disk : FlatDisk) (number : Nat) : Bytes :=
  if number = 0 then fun i => mbr.getD i 0 else disk number

/-- `dest` after the first `k` blocks of a range were read into it. -/
def filled (disk : FlatDisk) (dest : Bytes) (first k : Nat) : Bytes :=
  fun a => if a < k * flashBlockSize then
    disk.block (blockAt first (a / flashBlockSize)) (a % flashBlockSize) else dest a

/-- The disk after the first `k` blocks of a range were written from `src`; the
block `number` has index `number - first` modulo 2^32 in the range. -/
def written (disk : FlatDisk) (src : Bytes) (first k : Nat) : FlatDisk :=
  fun number =>
    let i := (number + uint32Size - first) % uint32Size
    if i < k then fun j => src (i * flashBlockSize + j) else disk number

def result (first count : Nat) : Nat := if transferred first count = count then 0 else 1

def read (disk : FlatDisk) (dest : Bytes) (first count : Nat) : Nat × Bytes :=
  (result first count, disk.filled dest first (transferred first count))

def write (disk : FlatDisk) (src : Bytes) (first count : Nat) : Nat × FlatDisk :=
  (result first count, disk.written src first (transferred first count))

theorem result_eq_one_iff (first count : Nat) :
    result first count = 1 ↔ ∃ i < count, ¬ ValidBlock (blockAt first i) := by
  unfold result
  split
  next complete =>
    have valid := (transferred_eq_iff first count).mp complete
    exact ⟨fun impossible => (nomatch impossible),
      fun ⟨i, inside, bad⟩ => absurd (valid i inside) bad⟩
  next incomplete =>
    rw [transferred_eq_iff] at incomplete
    push Not at incomplete
    exact ⟨fun _ => incomplete, fun _ => rfl⟩

@[simp] theorem filled_zero (disk : FlatDisk) (dest : Bytes) (first : Nat) :
    disk.filled dest first 0 = dest := by
  funext a
  simp [filled]

@[simp] theorem written_zero (disk : FlatDisk) (src : Bytes) (first : Nat) :
    disk.written src first 0 = disk := by
  funext number
  simp [written]

theorem filled_succ (disk : FlatDisk) (dest : Bytes) (first i : Nat) :
    blit (disk.filled dest first i) (i * flashBlockSize) (disk.block (blockAt first i)) 0
      flashBlockSize = disk.filled dest first (i + 1) := by
  funext a
  unfold blit filled
  simp only [flashBlockSize]
  split_ifs
  any_goals omega
  · have quotient : a / 512 = i := by omega
    have remainder : 0 + (a - i * 512) = a % 512 := by omega
    rw [quotient, remainder]
  · rfl
  · rfl

theorem written_succ (disk : FlatDisk) (src : Bytes) {first i number : Nat}
    (firstSmall : first < uint32Size) (indexSmall : i < uint32Size)
    (numberSmall : number < uint32Size) :
    disk.written src first (i + 1) number =
      if number = blockAt first i then fun j => src (i * flashBlockSize + j)
      else disk.written src first i number := by
  simp only [written, blockAt, uint32Size] at *
  by_cases here : number = (first + i) % 0x100000000
  · have index : (number + 0x100000000 - first) % 0x100000000 = i := by omega
    rw [if_pos here, index, if_pos (by omega)]
  · rw [if_neg here]
    have index : (number + 0x100000000 - first) % 0x100000000 ≠ i := by omega
    by_cases before : (number + 0x100000000 - first) % 0x100000000 < i
    · rw [if_pos before, if_pos (by omega)]
    · rw [if_neg before, if_neg (by omega)]

end FlatDisk

/-- The cache stands for the disk. -/
structure Represents (c : Cache) (disk : FlatDisk) : Prop where
  wf : c.WF
  data : ∀ number, InPartition number → ∀ i < flashBlockSize,
    c.contents ((number - flashPart1StartBlock) * flashBlockSize + i) = disk number i

theorem represents_init (flash : Bytes) : Represents (Cache.init flash) (.ofFlash flash) where
  wf := Cache.wf_init flash
  data _ _ _ _ := by rw [Cache.contents_init]; rfl

theorem Represents.of_sameContents {c c' : Cache} {disk : FlatDisk} (rep : Represents c disk)
    (same : c.SameContents c') : Represents c' disk :=
  ⟨same.wf, fun number inside i bound => by rw [same.contents, rep.data number inside i bound]⟩

theorem inPartition_sub_lt {block : Nat} (inside : InPartition block) :
    block - flashPart1StartBlock < flashMemSeg1NumBlocks := by
  simp only [InPartition, flashPart1StartBlock, flashBdevNumBlocks, flashMemSeg1NumBlocks] at *
  omega

theorem Represents.storageReadBlock {c : Cache} {disk : FlatDisk} (rep : Represents c disk)
    (dest : Bytes) (at_ : Nat) {block : Nat} (valid : ValidBlock block) :
    ∃ c', c.storageReadBlock dest at_ block =
        (true, blit dest at_ (disk.block block) 0 flashBlockSize, c') ∧
      Represents c' disk := by
  unfold Cache.storageReadBlock FlatDisk.block
  split
  next => exact ⟨c, by rw [fakeMbr_eq, storeBytes, length_mbr], rep⟩
  next other =>
    have inside := valid.resolve_left other
    obtain ⟨c', reads, same⟩ := rep.wf.flashBdevReadblock dest at_ (inPartition_sub_lt inside)
    rw [if_pos inside]
    refine ⟨c', ?_, rep.of_sameContents same⟩
    have delivered : blit dest at_ c.contents ((block - flashPart1StartBlock) * flashBlockSize)
        flashBlockSize = blit dest at_ (disk block) 0 flashBlockSize :=
      blit_congr_src fun i bound => by rw [rep.data block inside i bound, Nat.zero_add]
    rw [reads, delivered]

theorem Represents.storageWriteBlock {c : Cache} {disk disk' : FlatDisk} (rep : Represents c disk)
    (src : Bytes) (at_ : Nat) {block : Nat} (valid : ValidBlock block)
    (updated : ∀ number, InPartition number → disk' number =
      if number = block then fun j => src (at_ + j) else disk number) :
    ∃ c', c.storageWriteBlock src at_ block = (true, c') ∧ Represents c' disk' := by
  unfold Cache.storageWriteBlock
  split
  next isMbr =>
    refine ⟨c, rfl, rep.wf, fun number inside i bound => ?_⟩
    have other : number ≠ block := by
      have low := inside.1
      simp only [flashPart1StartBlock] at low
      omega
    rw [updated number inside, if_neg other, rep.data number inside i bound]
  next other =>
    have inside := valid.resolve_left other
    obtain ⟨c', writes, wf, contents⟩ :=
      rep.wf.flashBdevWriteblock src at_ (inPartition_sub_lt inside)
    rw [if_pos inside]
    refine ⟨c', writes, wf, fun number member i bound => ?_⟩
    rw [contents, updated number member]
    have low := inside.1
    have low' := member.1
    simp only [flashPart1StartBlock, flashBlockSize] at low low' bound ⊢
    split
    next same =>
      rw [same, blit_offset bound]
    next different =>
      rw [blit_outside (by omega)]
      exact rep.data number member i bound

theorem storageReadBlock_invalid (c : Cache) (dest : Bytes) (at_ : Nat) {block : Nat}
    (bad : ¬ ValidBlock block) : c.storageReadBlock dest at_ block = (false, dest, c) := by
  simp only [ValidBlock, not_or] at bad
  simp only [Cache.storageReadBlock, if_neg bad.1, if_neg bad.2]

theorem storageWriteBlock_invalid (c : Cache) (src : Bytes) (at_ : Nat) {block : Nat}
    (bad : ¬ ValidBlock block) : c.storageWriteBlock src at_ block = (false, c) := by
  simp only [ValidBlock, not_or] at bad
  simp only [Cache.storageWriteBlock, if_neg bad.1, if_neg bad.2]

/-- The buffer offset of a block that is reached does not wrap. -/
theorem offset_mod_eq {first i : Nat} (small : first < uint32Size)
    (valid : ∀ j ≤ i, ValidBlock (blockAt first j)) :
    i * flashBlockSize % uint32Size = i * flashBlockSize := by
  have bound := lt_of_validBlocks small valid
  simp only [flashMemSeg1NumBlocks, flashBlockSize, uint32Size] at bound ⊢
  omega

theorem forall_le_of_forall_lt {p : Nat → Prop} {i : Nat} (before : ∀ j < i, p j) (here : p i) :
    ∀ j ≤ i, p j :=
  fun _ le => (Nat.lt_or_eq_of_le le).elim (before _) (fun same => same ▸ here)

/-- The read loop entered at index `i` with the blocks before `i` transferred. -/
theorem Represents.storageReadBlocksFrom {disk : FlatDisk} {first : Nat} (dest : Bytes)
    (small : first < uint32Size) (left : Nat) :
    ∀ {c : Cache} (i : Nat), Represents c disk → (∀ j < i, ValidBlock (blockAt first j)) →
      ∃ c', c.storageReadBlocksFrom (disk.filled dest first i) first left i =
          (FlatDisk.result first (i + left),
            disk.filled dest first (transferred first (i + left)), c') ∧
        Represents c' disk := by
  induction left with
  | zero =>
    intro c i rep valid
    have complete := transferred_eq_of_valid valid
    refine ⟨c, ?_, rep⟩
    simp only [Cache.storageReadBlocksFrom, Nat.add_zero, FlatDisk.result, complete, if_true]
  | succ left ih =>
    intro c i rep valid
    by_cases good : ValidBlock (blockAt first i)
    · have upTo := forall_le_of_forall_lt valid good
      obtain ⟨c₁, reads, rep₁⟩ := rep.storageReadBlock (disk.filled dest first i)
        (i * flashBlockSize) good
      obtain ⟨c', rest, rep'⟩ := ih (i + 1) rep₁ (fun j earlier => upTo j (by omega))
      refine ⟨c', ?_, rep'⟩
      have step : (first + i) % uint32Size = blockAt first i := rfl
      rw [Cache.storageReadBlocksFrom, offset_mod_eq small upTo, step, reads]
      simp only [FlatDisk.filled_succ, rest, Nat.add_assoc, Nat.add_comm 1 left]
    · have stops : transferred first (i + (left + 1)) = i :=
        transferred_eq_of_invalid (by omega) valid good
      have step : (first + i) % uint32Size = blockAt first i := rfl
      refine ⟨c, ?_, rep⟩
      rw [Cache.storageReadBlocksFrom, step, storageReadBlock_invalid _ _ _ good]
      simp only [FlatDisk.result, stops, if_neg (show i ≠ i + (left + 1) by omega)]

/-- The write loop entered at index `i` with the blocks before `i` transferred. -/
theorem Represents.storageWriteBlocksFrom {disk : FlatDisk} {first : Nat} (src : Bytes)
    (small : first < uint32Size) (left : Nat) :
    ∀ {c : Cache} (i : Nat), Represents c (disk.written src first i) →
      (∀ j < i, ValidBlock (blockAt first j)) →
      ∃ c', c.storageWriteBlocksFrom src first left i =
          (FlatDisk.result first (i + left), c') ∧
        Represents c' (disk.written src first (transferred first (i + left))) := by
  induction left with
  | zero =>
    intro c i rep valid
    have complete := transferred_eq_of_valid valid
    refine ⟨c, ?_, ?_⟩
    · simp only [Cache.storageWriteBlocksFrom, Nat.add_zero, FlatDisk.result, complete, if_true]
    · simpa only [Nat.add_zero, complete] using rep
  | succ left ih =>
    intro c i rep valid
    have step : (first + i) % uint32Size = blockAt first i := rfl
    by_cases good : ValidBlock (blockAt first i)
    · have upTo := forall_le_of_forall_lt valid good
      have bound := lt_of_validBlocks small upTo
      obtain ⟨c₁, writes, rep₁⟩ : ∃ c₁,
          c.storageWriteBlock src (i * flashBlockSize) (blockAt first i) = (true, c₁) ∧
            Represents c₁ (disk.written src first (i + 1)) := rep.storageWriteBlock src _ good
        (fun number inside => disk.written_succ src small
          (by simp only [flashMemSeg1NumBlocks, uint32Size] at bound ⊢; omega)
          (by
            have high := inside.2
            simp only [flashPart1StartBlock, flashBdevNumBlocks, flashMemSeg1NumBlocks,
              uint32Size] at high ⊢
            omega))
      obtain ⟨c', rest, rep'⟩ := ih (i + 1) rep₁ (fun j earlier => upTo j (by omega))
      have count : i + 1 + left = i + (left + 1) := by omega
      rw [count] at rest rep'
      refine ⟨c', ?_, rep'⟩
      rw [Cache.storageWriteBlocksFrom, offset_mod_eq small upTo, step, writes]
      exact rest
    · have stops : transferred first (i + (left + 1)) = i :=
        transferred_eq_of_invalid (by omega) valid good
      refine ⟨c, ?_, by rw [stops]; exact rep⟩
      rw [Cache.storageWriteBlocksFrom, step, storageWriteBlock_invalid _ _ _ good]
      simp only [FlatDisk.result, stops, if_neg (show i ≠ i + (left + 1) by omega)]

theorem Represents.storageReadBlocks {c : Cache} {disk : FlatDisk} (rep : Represents c disk)
    (dest : Bytes) {first : Nat} (small : first < uint32Size) (count : Nat) :
    ∃ c', c.storageReadBlocks dest first count =
        ((disk.read dest first count).1, (disk.read dest first count).2, c') ∧
      Represents c' disk := by
  obtain ⟨c', reads, rep'⟩ := Represents.storageReadBlocksFrom dest small count 0 rep
    (fun j impossible => absurd impossible (Nat.not_lt_zero j))
  rw [FlatDisk.filled_zero, Nat.zero_add] at reads
  exact ⟨c', reads, rep'⟩

theorem Represents.storageWriteBlocks {c : Cache} {disk : FlatDisk} (rep : Represents c disk)
    (src : Bytes) {first : Nat} (small : first < uint32Size) (count : Nat) :
    ∃ c', c.storageWriteBlocks src first count = ((disk.write src first count).1, c') ∧
      Represents c' (disk.write src first count).2 := by
  rw [← disk.written_zero src first] at rep
  obtain ⟨c', writes, rep'⟩ := Represents.storageWriteBlocksFrom src small count 0 rep
    (fun j impossible => absurd impossible (Nat.not_lt_zero j))
  rw [Nat.zero_add] at writes rep'
  exact ⟨c', writes, rep'⟩

/-- The calls on the storage stack. `storageFlush` is `BDEV_IOCTL_SYNC`, and
`flushTurn` a turn of the flush thread on its own. -/
inductive StorageOp
  | readBlocks (dest : Bytes) (blockNum numBlocks : UInt32)
  | writeBlocks (src : Bytes) (blockNum numBlocks : UInt32)
  | storageFlush
  | flushTurn

/-- What the caller observes: the result, and the memory that was read into. -/
inductive StorageAnswer
  | read (result : Nat) (dest : Bytes)
  | write (result : Nat)
  | done

def Cache.machine : Machine Cache StorageOp StorageAnswer where
  perform
    | c, .readBlocks dest blockNum numBlocks =>
      let (result, dest', c') := c.storageReadBlocks dest blockNum.toNat numBlocks.toNat
      (.read result dest', c')
    | c, .writeBlocks src blockNum numBlocks =>
      let (result, c') := c.storageWriteBlocks src blockNum.toNat numBlocks.toNat
      (.write result, c')
    | c, .storageFlush => (.done, c.flashBdevSync)
    | c, .flushTurn => (.done, c.flushThreadTurn)

def FlatDisk.machine : Machine FlatDisk StorageOp StorageAnswer where
  perform
    | disk, .readBlocks dest blockNum numBlocks =>
      let (result, dest') := disk.read dest blockNum.toNat numBlocks.toNat
      (.read result dest', disk)
    | disk, .writeBlocks src blockNum numBlocks =>
      let (result, disk') := disk.write src blockNum.toNat numBlocks.toNat
      (.write result, disk')
    | disk, .storageFlush => (.done, disk)
    | disk, .flushTurn => (.done, disk)

theorem uint32_toNat_lt (n : UInt32) : n.toNat < uint32Size := n.toNat_lt

theorem Represents.simulates (c : Cache) (disk : FlatDisk) (op : StorageOp)
    (rep : Represents c disk) :
    Machine.Simulates Cache.machine FlatDisk.machine Represents c disk op := by
  cases op with
  | readBlocks dest blockNum numBlocks =>
    obtain ⟨c', reads, rep'⟩ :=
      rep.storageReadBlocks dest (uint32_toNat_lt blockNum) numBlocks.toNat
    simp only [Machine.Simulates, Cache.machine, FlatDisk.machine, reads]
    exact ⟨trivial, rep'⟩
  | writeBlocks src blockNum numBlocks =>
    obtain ⟨c', writes, rep'⟩ :=
      rep.storageWriteBlocks src (uint32_toNat_lt blockNum) numBlocks.toNat
    simp only [Machine.Simulates, Cache.machine, FlatDisk.machine, writes]
    exact ⟨trivial, rep'⟩
  | storageFlush => exact ⟨rfl, rep.of_sameContents rep.wf.flashBdevSync⟩
  | flushTurn => exact ⟨rfl, rep.of_sameContents rep.wf.flushThreadTurn⟩

theorem represents_after (flash : Bytes) (ops : List StorageOp) :
    Represents (Cache.machine.after (Cache.init flash) ops)
      (FlatDisk.machine.after (.ofFlash flash) ops) :=
  (Machine.answers_eq_of_simulates Represents.simulates ops (represents_init flash)).2

/-- The four bytes at `at_`, as a little-endian number. -/
def uint32At (m : Bytes) (at_ : Nat) : Nat :=
  decodeLE ((List.range 4).map fun i => m (at_ + i))

/-- The flash address of the first byte of a block of the partition. -/
def flashAddrOf (block : Nat) : Nat :=
  convertBlockToFlashAddr (block - flashPart1StartBlock)

theorem flashAddrOf_eq {block : Nat} (inside : InPartition block) :
    flashAddrOf block = (block - flashPart1StartBlock) * flashBlockSize :=
  convertBlockToFlashAddr_of_lt (inPartition_sub_lt inside)

theorem existsUnique_block {a : Nat} (inside : a < flashSize) :
    ∃! block, InPartition block ∧ flashAddrOf block ≤ a ∧
      a < flashAddrOf block + flashBlockSize := by
  have member : InPartition (a / 512 + 256) := by
    simp only [InPartition, flashPart1StartBlock, flashBdevNumBlocks, flashMemSeg1NumBlocks,
      flashSize] at *
    omega
  refine ⟨a / 512 + 256, ⟨member, ?_⟩, fun block ⟨other, low, high⟩ => ?_⟩
  · rw [flashAddrOf_eq member]
    simp only [flashPart1StartBlock, flashBlockSize]
    omega
  · have start := other.1
    rw [flashAddrOf_eq other] at low high
    simp only [flashPart1StartBlock, flashBlockSize] at low high start ⊢
    omega

theorem flashAddrOf_add_le {block : Nat} (inside : InPartition block) :
    flashAddrOf block + flashBlockSize ≤ flashSize := by
  have bound := inPartition_sub_lt inside
  rw [flashAddrOf_eq inside]
  simp only [flashMemSeg1NumBlocks, flashBlockSize, flashSize] at bound ⊢
  omega

theorem flashAddrOf_disjoint {block other : Nat} (inside : InPartition block)
    (inside' : InPartition other) (distinct : block ≠ other) :
    flashAddrOf block + flashBlockSize ≤ flashAddrOf other ∨
      flashAddrOf other + flashBlockSize ≤ flashAddrOf block := by
  rw [flashAddrOf_eq inside, flashAddrOf_eq inside']
  have low := inside.1
  have low' := inside'.1
  simp only [flashPart1StartBlock, flashBlockSize] at low low' ⊢
  omega

/-- The block that a range stops at is its first invalid one. -/
theorem transferred_spec {first count : Nat}
    (bad : ∃ i < count, ¬ ValidBlock (blockAt first i)) :
    transferred first count < count ∧ ¬ ValidBlock (blockAt first (transferred first count)) ∧
      ∀ j < transferred first count, ValidBlock (blockAt first j) := by
  have stop := Nat.find_spec (p := fun k => k = count ∨ ¬ ValidBlock (blockAt first k))
    ⟨count, .inl rfl⟩
  have earlier {j : Nat} := Nat.find_min (p := fun k => k = count ∨ ¬ ValidBlock (blockAt first k))
    ⟨count, .inl rfl⟩ (m := j)
  have incomplete : transferred first count ≠ count := by
    rw [Ne, transferred_eq_iff]
    push Not
    exact bad
  have below : transferred first count ≤ count := Nat.find_min' _ (.inl rfl)
  exact ⟨Nat.lt_of_le_of_ne below incomplete, stop.resolve_left incomplete,
    fun j before => not_not.mp fun invalid => earlier before (.inr invalid)⟩

theorem Represents.readBlocks_result {c : Cache} {disk : FlatDisk} (rep : Represents c disk)
    (dest : Bytes) (first count : UInt32) :
    (c.storageReadBlocks dest first.toNat count.toNat).1 = 1 ↔
      ∃ i < count.toNat, ¬ ValidBlock (blockAt first.toNat i) := by
  obtain ⟨c', reads, _⟩ := rep.storageReadBlocks dest (uint32_toNat_lt first) count.toNat
  rw [reads]
  exact FlatDisk.result_eq_one_iff _ _

theorem Represents.writeBlocks_result {c : Cache} {disk : FlatDisk} (rep : Represents c disk)
    (src : Bytes) (first count : UInt32) :
    (c.storageWriteBlocks src first.toNat count.toNat).1 = 1 ↔
      ∃ i < count.toNat, ¬ ValidBlock (blockAt first.toNat i) := by
  obtain ⟨c', writes, _⟩ := rep.storageWriteBlocks src (uint32_toNat_lt first) count.toNat
  rw [writes]
  exact FlatDisk.result_eq_one_iff _ _

theorem Represents.readBlocks_mbr {c : Cache} {disk : FlatDisk} (rep : Represents c disk)
    (dest : Bytes) {a : Nat} (inside : a < flashBlockSize) :
    (c.storageReadBlocks dest 0 1).2.1 a = mbr.getD a 0 := by
  obtain ⟨c', reads, _⟩ := rep.storageReadBlocks dest (show 0 < uint32Size by decide) 1
  have one : transferred 0 1 = 1 :=
    transferred_eq_of_valid fun j first => by
      rw [Nat.lt_one_iff.mp first]
      exact .inl rfl
  simp only [flashBlockSize] at inside
  simp only [reads, FlatDisk.read, one, FlatDisk.filled, FlatDisk.block, blockAt, flashBlockSize]
  have index : a / 512 = 0 := by omega
  have position : a % 512 = a := by omega
  rw [if_pos (by omega), index, position]
  rfl

/-- Behind the boot code the first partition entry begins. -/
theorem mbr_getD (k : Nat) (inside : k < 16) :
    mbr.getD (446 + k) 0 =
      (partitionEntry 0 0x01 flashPart1StartBlock flashBdevNumBlocks).getD k 0 := by
  have boot : (List.replicate 446 (0 : UInt8)).length = 446 := List.length_replicate
  simp only [mbr, List.append_assoc]
  rw [List.getD_append_right _ _ _ _ (by omega), boot, Nat.add_sub_cancel_left,
    List.getD_append _ _ _ _ (by rw [length_partitionEntry]; exact inside)]

theorem Represents.uint32At_mbr {c : Cache} {disk : FlatDisk} (rep : Represents c disk)
    (dest : Bytes) :
    uint32At (c.storageReadBlocks dest 0 1).2.1 (446 + 8) = flashPart1StartBlock ∧
      uint32At (c.storageReadBlocks dest 0 1).2.1 (446 + 12) = flashBdevNumBlocks := by
  have field (at_ : Nat) (inside : at_ + 4 ≤ 16) :
      (List.range 4).map (fun i => (c.storageReadBlocks dest 0 1).2.1 (446 + at_ + i)) =
        (List.range 4).map fun i =>
          (partitionEntry 0 0x01 flashPart1StartBlock flashBdevNumBlocks).getD (at_ + i) 0 :=
    List.map_congr_left fun i member => by
      have bound := List.mem_range.mp member
      rw [rep.readBlocks_mbr dest (by simp only [flashBlockSize]; omega), Nat.add_assoc,
        mbr_getD _ (by omega)]
  constructor
  · rw [uint32At, field _ (by decide), partitionEntry_start, decodeLE_encodeLE (by decide)]
  · rw [uint32At, field _ (by decide), partitionEntry_length, decodeLE_encodeLE (by decide)]

/-- The storage stack is a flat disk, whatever calls were made before. -/
theorem storageStack_isFlatDisk (flash : Bytes) (ops : List StorageOp) :
    Cache.machine.answers (Cache.init flash) ops =
        FlatDisk.machine.answers (.ofFlash flash) ops ∧
      (∀ (memory : Bytes) (first count : UInt32),
        let c := Cache.machine.after (Cache.init flash) ops
        let bad := ∃ i < count.toNat, ¬ ValidBlock (blockAt first.toNat i)
        ((c.storageReadBlocks memory first.toNat count.toNat).1 = 1 ↔ bad) ∧
          ((c.storageWriteBlocks memory first.toNat count.toNat).1 = 1 ↔ bad) ∧
          (bad → transferred first.toNat count.toNat < count.toNat ∧
            ¬ ValidBlock (blockAt first.toNat (transferred first.toNat count.toNat)) ∧
            ∀ j < transferred first.toNat count.toNat, ValidBlock (blockAt first.toNat j)) ∧
          uint32At (c.storageReadBlocks memory 0 1).2.1 (446 + 8) = 256 ∧
          uint32At (c.storageReadBlocks memory 0 1).2.1 (446 + 12) = flashBdevNumBlocks) ∧
      storageGetBlockCount = 256 + flashBdevNumBlocks ∧
      (∀ block, InPartition block → flashAddrOf block + flashBlockSize ≤ flashSize) ∧
      (∀ block other, InPartition block → InPartition other → block ≠ other →
        flashAddrOf block + flashBlockSize ≤ flashAddrOf other ∨
          flashAddrOf other + flashBlockSize ≤ flashAddrOf block) ∧
      ∀ a < flashSize, ∃! block, InPartition block ∧ flashAddrOf block ≤ a ∧
        a < flashAddrOf block + flashBlockSize := by
  have rep := represents_after flash ops
  refine ⟨(Machine.answers_eq_of_simulates Represents.simulates ops (represents_init flash)).1,
    fun memory first count => ?_, rfl, fun _ => flashAddrOf_add_le, fun _ _ => flashAddrOf_disjoint,
    fun _ => existsUnique_block⟩
  have ⟨start, length⟩ := rep.uint32At_mbr memory
  exact ⟨rep.readBlocks_result memory first count, rep.writeBlocks_result memory first count,
    transferred_spec, start, length⟩

end TildaMk4.Storage
