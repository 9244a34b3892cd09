import TildaMk4.Lib.Bytes
import TildaMk4.Storage.Sequential

/-!
# The block protocol of `storage.c`

Block 0 is a synthesised MBR, the blocks from `FLASH_PART1_START_BLOCK` on are
those of the flash, and the range functions stop at the first block that is
refused. All arithmetic on block numbers and buffer offsets is that of 32 bits.
-/

namespace TildaMk4.Storage

open Memory

/-- `FLASH_PART1_START_BLOCK`. -/
@[simp] abbrev flashPart1StartBlock : Nat := 0x100

/-- The range of a `uint32_t`. -/
@[simp] abbrev uint32Size : Nat := 0x100000000

/-- `MICROPY_HW_BDEV_IOCTL(BDEV_IOCTL_NUM_BLOCKS, 0)`. -/
def flashBdevNumBlocks : Nat := flashMemSeg1NumBlocks

def storageGetBlockSize : Nat := flashBlockSize

def storageGetBlockCount : Nat := flashPart1StartBlock + flashBdevNumBlocks

/-- The sixteen bytes that `build_partition` stores. -/
def partitionEntry (boot type startBlock numBlocks : Nat) : List UInt8 :=
  let chs : UInt8 := if numBlocks = 0 then 0 else 0xff
  [UInt8.ofNat boot, chs, chs, chs, UInt8.ofNat type, chs, chs, chs,
    UInt8.ofNat startBlock, UInt8.ofNat (startBlock >>> 8),
    UInt8.ofNat (startBlock >>> 16), UInt8.ofNat (startBlock >>> 24),
    UInt8.ofNat numBlocks, UInt8.ofNat (numBlocks >>> 8),
    UInt8.ofNat (numBlocks >>> 16), UInt8.ofNat (numBlocks >>> 24)]

def buildPartition (buf : Bytes) (at_ boot type startBlock numBlocks : Nat) : Bytes :=
  storeBytes buf at_ (partitionEntry boot type startBlock numBlocks)

/-- The MBR branch of `storage_read_block`. -/
def fakeMbr (dest : Bytes) (at_ : Nat) : Bytes :=
  let dest := storeBytes dest at_ (List.replicate 446 0)
  let dest := buildPartition dest (at_ + 446) 0 0x01 flashPart1StartBlock flashBdevNumBlocks
  let dest := buildPartition dest (at_ + 462) 0 0 0 0
  let dest := buildPartition dest (at_ + 478) 0 0 0 0
  let dest := buildPartition dest (at_ + 494) 0 0 0 0
  storeBytes (storeBytes dest (at_ + 510) [0x55]) (at_ + 511) [0xaa]

/-- The blocks that are backed by the flash. -/
def InPartition (block : Nat) : Prop :=
  flashPart1StartBlock ≤ block ∧ block < flashPart1StartBlock + flashBdevNumBlocks

instance (block : Nat) : Decidable (InPartition block) :=
  inferInstanceAs (Decidable (_ ∧ _))

namespace Cache

def storageReadBlock (c : Cache) (dest : Bytes) (at_ block : Nat) : Bool × Bytes × Cache :=
  if block = 0 then (true, fakeMbr dest at_, c)
  else if InPartition block then c.flashBdevReadblock dest at_ (block - flashPart1StartBlock)
  else (false, dest, c)

def storageWriteBlock (c : Cache) (src : Bytes) (at_ block : Nat) : Bool × Cache :=
  if block = 0 then (true, c)
  else if InPartition block then c.flashBdevWriteblock src at_ (block - flashPart1StartBlock)
  else (false, c)

/-- The loop of `storage_read_blocks`, from index `i` with `left` blocks to go. -/
def storageReadBlocksFrom (c : Cache) (dest : Bytes) (blockNum : Nat) :
    Nat → Nat → Nat × Bytes × Cache
  | 0, _ => (0, dest, c)
  | left + 1, i =>
    match c.storageReadBlock dest (i * flashBlockSize % uint32Size)
        ((blockNum + i) % uint32Size) with
    | (true, dest', c') => storageReadBlocksFrom c' dest' blockNum left (i + 1)
    | (false, dest', c') => (1, dest', c')

def storageReadBlocks (c : Cache) (dest : Bytes) (blockNum numBlocks : Nat) :
    Nat × Bytes × Cache :=
  c.storageReadBlocksFrom dest blockNum numBlocks 0

/-- The loop of `storage_write_blocks`, from index `i` with `left` blocks to go. -/
def storageWriteBlocksFrom (c : Cache) (src : Bytes) (blockNum : Nat) : Nat → Nat → Nat × Cache
  | 0, _ => (0, c)
  | left + 1, i =>
    match c.storageWriteBlock src (i * flashBlockSize % uint32Size)
        ((blockNum + i) % uint32Size) with
    | (true, c') => storageWriteBlocksFrom c' src blockNum left (i + 1)
    | (false, c') => (1, c')

def storageWriteBlocks (c : Cache) (src : Bytes) (blockNum numBlocks : Nat) : Nat × Cache :=
  c.storageWriteBlocksFrom src blockNum numBlocks 0

end Cache

/-- The 512 bytes that a read of block 0 delivers. -/
def mbr : List UInt8 :=
  List.replicate 446 0 ++ partitionEntry 0 0x01 flashPart1StartBlock flashBdevNumBlocks ++
    partitionEntry 0 0 0 0 ++ partitionEntry 0 0 0 0 ++ partitionEntry 0 0 0 0 ++ [0x55, 0xaa]

@[simp] theorem length_partitionEntry (boot type startBlock numBlocks : Nat) :
    (partitionEntry boot type startBlock numBlocks).length = 16 := rfl

@[simp] theorem length_mbr : mbr.length = 512 := by
  simp only [mbr, List.length_append, List.length_replicate, length_partitionEntry,
    List.length_cons, List.length_nil]

theorem partitionEntry_start (boot type startBlock numBlocks : Nat) :
    (List.range 4).map (fun i => (partitionEntry boot type startBlock numBlocks).getD (8 + i) 0) =
      encodeLE 4 startBlock := by
  have positions : List.range 4 = [0, 1, 2, 3] := rfl
  simp only [positions, partitionEntry, List.map_cons, List.map_nil, encodeLE,
    Nat.shiftRight_eq_div_pow, Nat.div_div_eq_div_mul]
  rfl

theorem partitionEntry_length (boot type startBlock numBlocks : Nat) :
    (List.range 4).map (fun i => (partitionEntry boot type startBlock numBlocks).getD (12 + i) 0) =
      encodeLE 4 numBlocks := by
  have positions : List.range 4 = [0, 1, 2, 3] := rfl
  simp only [positions, partitionEntry, List.map_cons, List.map_nil, encodeLE,
    Nat.shiftRight_eq_div_pow, Nat.div_div_eq_div_mul]
  rfl

/-- The pieces of the MBR are stored one after the other, so they are one string. -/
theorem fakeMbr_eq (dest : Bytes) (at_ : Nat) : fakeMbr dest at_ = storeBytes dest at_ mbr := by
  have joined {pieces : List UInt8} (more : List UInt8) {n : Nat} (length : pieces.length = n) :
      storeBytes (storeBytes dest at_ pieces) (at_ + n) more =
        storeBytes dest at_ (pieces ++ more) := by
    rw [← length]
    exact storeBytes_append dest at_ pieces more
  have padded {pieces : List UInt8} {n : Nat} (length : pieces.length = n)
      (boot type startBlock numBlocks : Nat) :
      (pieces ++ partitionEntry boot type startBlock numBlocks).length = n + 16 := by
    rw [List.length_append, length, length_partitionEntry]
  have zeros : (List.replicate 446 (0 : UInt8)).length = 446 := List.length_replicate
  have first := padded zeros 0 0x01 flashPart1StartBlock flashBdevNumBlocks
  have fourth := padded (padded (padded first 0 0 0 0) 0 0 0 0) 0 0 0 0
  simp only [fakeMbr, buildPartition]
  rw [joined _ zeros, joined _ first, joined _ (padded first 0 0 0 0),
    joined _ (padded (padded first 0 0 0 0) 0 0 0 0), joined _ fourth,
    joined _ (by rw [List.length_append, fourth]; rfl), List.append_assoc _ [0x55]]
  rfl

end TildaMk4.Storage
