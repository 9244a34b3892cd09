import Mathlib.Data.Nat.Basic
import Mathlib.Tactic.Cases

/-!
# Geometry of the internal flash

Blocks are the 512-byte units of the file system, sectors the 4 KiB units that
the flash erases. `flashGetSectorInfo` is the table walk of the source, and
`flashGetSectorInfo_eq` its closed form below the end of the flash.
-/

namespace TildaMk4.Storage

/-- `FLASH_BLOCK_SIZE`. -/
@[simp] abbrev flashBlockSize : Nat := 512

/-- `FLASH_SECTOR_SIZE_MAX`, the size of `flash_cache_mem`. -/
@[simp] abbrev flashSectorSizeMax : Nat := 0x1000

/-- `FLASH_MEM_SEG1_NUM_BLOCKS`. -/
@[simp] abbrev flashMemSeg1NumBlocks : Nat := 2048

/-- The 1 MiB that the one entry of `flash_layout` describes. -/
@[simp] abbrev flashSize : Nat := 0x100000

/-- A `uint32_t` of -1. -/
@[simp] abbrev minusOne : Nat := 0xffffffff

structure FlashLayout where
  baseAddress : Nat
  sectorSize : Nat
  sectorCount : Nat

def flashLayout : List FlashLayout := [⟨0, 0x1000, 256⟩]

/-- What `flash_get_sector_info` reports: its result, `*start_addr` and `*size`. -/
structure SectorInfo where
  id : Nat
  start : Nat
  size : Nat
  deriving DecidableEq

/-- The inner loop, with `left` sectors of the entry still to be looked at; a
failed scan returns the sector index reached. -/
def scanSectors (layout : FlashLayout) (addr : Nat) : Nat → Nat → Nat → Except Nat SectorInfo
  | 0, _, sectorIndex => .error sectorIndex
  | left + 1, j, sectorIndex =>
    if addr < layout.baseAddress + (j + 1) * layout.sectorSize then
      .ok ⟨sectorIndex, layout.baseAddress + j * layout.sectorSize, layout.sectorSize⟩
    else scanSectors layout addr left (j + 1) (sectorIndex + 1)

def scanLayout (addr : Nat) : List FlashLayout → Nat → Option SectorInfo
  | [], _ => none
  | layout :: rest, sectorIndex =>
    match scanSectors layout addr layout.sectorCount 0 sectorIndex with
    | .ok info => some info
    | .error reached => scanLayout addr rest reached

/-- `none` is the `return 0` that leaves `*start_addr` and `*size` unwritten. -/
def flashGetSectorInfo (addr : Nat) : Option SectorInfo :=
  match flashLayout with
  | [] => none
  | first :: _ => if first.baseAddress ≤ addr then scanLayout addr flashLayout 0 else none

def convertBlockToFlashAddr (block : Nat) : Nat :=
  if block < flashMemSeg1NumBlocks then block * flashBlockSize else minusOne

theorem scanSectors_of_lt (count size addr left : Nat) :
    ∀ j, j * size ≤ addr → addr < (j + left) * size →
      scanSectors ⟨0, size, count⟩ addr left j j =
        .ok ⟨addr / size, addr / size * size, size⟩ := by
  induction left with
  | zero =>
    intro j low high
    simp only [Nat.add_zero] at high
    omega
  | succ left ih =>
    intro j low high
    simp only [scanSectors, Nat.zero_add]
    split
    next here =>
      have index : addr / size = j :=
        Nat.div_eq_of_lt_le low (by simpa [Nat.succ_eq_add_one] using here)
      rw [index]
    next beyond =>
      exact ih (j + 1) (by omega) (by rwa [Nat.add_right_comm, Nat.add_assoc])

/-- Below the end of the flash the table walk finds the sector by division. -/
theorem flashGetSectorInfo_eq {addr : Nat} (inside : addr < flashSize) :
    flashGetSectorInfo addr = some ⟨addr / 0x1000, addr / 0x1000 * 0x1000, 0x1000⟩ := by
  have scan := scanSectors_of_lt 256 0x1000 addr 256 0 (by omega) (by simpa using inside)
  simp only [flashGetSectorInfo, flashLayout, Nat.zero_le, if_true, scanLayout]
  rw [scan]

@[simp] theorem convertBlockToFlashAddr_of_lt {block : Nat}
    (valid : block < flashMemSeg1NumBlocks) :
    convertBlockToFlashAddr block = block * flashBlockSize := if_pos valid

theorem block_addr_ne_minusOne {block : Nat} (valid : block < flashMemSeg1NumBlocks) :
    block * flashBlockSize ≠ minusOne := by
  simp only [flashMemSeg1NumBlocks, flashBlockSize, minusOne] at valid ⊢
  omega

@[simp] theorem convertBlockToFlashAddr_eq_minusOne_iff (block : Nat) :
    convertBlockToFlashAddr block = minusOne ↔ flashMemSeg1NumBlocks ≤ block := by
  simp only [convertBlockToFlashAddr, flashMemSeg1NumBlocks, flashBlockSize, minusOne]
  split <;> omega

end TildaMk4.Storage
