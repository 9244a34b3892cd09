import TildaMk4.Storage.Cache

/-!
# What the cache stands for

`contents` is the flash as a reader should see it: the flash itself, overlaid by
the buffer where a sector is cached. Every statement of the cache code is
described once by what it does to `contents`; the sequential refinement and the
interleaved invariants both use these descriptions.
-/

namespace TildaMk4.Storage.Cache

open Memory

variable {c : Cache}

/-- Either no sector is cached, or the address variables name one of the 256 sectors. -/
def Located (c : Cache) : Prop :=
  c.flashCacheSectorId = minusOne ∨
    c.flashCacheSectorId < 256 ∧ c.flashCacheSectorStart = c.flashCacheSectorId * 0x1000

/-- The buffer equals the flash content at the cached sector's address. -/
def Agrees (c : Cache) : Prop :=
  ∀ j < 0x1000, c.flashCacheMem j = c.flash (c.flashCacheSectorStart + j)

def contents (c : Cache) : Bytes :=
  if c.flashCacheSectorId = minusOne then c.flash
  else blit c.flash c.flashCacheSectorStart c.flashCacheMem 0 0x1000

@[simp] theorem contents_init (flash : Bytes) : (init flash).contents = flash :=
  if_pos rfl

theorem contents_of_cached (cached : c.flashCacheSectorId ≠ minusOne) :
    c.contents = blit c.flash c.flashCacheSectorStart c.flashCacheMem 0 0x1000 :=
  if_neg cached

theorem contents_of_agrees (agrees : c.flashCacheSectorId ≠ minusOne → c.Agrees) :
    c.contents = c.flash := by
  unfold contents
  split
  next => rfl
  next cached => exact blit_eq_self (fun j bound => by simpa using agrees cached j bound)

theorem agrees_nvsWrite (c : Cache) : c.nvsWrite.Agrees := by
  intro j bound
  simp only [nvsWrite]
  rw [blit_offset bound, Nat.zero_add]

/-- Writing the buffer back moves data that was already visible. -/
theorem contents_nvsWrite (cached : c.flashCacheSectorId ≠ minusOne) :
    c.nvsWrite.contents = c.contents := by
  rw [contents_of_cached cached, contents_of_cached (c := c.nvsWrite) cached]
  exact blit_blit_self _ _ _ _ _ _ _

theorem sectorOf_block {block : Nat} (valid : block < flashMemSeg1NumBlocks) :
    sectorOf (block * flashBlockSize) = ⟨block / 8, block / 8 * 0x1000, 0x1000⟩ := by
  simp only [flashMemSeg1NumBlocks, flashBlockSize] at valid ⊢
  rw [sectorOf_eq (by simp only [flashSize]; omega)]
  have index : block * 512 / 0x1000 = block / 8 := by omega
  rw [index]

theorem sector_lt {block : Nat} (valid : block < flashMemSeg1NumBlocks) : block / 8 < 256 := by
  simp only [flashMemSeg1NumBlocks] at valid
  omega

theorem offsetOf_block {block : Nat} (valid : block < flashMemSeg1NumBlocks) :
    offsetOf (block * flashBlockSize) = block % 8 * flashBlockSize := by
  simp only [offsetOf, sectorOf_block valid, flashBlockSize]
  omega

/-- The cached sector is the one that holds `block`. -/
structure Holds (c : Cache) (block : Nat) : Prop where
  id : c.flashCacheSectorId = block / 8
  start : c.flashCacheSectorStart = block / 8 * 0x1000

theorem Holds.located {block : Nat} (holds : c.Holds block)
    (valid : block < flashMemSeg1NumBlocks) : c.Located :=
  .inr ⟨holds.id ▸ sector_lt valid, by rw [holds.start, holds.id]⟩

theorem Holds.cached {block : Nat} (holds : c.Holds block)
    (valid : block < flashMemSeg1NumBlocks) : c.flashCacheSectorId ≠ minusOne := by
  have := sector_lt valid
  rw [holds.id]
  simp only [minusOne]
  omega

theorem Located.holds {block : Nat} (located : c.Located)
    (valid : block < flashMemSeg1NumBlocks) (hit : c.flashCacheSectorId = block / 8) :
    c.Holds block := by
  have := sector_lt valid
  rcases located with empty | ⟨_, start⟩
  · simp only [minusOne] at empty
    omega
  · exact ⟨hit, by rw [start, hit]⟩

theorem Holds.mem_eq {block : Nat} (holds : c.Holds block)
    (valid : block < flashMemSeg1NumBlocks) {i : Nat} (bound : i < flashBlockSize) :
    c.flashCacheMem (block % 8 * flashBlockSize + i) =
      c.contents (block * flashBlockSize + i) := by
  rw [contents_of_cached (holds.cached valid), holds.start]
  simp only [flashBlockSize] at bound ⊢
  rw [blit_inside (by omega) (by omega)]
  congr 1
  omega

/-- Copying `n` bytes through the returned pointer changes the block's visible
data at the same position and nothing else. -/
theorem Holds.contents_memcpyIn {block : Nat} (holds : c.Holds block)
    (valid : block < flashMemSeg1NumBlocks) (src : Bytes) {done n : Nat}
    (fits : done + n ≤ flashBlockSize) :
    (c.memcpyIn (block % 8 * flashBlockSize) src done n).contents =
      blit c.contents (block * flashBlockSize + done) src done n := by
  have cached := holds.cached valid
  apply (contents_of_cached (c := c.memcpyIn _ _ _ _) cached).trans
  rw [contents_of_cached cached]
  simp only [memcpyIn, flashBlockSize] at fits ⊢
  have window := blit_window c.flash c.flashCacheMem src c.flashCacheSectorStart 0 0x1000
    (block % 8 * 512 + done) done n (by omega)
  rw [Nat.zero_add] at window
  have address : block / 8 * 0x1000 + (block % 8 * 512 + done) = block * 512 + done := by omega
  rw [window, holds.start, address]

end TildaMk4.Storage.Cache
