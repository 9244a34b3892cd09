import TildaMk4.Storage.Contents

/-!
# The cache without interleaving

With the flush taken atomically inside every `BDEV_IOCTL_SYNC`, the cache
functions keep `WF`, leave `contents` alone except for the block that is written,
and read and write exactly the block that they are given.
-/

namespace TildaMk4.Storage.Cache

open Memory

/-- The states that the cache passes through between calls. -/
structure WF (c : Cache) : Prop where
  located : c.Located
  placed : c.flashFlagDirty = true → c.flashCacheSectorId ≠ minusOne
  clean : c.flashFlagDirty = false → c.flashCacheSectorId ≠ minusOne → c.Agrees

variable {c : Cache}

theorem wf_init (flash : Bytes) : (init flash).WF where
  located := .inl rfl
  placed dirty := nomatch dirty
  clean _ cached := absurd rfl cached

/-- What a step that only moves visible data has to show. -/
structure SameContents (c c' : Cache) : Prop where
  wf : c'.WF
  contents : c'.contents = c.contents

theorem SameContents.trans {c₁ c₂ c₃ : Cache} (first : SameContents c₁ c₂)
    (second : SameContents c₂ c₃) : SameContents c₁ c₃ :=
  ⟨second.wf, second.contents.trans first.contents⟩

theorem WF.flashBdevFlush (wf : c.WF) : SameContents c c.flashBdevFlush := by
  unfold Cache.flashBdevFlush
  split
  next dirty =>
    have cached := wf.placed dirty
    exact ⟨⟨wf.located, fun impossible => (nomatch impossible), fun _ _ => agrees_nvsWrite c⟩,
      contents_nvsWrite cached⟩
  next => exact ⟨wf, rfl⟩

theorem flashBdevFlush_clean (c : Cache) : c.flashBdevFlush.flashFlagDirty = false := by
  unfold Cache.flashBdevFlush
  split
  next => rfl
  next clean => simpa using clean

theorem WF.flushThreadTurn (wf : c.WF) : SameContents c c.flushThreadTurn := by
  have flushed := WF.flashBdevFlush (c := { c with flushFlashBdevCache := false })
    ⟨wf.located, wf.placed, wf.clean⟩
  exact ⟨flushed.wf, flushed.contents⟩

theorem WF.flashBdevSync (wf : c.WF) : SameContents c c.flashBdevSync := by
  unfold Cache.flashBdevSync
  split
  next =>
    have turn := WF.flushThreadTurn (c := { c with flushFlashBdevCache := true })
      ⟨wf.located, wf.placed, wf.clean⟩
    exact ⟨⟨turn.wf.located, turn.wf.placed, turn.wf.clean⟩, turn.contents⟩
  next => exact ⟨wf, rfl⟩

theorem flashBdevSync_clean (c : Cache) : c.flashBdevSync.flashFlagDirty = false := by
  unfold Cache.flashBdevSync
  split
  next => exact flashBdevFlush_clean _
  next clean => simpa using clean

/-- A synced cache hides nothing from the flash, so loading a sector is invisible. -/
theorem WF.reload (wf : c.WF) {block : Nat} (valid : block < flashMemSeg1NumBlocks) :
    SameContents c (c.reload (sectorOf (block * flashBlockSize))) ∧
      (c.reload (sectorOf (block * flashBlockSize))).Holds block := by
  have synced := wf.flashBdevSync
  have clean := flashBdevSync_clean c
  have visible : c.flashBdevSync.contents = c.flashBdevSync.flash :=
    contents_of_agrees (synced.wf.clean clean)
  have holds : (c.reload (sectorOf (block * flashBlockSize))).Holds block := by
    constructor <;> simp [Cache.reload, sectorOf_block valid]
  have agrees : (c.reload (sectorOf (block * flashBlockSize))).Agrees := by
    intro j bound
    simp only [Cache.reload, nvsRead, sectorOf_block valid]
    exact blit_inside (Nat.zero_le j) (by omega)
  refine ⟨⟨⟨holds.located valid, fun _ => holds.cached valid, fun _ _ => agrees⟩, ?_⟩, holds⟩
  rw [contents_of_agrees fun _ => agrees, ← synced.contents, visible]
  rfl

theorem WF.ensureSector (wf : c.WF) {block : Nat} (valid : block < flashMemSeg1NumBlocks) :
    SameContents c (c.ensureSector (sectorOf (block * flashBlockSize))) ∧
      (c.ensureSector (sectorOf (block * flashBlockSize))).Holds block := by
  unfold Cache.ensureSector
  split
  next => exact wf.reload valid
  next hit =>
    rw [sectorOf_block valid, not_not] at hit
    exact ⟨⟨wf, rfl⟩, wf.located.holds valid hit⟩

theorem WF.flashCacheGetAddr (wf : c.WF) {block : Nat} (valid : block < flashMemSeg1NumBlocks)
    (write : Bool) :
    SameContents c (c.flashCacheGetAddr (block * flashBlockSize) write).1 ∧
      (c.flashCacheGetAddr (block * flashBlockSize) write).1.Holds block := by
  obtain ⟨same, holds⟩ := wf.ensureSector valid
  cases write with
  | false => exact ⟨same, holds⟩
  | true =>
    exact ⟨⟨⟨same.wf.located, fun _ => holds.cached valid, fun impossible => (nomatch impossible)⟩,
      same.contents⟩, ⟨holds.id, holds.start⟩⟩

theorem flashCacheGetAddr_write_dirty (c : Cache) (flashAddr : Nat) :
    (c.flashCacheGetAddr flashAddr true).1.flashFlagDirty = true := rfl

@[simp] theorem flashCacheGetAddr_snd {block : Nat} (valid : block < flashMemSeg1NumBlocks)
    (write : Bool) :
    (c.flashCacheGetAddr (block * flashBlockSize) write).2 = block % 8 * flashBlockSize :=
  offsetOf_block valid

theorem WF.flashBdevReadblock (wf : c.WF) (dest : Bytes) (at_ : Nat) {block : Nat}
    (valid : block < flashMemSeg1NumBlocks) :
    ∃ c', c.flashBdevReadblock dest at_ block =
        (true, blit dest at_ c.contents (block * flashBlockSize) flashBlockSize, c') ∧
      SameContents c c' := by
  obtain ⟨same, holds⟩ := wf.flashCacheGetAddr valid false
  refine ⟨_, ?_, same⟩
  simp only [Cache.flashBdevReadblock, convertBlockToFlashAddr_of_lt valid,
    if_neg (block_addr_ne_minusOne valid), flashCacheGetAddrForRead, flashCacheGetAddr_snd valid]
  congr 2
  apply blit_congr_src
  intro i bound
  rw [holds.mem_eq valid bound, same.contents]

theorem WF.flashBdevWriteblock (wf : c.WF) (src : Bytes) (at_ : Nat) {block : Nat}
    (valid : block < flashMemSeg1NumBlocks) :
    ∃ c', c.flashBdevWriteblock src at_ block = (true, c') ∧ c'.WF ∧
      c'.contents = blit c.contents (block * flashBlockSize) src at_ flashBlockSize := by
  obtain ⟨same, holds⟩ := wf.flashCacheGetAddr valid true
  refine ⟨(c.flashCacheGetAddr (block * flashBlockSize) true).1.memcpyIn
    (block % 8 * flashBlockSize) (fun i => src (at_ + i)) 0 flashBlockSize, ?_, ?_, ?_⟩
  · simp only [Cache.flashBdevWriteblock, convertBlockToFlashAddr_of_lt valid,
      if_neg (block_addr_ne_minusOne valid), flashCacheGetAddrForWrite,
      flashCacheGetAddr_snd valid]
  · have dirty := flashCacheGetAddr_write_dirty c (block * flashBlockSize)
    exact ⟨same.wf.located, same.wf.placed, fun clean => absurd (dirty.symm.trans clean) nofun⟩
  · rw [holds.contents_memcpyIn valid _ (by omega), same.contents, Nat.add_zero]
    apply blit_congr_src
    intro i _
    rw [Nat.zero_add]

end TildaMk4.Storage.Cache
