import TildaMk4.Storage.OneClient
import TildaMk4.Storage.Sequential

/-!
# A sector load that fails

The cache functions when `NVS_read` may fail: the exception leaves the buffer with
whatever the failed read left there, while the id of the old sector stays. With the
flush taken atomically inside every `BDEV_IOCTL_SYNC` the effect shows only in later
calls.
-/

namespace TildaMk4.Storage

open Memory Transition

namespace Cache

/-- The miss branch of `flash_cache_get_addr`. `none` lets `NVS_read` succeed, and
`some left` lets it fail with the bytes `left` in the buffer; the Boolean is whether
the function goes on. -/
def reloadOr (c : Cache) (sector : SectorInfo) : Option Bytes → Bool × Cache
  | none => (true, c.reload sector)
  | some left =>
    (false, { c.flashBdevSync with
      flashCacheMem := blit c.flashBdevSync.flashCacheMem 0 left 0 sector.size })

def ensureSectorOr (c : Cache) (sector : SectorInfo) (failure : Option Bytes) : Bool × Cache :=
  if c.flashCacheSectorId ≠ sector.id then c.reloadOr sector failure else (true, c)

/-- `none` is the exception of a failed `NVS_read`. -/
def flashCacheGetAddrOr (c : Cache) (flashAddr : Nat) (write : Bool) (failure : Option Bytes) :
    Cache × Option Nat :=
  match c.ensureSectorOr (sectorOf flashAddr) failure with
  | (false, raised) => (raised, none)
  | (true, loaded) =>
    (if write then { loaded with flashFlagDirty := true, redLed := true } else loaded,
      some (offsetOf flashAddr))

/-- `flash_bdev_readblock`, or `flash_bdev_writeblock` for a write. -/
def accessOr (c : Cache) (a : Access) (failure : Option Bytes) : Cache × Event Unit :=
  if a.flashAddr = minusOne then (c, .refused () a)
  else
    match c.flashCacheGetAddrOr a.flashAddr a.write failure with
    | (c', none) => (c', .raised ())
    | (c', some offset) =>
      if a.write then (c'.memcpyIn offset a.buffer 0 flashBlockSize, .written () a)
      else (c', .read () { a with
        buffer := blit a.buffer 0 c'.flashCacheMem offset flashBlockSize })

end Cache

/-- A call on the cache, or a turn of the flush thread. -/
inductive CacheAct
  | access (a : Access) (failure : Option Bytes)
  | sync
  | flushTurn

/-- The calls one after the other. -/
def cacheSystem : System Cache CacheAct (Event Unit) where
  step c
    | .access a failure => some ((c.accessOr a failure).1, some (c.accessOr a failure).2)
    | .sync => some (c.flashBdevSync, some (.synced ()))
    | .flushTurn => some (c.flushThreadTurn, none)

/-- The access executes an `NVS_read`. -/
def Loads (c : Cache) (a : Access) : Prop := a.Valid ∧ c.flashCacheSectorId ≠ a.block / 8

/-- No sector is cached, or the bytes that the failed read leaves are those of the
cached sector. -/
def SparesBuffer (c : Cache) (left : Bytes) : Prop :=
  c.flashCacheSectorId = minusOne ∨ ∀ j < 0x1000, left j = c.flashCacheMem j

/-- A step in which a failing load, if there is one, spares the buffer. -/
def FailsHarmlessly (c : Cache) : CacheAct → Prop
  | .access a (some left) => Loads c a → SparesBuffer c left
  | _ => True

/-- What is expected of the calls after a failed load that leaves the cache at `start`:
reads deliver the data last stored, starting from `disk`, and the flash of a block
that is not written stays as it is. -/
structure StaysSound (disk : Bytes) (start : Cache) (history : List (Event Unit)) (s : Cache) :
    Prop where
  reads : Along (fun before event => ∀ a, event = .read () a → ∀ i < flashBlockSize,
    a.buffer i = lastStored disk before a.block i) history
  flash : ∀ block < flashMemSeg1NumBlocks, (∀ a, .written () a ∈ history → a.block ≠ block) →
    ∀ i < flashBlockSize,
      s.flash (block * flashBlockSize + i) = start.flash (block * flashBlockSize + i)

namespace Cache

variable {c : Cache} {a : Access} {left : Bytes}

/-- The cache when the load of `a` has failed. -/
def loadFailed (c : Cache) (a : Access) (left : Bytes) : Cache := (c.accessOr a (some left)).1

theorem accessOr_of_fails (loads : Loads c a) :
    c.accessOr a (some left) = ({ c.flashBdevSync with
      flashCacheMem := blit c.flashBdevSync.flashCacheMem 0 left 0 0x1000 }, .raised ()) := by
  obtain ⟨valid, miss⟩ := loads
  have addr := valid.flashAddr
  have sector := sectorOf_block valid
  simp [accessOr, addr, block_addr_ne_minusOne valid, flashCacheGetAddrOr, ensureSectorOr,
    reloadOr, sector, miss]

theorem accessOr_of_valid {failure : Option Bytes} (valid : a.Valid)
    (fine : Loads c a → failure = none) :
    c.accessOr a failure =
      if a.write then
        (((c.flashCacheGetAddr (a.block * flashBlockSize) a.write).1.memcpyIn
          (a.block % 8 * flashBlockSize) a.buffer 0 flashBlockSize), .written () a)
      else
        ((c.flashCacheGetAddr (a.block * flashBlockSize) a.write).1, .read () { a with
          buffer := blit a.buffer 0
            (c.flashCacheGetAddr (a.block * flashBlockSize) a.write).1.flashCacheMem
            (a.block % 8 * flashBlockSize) flashBlockSize }) := by
  have addr := valid.flashAddr
  have offset := offsetOf_block valid
  have sector := sectorOf_block valid
  have loaded : c.ensureSectorOr (sectorOf (a.block * flashBlockSize)) failure =
      (true, c.ensureSector (sectorOf (a.block * flashBlockSize))) := by
    unfold ensureSectorOr ensureSector
    split
    next miss =>
      rw [fine ⟨valid, by simpa [sector] using miss⟩]
      rfl
    next => rfl
  simp [accessOr, addr, block_addr_ne_minusOne valid, flashCacheGetAddrOr, loaded,
    flashCacheGetAddr, offset]

theorem accessOr_of_not_valid {failure : Option Bytes} (bad : ¬ a.Valid) :
    c.accessOr a failure = (c, .refused () a) := by
  have addr : a.flashAddr = minusOne :=
    (convertBlockToFlashAddr_eq_minusOne_iff _).mpr (Nat.le_of_not_lt bad)
  simp [accessOr, addr]

/-- A flush makes the flash what the cache stood for. -/
theorem WF.flash_flashBdevFlush (wf : c.WF) : c.flashBdevFlush.flash = c.contents := by
  unfold Cache.flashBdevFlush
  split
  next dirty => exact (contents_of_cached (wf.placed dirty)).symm
  next clean => exact (contents_of_agrees (wf.clean (by simpa using clean))).symm

theorem WF.flash_flushThreadTurn (wf : c.WF) : c.flushThreadTurn.flash = c.contents :=
  WF.flash_flashBdevFlush (c := { c with flushFlashBdevCache := false })
    ⟨wf.located, wf.placed, wf.clean⟩

theorem WF.flash_flashBdevSync (wf : c.WF) : c.flashBdevSync.flash = c.contents := by
  unfold Cache.flashBdevSync
  split
  next =>
    exact WF.flash_flushThreadTurn (c := { c with flushFlashBdevCache := true })
      ⟨wf.located, wf.placed, wf.clean⟩
  next clean => exact (contents_of_agrees (wf.clean (by simpa using clean))).symm

theorem WF.flash_flashCacheGetAddr (wf : c.WF) (flashAddr : Nat) (write : Bool) :
    (c.flashCacheGetAddr flashAddr write).1.flash = c.flash ∨
      (c.flashCacheGetAddr flashAddr write).1.flash = c.contents := by
  have loaded : (c.flashCacheGetAddr flashAddr write).1.flash =
      (c.ensureSector (sectorOf flashAddr)).flash := by
    cases write <;> rfl
  rw [loaded]
  unfold Cache.ensureSector
  split
  next => exact .inr wf.flash_flashBdevSync
  next => exact .inl rfl

/-- A sync stores the buffer and leaves it as it is. -/
theorem flashBdevSync_buffer (c : Cache) :
    c.flashBdevSync.flashCacheSectorId = c.flashCacheSectorId ∧
      c.flashBdevSync.flashCacheMem = c.flashCacheMem := by
  unfold flashBdevSync
  split
  next =>
    unfold flushThreadTurn flashBdevFlush
    split <;> exact ⟨rfl, rfl⟩
  next => exact ⟨rfl, rfl⟩

/-- A failed load that spares the buffer leaves a cache that stands for the same data. -/
theorem WF.loadFailed (wf : c.WF) (loads : Loads c a) (spares : SparesBuffer c left) :
    SameContents c (c.loadFailed a left) := by
  have synced := wf.flashBdevSync
  unfold Cache.loadFailed
  rw [accessOr_of_fails loads]
  rcases spares with uncached | same
  · have empty : c.flashBdevSync.flashCacheSectorId = minusOne := by
      rw [(flashBdevSync_buffer c).1, uncached]
    refine ⟨⟨.inl empty, fun dirty => synced.wf.placed dirty, ?_⟩, ?_⟩
    · exact fun _ cached => absurd empty cached
    · rw [← synced.contents]
      simp [contents, empty]
  · have unchanged : blit c.flashBdevSync.flashCacheMem 0 left 0 0x1000 =
        c.flashBdevSync.flashCacheMem := by
      apply blit_eq_self
      intro j bound
      rw [(flashBdevSync_buffer c).2, Nat.zero_add]
      exact same j bound
    rw [unchanged]
    exact synced

end Cache

theorem lastStored_of_unwritten {disk : Bytes} {history : List (Event Unit)} {block : Nat}
    (unwritten : ∀ a, .written () a ∈ history → a.block ≠ block) :
    lastStored disk history block = fun i => disk (block * flashBlockSize + i) := by
  induction history using List.reverseRecOn with
  | nil => rfl
  | append_singleton history event ih =>
    have before := ih fun a member => unwritten a (List.mem_append_left _ member)
    rw [← before]
    cases event with
    | written k a =>
      have other := unwritten a (List.mem_append_right _ (List.mem_singleton_self _))
      rw [lastStored_written, if_neg other]
    | called | read | refused | synced | raised =>
      simp [lastStored]

/-- The cache stands for the data last stored, and the flash of a block that was not
written still holds that of the start. -/
structure Tracks (disk : Bytes) (history : List (Event Unit)) (c : Cache) : Prop where
  wf : c.WF
  contents : c.contents = stored disk history
  flash : ∀ block < flashMemSeg1NumBlocks, (∀ a, .written () a ∈ history → a.block ≠ block) →
    ∀ i < flashBlockSize,
      c.flash (block * flashBlockSize + i) = disk (block * flashBlockSize + i)

section Tracks

variable {disk : Bytes} {history : List (Event Unit)} {c c' : Cache}

/-- The invariant after a step that flushes, or does not. -/
theorem Tracks.of_flash (tracks : Tracks disk history c) (event : Option (Event Unit)) (wf : c'.WF)
    (contents : c'.contents = afterEvent c.contents event)
    (flash : c'.flash = c.flash ∨ c'.flash = c.contents) :
    Tracks disk (history ++ event.toList) c' where
  wf := wf
  contents := by rw [contents, tracks.contents, stored_append]
  flash block valid unwritten i bound := by
    have before : ∀ a, .written () a ∈ history → a.block ≠ block := fun a member =>
      unwritten a (List.mem_append_left _ member)
    rcases flash with same | flushed
    · rw [same]
      exact tracks.flash block valid before i bound
    · rw [flushed, tracks.contents, stored_at _ _ _ bound, lastStored_of_unwritten before]

theorem Tracks.of_sameContents (tracks : Tracks disk history c) (event : Option (Event Unit))
    (same : c.SameContents c') (silent : afterEvent c.contents event = c.contents)
    (flash : c'.flash = c.flash ∨ c'.flash = c.contents) :
    Tracks disk (history ++ event.toList) c' :=
  tracks.of_flash event same.wf (same.contents.trans silent.symm) flash

theorem Tracks.access (tracks : Tracks disk history c) {a : Access} {failure : Option Bytes}
    (harmless : FailsHarmlessly c (.access a failure)) :
    Tracks disk (history ++ [(c.accessOr a failure).2]) (c.accessOr a failure).1 := by
  by_cases valid : a.Valid
  · by_cases fine : Loads c a → failure = none
    · obtain ⟨same, holds⟩ := tracks.wf.flashCacheGetAddr valid a.write
      have flash := tracks.wf.flash_flashCacheGetAddr (a.block * flashBlockSize) a.write
      rw [Cache.accessOr_of_valid valid fine]
      split
      next write =>
        rw [write] at same holds flash ⊢
        refine tracks.of_flash (some (.written () a)) ⟨same.wf.located, same.wf.placed, ?_⟩ ?_
          flash
        · exact fun clean => nomatch clean
        · rw [holds.contents_memcpyIn valid _ (by omega), same.contents, Nat.add_zero]
          rfl
      next => exact tracks.of_sameContents (some (.read () _)) same rfl flash
    · obtain ⟨loads, failing⟩ := Classical.not_imp.mp fine
      obtain ⟨left, rfl⟩ := Option.ne_none_iff_exists'.mp failing
      have same := tracks.wf.loadFailed loads (harmless loads)
      have raised : (c.accessOr a (some left)).2 = .raised () := by
        rw [Cache.accessOr_of_fails loads]
      have flash : (c.accessOr a (some left)).1.flash = c.contents := by
        rw [Cache.accessOr_of_fails loads]
        exact tracks.wf.flash_flashBdevSync
      rw [raised]
      exact tracks.of_sameContents (some (.raised ())) same rfl (.inr flash)
  · rw [Cache.accessOr_of_not_valid valid]
    exact tracks.of_sameContents (some (.refused () a)) ⟨tracks.wf, rfl⟩ rfl (.inl rfl)

theorem Tracks.step (tracks : Tracks disk history c) {act : CacheAct}
    {event : Option (Event Unit)}
    (harmless : FailsHarmlessly c act) (stepped : cacheSystem.step c act = some (c', event)) :
    Tracks disk (history ++ event.toList) c' := by
  cases act with
  | access a failure =>
    cases stepped
    exact tracks.access harmless
  | sync =>
    cases stepped
    exact tracks.of_sameContents (some (.synced ())) tracks.wf.flashBdevSync rfl
      (.inr tracks.wf.flash_flashBdevSync)
  | flushTurn =>
    cases stepped
    exact tracks.of_sameContents none tracks.wf.flushThreadTurn rfl
      (.inr tracks.wf.flash_flushThreadTurn)

end Tracks

/-- A read that is observed delivers the block that the cache stands for. -/
theorem Tracks.delivers {disk : Bytes} {history : List (Event Unit)} {c : Cache}
    (tracks : Tracks disk history c) {a delivered : Access} {failure : Option Bytes}
    (read : (c.accessOr a failure).2 = .read () delivered) {i : Nat} (bound : i < flashBlockSize) :
    delivered.buffer i = lastStored disk history delivered.block i := by
  by_cases valid : a.Valid
  · by_cases fine : Loads c a → failure = none
    · obtain ⟨same, holds⟩ := tracks.wf.flashCacheGetAddr valid a.write
      rw [Cache.accessOr_of_valid valid fine] at read
      split at read
      next => cases read
      next =>
        cases read
        have visible := holds.mem_eq valid bound
        rw [same.contents, tracks.contents, stored_at _ _ _ bound] at visible
        rw [← visible]
        exact (blit_inside (Nat.zero_le i) (by omega)).trans (by rw [Nat.sub_zero])
    · obtain ⟨loads, failing⟩ := Classical.not_imp.mp fine
      obtain ⟨left, rfl⟩ := Option.ne_none_iff_exists'.mp failing
      rw [Cache.accessOr_of_fails loads] at read
      cases read
  · rw [Cache.accessOr_of_not_valid valid] at read
    cases read

theorem Tracks.staysSound {disk : Bytes} {start s : Cache} {history : List (Event Unit)}
    (tracks : Tracks disk [] start)
    (run : cacheSystem.Run FailsHarmlessly start history s) : StaysSound disk start history s := by
  have inv := run.invariant (fun history s => Tracks disk history s ∧
      Along (fun before event => ∀ a, event = .read () a → ∀ i < flashBlockSize,
        a.buffer i = lastStored disk before a.block i) history) ⟨tracks, along_nil _⟩ ?_
  · refine ⟨inv.2, fun block valid unwritten i bound => ?_⟩
    rw [inv.1.flash block valid unwritten i bound, tracks.flash block valid nofun i bound]
  · intro history s act s' event ⟨tracks, along⟩ harmless stepped
    refine ⟨tracks.step harmless stepped, along.append ?_⟩
    intro observed emitted delivered read i bound
    cases act with
    | access a failure =>
      cases stepped
      obtain rfl := Option.some.inj emitted
      exact tracks.delivers read bound
    | sync =>
      cases stepped
      cases emitted
      cases read
    | flushTurn =>
      cases stepped
      cases emitted

/-- The block of the cached sector that holds the position `j` of the buffer. -/
def cachedBlock (c : Cache) (j : Nat) : Nat := c.flashCacheSectorId * 8 + j / flashBlockSize

section Stale

variable {c : Cache} {a : Access} {left : Bytes} {j : Nat}

theorem cachedBlock_valid (low : c.flashCacheSectorId < 256) (inside : j < 0x1000) :
    cachedBlock c j < flashMemSeg1NumBlocks := by
  simp only [cachedBlock, flashMemSeg1NumBlocks, flashBlockSize]
  omega

theorem cachedBlock_addr (c : Cache) (j : Nat) :
    cachedBlock c j * flashBlockSize + j % flashBlockSize = c.flashCacheSectorId * 0x1000 + j := by
  simp only [cachedBlock, flashBlockSize]
  omega

theorem cachedBlock_sector (c : Cache) (inside : j < 0x1000) :
    cachedBlock c j / 8 = c.flashCacheSectorId ∧
      cachedBlock c j % 8 * flashBlockSize + j % flashBlockSize = j := by
  simp only [cachedBlock, flashBlockSize]
  omega

theorem contents_cachedBlock (wf : c.WF) (cached : c.flashCacheSectorId ≠ minusOne)
    (inside : j < 0x1000) :
    c.contents (cachedBlock c j * flashBlockSize + j % flashBlockSize) = c.flashCacheMem j := by
  obtain ⟨-, start⟩ := wf.located.resolve_left cached
  rw [Cache.contents_of_cached cached, cachedBlock_addr, ← start, blit_offset inside, Nat.zero_add]

/-- The failed load does not change the id of the cached sector. -/
theorem Loads.claims_loadFailed (loads : Loads c a) (left : Bytes) :
    (c.loadFailed a left).flashCacheSectorId = c.flashCacheSectorId := by
  rw [Cache.loadFailed, Cache.accessOr_of_fails loads]
  exact (Cache.flashBdevSync_buffer c).1

/-- After a failed load a read of the old sector is a hit, and it delivers what the failed
read left in the buffer. -/
theorem read_loadFailed (wf : c.WF) (loads : Loads c a) (left : Bytes)
    (cached : c.flashCacheSectorId ≠ minusOne) (inside : j < 0x1000) :
    ∃ delivered, ((c.loadFailed a left).accessOr (readOf (cachedBlock c j)) none).2 =
        .read () delivered ∧ delivered.block = cachedBlock c j ∧
      delivered.buffer (j % flashBlockSize) = left j := by
  obtain ⟨low, -⟩ := wf.located.resolve_left cached
  have valid := cachedBlock_valid low inside
  obtain ⟨sector, offset⟩ := cachedBlock_sector c inside
  have position : j % flashBlockSize < flashBlockSize := Nat.mod_lt _ (by decide)
  have claimed := loads.claims_loadFailed left
  have hit : ((c.loadFailed a left).flashCacheGetAddr
      (cachedBlock c j * flashBlockSize) false).1 = c.loadFailed a left := by
    apply if_neg
    rw [Cache.sectorOf_block valid, claimed, not_not]
    exact sector.symm
  have filled : (c.loadFailed a left).flashCacheMem j = left j := by
    rw [Cache.loadFailed, Cache.accessOr_of_fails loads]
    exact (blit_inside (Nat.zero_le j) (by omega)).trans (by rw [Nat.zero_add, Nat.sub_zero])
  have notFailing : Loads (c.loadFailed a left) (readOf (cachedBlock c j)) →
      (none : Option Bytes) = none := fun _ => rfl
  have observed := Cache.accessOr_of_valid (a := readOf (cachedBlock c j)) valid notFailing
  refine ⟨_, congrArg Prod.snd observed, rfl, ?_⟩
  calc blit _ 0 ((c.loadFailed a left).flashCacheGetAddr
          (cachedBlock c j * flashBlockSize) false).1.flashCacheMem
          (cachedBlock c j % 8 * flashBlockSize) flashBlockSize (j % flashBlockSize)
      = blit _ 0 (c.loadFailed a left).flashCacheMem (cachedBlock c j % 8 * flashBlockSize)
          flashBlockSize (0 + j % flashBlockSize) := by rw [hit, Nat.zero_add]
    _ = (c.loadFailed a left).flashCacheMem j := by rw [blit_offset position, offset]
    _ = left j := filled

theorem staysSound_loadFailed_iff (wf : c.WF) (loads : Loads c a) (left : Bytes) :
    (∀ history s, cacheSystem.Run FailsHarmlessly (c.loadFailed a left) history s →
        StaysSound c.contents (c.loadFailed a left) history s) ↔ SparesBuffer c left := by
  constructor
  · intro sound
    by_contra harmful
    simp only [SparesBuffer, not_or, not_forall] at harmful
    obtain ⟨cached, j, inside, differs⟩ := harmful
    obtain ⟨delivered, read, block, position⟩ := read_loadFailed wf loads left cached inside
    have harmless : FailsHarmlessly (c.loadFailed a left)
      (.access (readOf (cachedBlock c j)) none) := trivial
    have stepped : cacheSystem.step (c.loadFailed a left)
      (.access (readOf (cachedBlock c j)) none) = some (_, some _) := rfl
    have run := System.Run.start.next harmless stepped
    have first := (sound _ _ run).reads [] _ [] rfl delivered read (j % flashBlockSize)
      (Nat.mod_lt _ (by decide))
    have initial := stored_at c.contents ([] : List (Event Unit)) (cachedBlock c j)
      (Nat.mod_lt j (show 0 < flashBlockSize by decide))
    rw [stored_nil, contents_cachedBlock wf cached inside] at initial
    rw [position, block, ← initial] at first
    exact differs first
  · intro spares history s run
    have same := wf.loadFailed loads spares
    have tracks : Tracks c.contents [] (c.loadFailed a left) := by
      refine ⟨same.wf, same.contents.trans (stored_nil _).symm, fun block _ _ i _ => ?_⟩
      rw [Cache.loadFailed, Cache.accessOr_of_fails loads]
      exact congrFun wf.flash_flashBdevSync _
    exact tracks.staysSound run

end Stale

/-- The cache no longer claims the sector that it held before. -/
def DropsSector (c c' : Cache) : Prop :=
  c.flashCacheSectorId = minusOne ∨ c'.flashCacheSectorId ≠ c.flashCacheSectorId

/-- After a failed load all later calls are sound exactly if the load spares the buffer;
the old sector is claimed on in any case, so the whole law needs that there was none. -/
theorem failedLoad_staysSound_iff (c : Cache) (wf : c.WF) (a : Access) (left : Bytes)
    (loads : Loads c a) :
    ((∀ history s, cacheSystem.Run FailsHarmlessly (c.loadFailed a left) history s →
        StaysSound c.contents (c.loadFailed a left) history s) ∧
      DropsSector c (c.loadFailed a left) ↔ c.flashCacheSectorId = minusOne) ∧
    ((∀ history s, cacheSystem.Run FailsHarmlessly (c.loadFailed a left) history s →
        StaysSound c.contents (c.loadFailed a left) history s) ↔ SparesBuffer c left) := by
  have sound := staysSound_loadFailed_iff wf loads left
  refine ⟨⟨?_, fun uncached => ?_⟩, sound⟩
  · rintro ⟨-, uncached | dropped⟩
    · exact uncached
    · exact absurd (loads.claims_loadFailed left) dropped
  · exact ⟨sound.mpr (.inl uncached), .inl uncached⟩

theorem loads_first : Loads (Cache.init blankFlash) (readOf 0) :=
  ⟨show 0 < flashMemSeg1NumBlocks by decide, by decide⟩

/-- The first load of all fails. -/
theorem failedLoad_staysSound_iff_first :
    (∀ history s, cacheSystem.Run FailsHarmlessly
        ((Cache.init blankFlash).loadFailed (readOf 0) fun _ => 0xff) history s →
      StaysSound (Cache.init blankFlash).contents
        ((Cache.init blankFlash).loadFailed (readOf 0) fun _ => 0xff) history s) ∧
    DropsSector (Cache.init blankFlash)
      ((Cache.init blankFlash).loadFailed (readOf 0) fun _ => 0xff) :=
  (failedLoad_staysSound_iff (Cache.init blankFlash) (Cache.wf_init _) (readOf 0) (fun _ => 0xff)
    loads_first).1.mpr rfl

/-- A read of block 0 caches its sector; the load for block 8 then fails and leaves 0xff
bytes, and the next read of block 0 delivers them. -/
theorem failedLoad_staysSound_fails :
    ¬ ∀ c : Cache, c.WF → ∀ (a : Access) (left : Bytes), Loads c a →
      (∀ history s, cacheSystem.Run FailsHarmlessly (c.loadFailed a left) history s →
        StaysSound c.contents (c.loadFailed a left) history s) ∧
      DropsSector c (c.loadFailed a left) := by
  intro claim
  have start : Tracks blankFlash ([] : List (Event Unit)) (Cache.init blankFlash) :=
    ⟨Cache.wf_init _, (Cache.contents_init _).trans (stored_nil _).symm, fun _ _ _ _ _ => rfl⟩
  have harmless : FailsHarmlessly (Cache.init blankFlash) (.access (readOf 0) none) := trivial
  have wf := (start.access harmless).wf
  have loads : Loads ((Cache.init blankFlash).accessOr (readOf 0) none).1 (readOf 8) :=
    ⟨show 8 < flashMemSeg1NumBlocks by decide, by decide⟩
  have spares := (staysSound_loadFailed_iff wf loads _).mp (claim _ wf _ (fun _ => 0xff) loads).1
  rcases spares with uncached | same
  · exact absurd uncached (by decide)
  · exact absurd (same 0 (by decide)) (by decide)

end TildaMk4.Storage
