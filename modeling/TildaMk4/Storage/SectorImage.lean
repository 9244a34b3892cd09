import TildaMk4.Storage.OneClient

/-!
# Which image a sector is written with

The buffer and the address that `NVS_write` takes agree in every run of one
client in which the flush does not write between a client's `NVS_read` and its
assignment of `flash_cache_sector_start` (`WritesPlaced`). Neither the dirty flag
nor the tokens matter here.
-/

namespace TildaMk4.Storage

open Memory Transition

variable {ι : Type}

/-- The client has loaded a sector and not yet assigned its address. -/
def ClientPc.relocating : ClientPc → Bool
  | .setId _ | .setStart _ => true
  | _ => false

/-- `NVS_write` does not run while a client is relocating the buffer. -/
def WritesPlaced (s : Threads ι) : Act ι → Prop
  | .flush => s.flush = .nvsWrite → ∀ k, (s.client k).relocating = false
  | _ => True

instance [Fintype ι] (s : Threads ι) (act : Act ι) : Decidable (WritesPlaced s act) :=
  match act with
  | .flush => inferInstanceAs (Decidable (_ → _))
  | .call _ _ | .client _ | .copy _ _ | .readFails _ _ | .timeout | .writeFails _ => isTrue trivial

def WritesPlacedImages (s : Threads ι) (act : Act ι) : Prop :=
  s.NvsSucceeds act ∧ WritesPlaced s act

instance [Fintype ι] (s : Threads ι) (act : Act ι) : Decidable (WritesPlacedImages s act) :=
  inferInstanceAs (Decidable (_ ∧ _))

/-- The access that a statement belongs to. -/
def ClientPc.access : ClientPc → Option Access
  | .idle => none
  | .convert a | .lookup a | .nvsRead a | .setId a | .setStart a | .setSize a | .setDirty a
  | .ledOn a | .copy a _ => some a
  | .syncTest caller | .syncPost caller | .syncPend caller => caller

/-- How much of `block` the client has copied, and from where. -/
def ClientPc.copied (block : Nat) : ClientPc → Nat × Bytes
  | .copy a done => if a.write = true ∧ a.block = block then (done, a.buffer) else (0, a.buffer)
  | _ => (0, fun _ => 0)

section OneClient

variable {flash : Bytes} {history : List (Event Unit)} {event : Option (Event Unit)}
  {c c' : Cache} {flush flush' : FlushPc} {pc pc' : ClientPc} {a : Access} {block : Nat}

/-- `data` was given to `flash_bdev_writeblock` for `block`. -/
def Passed (history : List (Event Unit)) (block : Nat) (data : Bytes) : Prop :=
  .called () (some ⟨block, true, data⟩) ∈ history

/-- `m` holds the flash content of `block` or data that was passed for it. -/
def IsImage (history : List (Event Unit)) (flash : Bytes) (block : Nat) (m : Bytes) : Prop :=
  (∀ i < flashBlockSize, m i = flash (block * flashBlockSize + i)) ∨
    ∃ data, Passed history block data ∧ ∀ i < flashBlockSize, m i = data i

/-- The buffer holds an image of `block`, under as much of a further block as a
`memcpy` in progress has copied. -/
def BlockImage (history : List (Event Unit)) (c : Cache) (pc : ClientPc) (block : Nat) : Prop :=
  ∃ base, IsImage history c.flash block base ∧ ∀ i < flashBlockSize,
    c.flashCacheMem (block % 8 * flashBlockSize + i) =
      blit base 0 (pc.copied block).2 0 (pc.copied block).1 i

/-- The buffer is an image of the sector at the address it would be written to. -/
def OwnImage (history : List (Event Unit)) (s : Threads Unit) : Prop :=
  ∃ k < 256, s.cache.flashCacheSectorStart = 0x1000 * k ∧
    ∀ block, block / 8 = k → BlockImage history s.cache (s.client ()) block

structure BufferImage (history : List (Event Unit)) (c : Cache) (pc : ClientPc) : Prop where
  located : c.Located
  image : c.flashCacheSectorId ≠ minusOne →
    ∀ block, block / 8 = c.flashCacheSectorId → BlockImage history c pc block

/-- The sector of `a` was loaded and is unchanged. -/
def Fresh (c : Cache) (a : Access) : Prop :=
  ∀ j < 0x1000, c.flashCacheMem j = c.flash (a.sector.start + j)

def ClientImage (history : List (Event Unit)) (c : Cache) : ClientPc → Prop
  | .idle | .convert _ => BufferImage history c .idle
  | .lookup a | .nvsRead a => a.Valid ∧ BufferImage history c .idle
  | .syncTest caller | .syncPost caller | .syncPend caller =>
    (∀ a, caller = some a → a.Valid) ∧ BufferImage history c .idle
  | .setId a => a.Valid ∧ Fresh c a
  | .setStart a => a.Valid ∧ Fresh c a ∧ c.flashCacheSectorId = a.sector.id
  | .setSize a | .setDirty a | .ledOn a =>
    a.Valid ∧ c.Holds a.block ∧ BufferImage history c .idle
  | .copy a done => a.Valid ∧ c.Holds a.block ∧ BufferImage history c (.copy a done)

/-- The blocks that were never passed are as they were on the flash. -/
def Untouched (flash : Bytes) (history : List (Event Unit)) (c : Cache) : Prop :=
  ∀ block < flashMemSeg1NumBlocks, (∀ data, ¬ Passed history block data) →
    ∀ i < flashBlockSize,
      c.flash (block * flashBlockSize + i) = flash (block * flashBlockSize + i)

structure Imaged (flash : Bytes) (history : List (Event Unit)) (c : Cache) (flush : FlushPc)
    (pc : ClientPc) : Prop where
  announced : ∀ a, pc.access = some a → a.write = true → .called () (some a) ∈ history
  flushing : flush = .nvsWrite → c.flashFlagDirty = true
  placed : c.flashFlagDirty = true → c.flashCacheSectorId ≠ minusOne
  client : ClientImage history c pc
  untouched : Untouched flash history c

@[simp] theorem copied_idle (block : Nat) : ClientPc.idle.copied block = (0, fun _ => 0) := rfl

theorem passed_of_called (called : .called () (some a) ∈ history) (write : a.write = true) :
    Passed history a.block a.buffer := by
  cases a
  cases write
  exact called

theorem Passed.append {data : Bytes} (passed : Passed history block data)
    (more : List (Event Unit)) : Passed (history ++ more) block data :=
  List.mem_append_left _ passed

theorem IsImage.append {m : Bytes} (image : IsImage history flash block m)
    (more : List (Event Unit)) : IsImage (history ++ more) flash block m :=
  image.imp_right fun ⟨data, passed, same⟩ => ⟨data, passed.append more, same⟩

theorem BlockImage.append (image : BlockImage history c pc block) (more : List (Event Unit)) :
    BlockImage (history ++ more) c pc block := by
  obtain ⟨base, isImage, same⟩ := image
  exact ⟨base, isImage.append more, same⟩

theorem BufferImage.append (image : BufferImage history c pc) (more : List (Event Unit)) :
    BufferImage (history ++ more) c pc :=
  ⟨image.located, fun cached block inside => (image.image cached block inside).append more⟩

theorem ClientImage.append (image : ClientImage history c pc) (more : List (Event Unit)) :
    ClientImage (history ++ more) c pc := by
  cases pc with
  | idle | convert => exact BufferImage.append image more
  | lookup | nvsRead | syncTest | syncPost | syncPend => exact ⟨image.1, image.2.append more⟩
  | setId | setStart => exact image
  | setSize | setDirty | ledOn | copy => exact ⟨image.1, image.2.1, image.2.2.append more⟩

theorem Untouched.append (untouched : Untouched flash history c) (more : List (Event Unit)) :
    Untouched flash (history ++ more) c :=
  fun block valid never => untouched block valid fun data passed => never data (passed.append more)

theorem ClientStep.access {k : ι} {event : Option (Event ι)}
    (step : ClientStep k c pc c' pc' event) :
    pc'.access = pc.access ∨ pc'.access = none := by
  cases step with
  | badBlock | return_ => exact .inr rfl
  | @hit a | @setSize a => by_cases write : a.write = true <;> simp [located, write, ClientPc.access]
  | @clean caller | @pend caller =>
    cases caller with
    | none => exact .inr rfl
    | some a => exact .inl rfl
  | goodBlock | miss | dirty | post | nvsRead | setId | setStart | setDirty | ledOn =>
    exact .inl rfl

theorem ClientStep.flash_eq {k : ι} {event : Option (Event ι)}
    (step : ClientStep k c pc c' pc' event) : c'.flash = c.flash := by
  cases step <;> rfl

theorem ClientStep.dirty_of_dirty {k : ι} {event : Option (Event ι)}
    (step : ClientStep k c pc c' pc' event) (dirty : c.flashFlagDirty = true) :
    c'.flashFlagDirty = true := by
  cases step with
  | setDirty => rfl
  | badBlock | goodBlock | miss | hit | dirty | clean | post | pend | nvsRead | setId | setStart
  | setSize | ledOn | return_ => exact dirty

theorem clientImage_located (valid : a.Valid) (holds : c.Holds a.block)
    (image : BufferImage history c .idle) : ClientImage history c (located a) := by
  unfold located
  split
  next => exact ⟨valid, holds, image⟩
  next read =>
    refine ⟨valid, holds, image.located, fun cached block inside => ?_⟩
    obtain ⟨base, isImage, same⟩ := image.image cached block inside
    refine ⟨base, isImage, fun i bound => ?_⟩
    rw [same i bound]
    simp [ClientPc.copied]

theorem clientImage_afterSync {caller : Option Access}
    (valid : ∀ a, caller = some a → a.Valid) (image : BufferImage history c .idle) :
    ClientImage history c (afterSync caller) := by
  cases caller with
  | none => exact image
  | some a => exact ⟨valid a rfl, image⟩

theorem Fresh.bufferImage (fresh : Fresh c a) (valid : a.Valid) (holds : c.Holds a.block) :
    BufferImage history c .idle := by
  refine ⟨holds.located valid, fun _ block inside => ?_⟩
  refine ⟨fun i => c.flash (block * flashBlockSize + i), .inl fun _ _ => rfl, fun i bound => ?_⟩
  rw [holds.id] at inside
  simp only [flashBlockSize] at bound ⊢
  have address : a.block / 8 * 0x1000 + (block % 8 * 512 + i) = block * 512 + i := by omega
  rw [copied_idle, blit_zero, fresh _ (by omega), valid.sector, address]

/-- Once a block is copied whole, the buffer holds data that was passed for it. -/
theorem BufferImage.return_ (image : BufferImage history c (.copy a flashBlockSize))
    (announced : a.write = true → .called () (some a) ∈ history) :
    BufferImage history c .idle := by
  refine ⟨image.located, fun cached block inside => ?_⟩
  obtain ⟨base, isImage, same⟩ := image.image cached block inside
  simp only [ClientPc.copied] at same
  split at same
  next copied =>
    obtain ⟨write, rfl⟩ := copied
    have passed := passed_of_called (announced write) write
    refine ⟨a.buffer, .inr ⟨a.buffer, passed, fun _ _ => rfl⟩, fun i bound => ?_⟩
    rw [same i bound, copied_idle, blit_zero, blit_inside (Nat.zero_le i) (by omega)]
    simp only [Nat.zero_add, Nat.sub_zero]
  next =>
    refine ⟨base, isImage, fun i bound => ?_⟩
    rw [same i bound, copied_idle, blit_zero, blit_zero]

theorem ClientImage.clientStep {k : Unit} (image : ClientImage history c pc)
    (announced : ∀ a, pc.access = some a → a.write = true → .called () (some a) ∈ history)
    (step : ClientStep k c pc c' pc' event) : ClientImage history c' pc' := by
  cases step with
  | badBlock => exact image
  | goodBlock good => exact ⟨Access.valid_of_flashAddr good, image⟩
  | miss => exact ⟨fun b same => Option.some.inj same ▸ image.1, image.2⟩
  | hit hit =>
    obtain ⟨valid, image⟩ := image
    rw [valid.sector] at hit
    exact clientImage_located valid (image.located.holds valid hit) image
  | dirty => exact image
  | clean => exact clientImage_afterSync image.1 image.2
  | post => exact ⟨image.1, image.2.located, image.2.image⟩
  | pend => exact clientImage_afterSync image.1 ⟨image.2.located, image.2.image⟩
  | nvsRead =>
    obtain ⟨valid, _⟩ := image
    refine ⟨valid, fun j bound => ?_⟩
    simp only [Cache.nvsRead, valid.sector]
    exact blit_inside (Nat.zero_le j) (by omega)
  | setId => exact ⟨image.1, image.2, rfl⟩
  | setStart =>
    obtain ⟨valid, fresh, id⟩ := image
    have holds : Cache.Holds { c with flashCacheSectorStart := Access.sector _ |>.start } _ :=
      ⟨id.trans (congrArg SectorInfo.id valid.sector), congrArg SectorInfo.start valid.sector⟩
    exact ⟨valid, holds, Fresh.bufferImage fresh valid holds⟩
  | setSize =>
    obtain ⟨valid, holds, image⟩ := image
    exact clientImage_located valid ⟨holds.id, holds.start⟩ ⟨image.located, image.image⟩
  | setDirty =>
    obtain ⟨valid, holds, image⟩ := image
    exact ⟨valid, ⟨holds.id, holds.start⟩, image.located, image.image⟩
  | @ledOn a =>
    obtain ⟨valid, holds, image⟩ := image
    refine ⟨valid, ⟨holds.id, holds.start⟩, image.located, fun cached block inside => ?_⟩
    obtain ⟨base, isImage, same⟩ := image.image cached block inside
    refine ⟨base, isImage, fun i bound => (same i bound).trans ?_⟩
    simp [ClientPc.copied]
  | return_ =>
    obtain ⟨_, _, image⟩ := image
    exact image.return_ (announced _ rfl)

theorem Imaged.clientStep {k : Unit} (inv : Imaged flash history c flush pc)
    (step : ClientStep k c pc c' pc' event) :
    Imaged flash (history ++ event.toList) c' flush pc' where
  announced b same write := by
    rcases step.access with kept | none
    · exact List.mem_append_left _ (inv.announced b (kept ▸ same) write)
    · rw [none] at same
      cases same
  flushing writing := step.dirty_of_dirty (inv.flushing writing)
  placed dirty := by
    have client := inv.client
    cases step with
    | @setId a =>
      have small := Cache.sector_lt client.1
      simp only [client.1.sector, minusOne]
      omega
    | setDirty => exact client.2.1.cached client.1
    | badBlock | goodBlock | miss | hit | dirty | clean | post | pend | nvsRead | setStart
    | setSize | ledOn | return_ => exact inv.placed dirty
  client := (inv.client.clientStep inv.announced step).append _
  untouched := by
    intro block valid never
    rw [step.flash_eq]
    exact inv.untouched.append _ block valid never

/-- A piece of a `memcpy` copies more of its own block and leaves the others. -/
theorem BufferImage.memcpyIn {done n : Nat} (image : BufferImage history c (.copy a done))
    (valid : a.Valid) (holds : c.Holds a.block) (write : a.write = true)
    (fits : done + n ≤ flashBlockSize) :
    BufferImage history (c.memcpyIn a.offset a.buffer done n) (.copy a (done + n)) := by
  refine ⟨image.located, fun cached block inside => ?_⟩
  obtain ⟨base, isImage, same⟩ := image.image cached block inside
  refine ⟨base, isImage, fun i bound => ?_⟩
  have same := same i bound
  have sector : block / 8 = a.block / 8 := inside.trans holds.id
  simp only [ClientPc.copied, Cache.memcpyIn, valid.offset, write, true_and] at same ⊢
  simp only [flashBlockSize] at fits bound same ⊢
  by_cases own : a.block = block
  · subst own
    rw [if_pos rfl] at same ⊢
    simp only [blit] at same ⊢
    split_ifs at same ⊢
    any_goals omega
    congr 1
    omega
  · rw [if_neg own] at same ⊢
    rw [blit_outside (by omega), same, blit_zero]

theorem Imaged.copyStep {n : Nat} (inv : Imaged flash history c flush pc)
    (step : CopyStep n c pc c' pc') : Imaged flash history c' flush pc' := by
  have client := inv.client
  cases step with
  | write write positive fits =>
    obtain ⟨valid, holds, image⟩ := client
    exact ⟨inv.announced, inv.flushing, inv.placed,
      ⟨valid, ⟨holds.id, holds.start⟩, image.memcpyIn valid holds write fits⟩, inv.untouched⟩
  | @read a done read positive fits =>
    obtain ⟨valid, holds, image⟩ := client
    refine ⟨fun b same write => ?_, inv.flushing, inv.placed, ⟨valid, holds, image.located,
      fun cached block inside => ?_⟩, inv.untouched⟩
    · cases same
      exact absurd (read.symm.trans write) nofun
    · obtain ⟨base, isImage, same⟩ := image.image cached block inside
      simp only [ClientPc.copied, read, Bool.false_eq_true, false_and, if_false, blit_zero] at same
      refine ⟨base, isImage, fun i bound => ?_⟩
      simp only [ClientPc.copied, read, Bool.false_eq_true, false_and, if_false, blit_zero]
      exact same i bound

/-- What the flush writes is what it leaves in the buffer. -/
theorem BufferImage.nvsWrite (image : BufferImage history c pc)
    (cached : c.flashCacheSectorId ≠ minusOne) : BufferImage history c.nvsWrite pc := by
  refine ⟨image.located, fun _ block inside => ?_⟩
  obtain ⟨base, isImage, same⟩ := image.image cached block inside
  obtain ⟨_, start⟩ := image.located.resolve_left cached
  refine ⟨fun i => c.flashCacheMem (block % 8 * flashBlockSize + i), .inl fun i bound => ?_,
    fun i bound => ?_⟩
  · simp only [Cache.nvsWrite, flashBlockSize] at inside bound ⊢
    rw [blit_inside (by omega) (by omega)]
    congr 1
    omega
  · have same := same i bound
    simp only [Cache.nvsWrite, blit] at same ⊢
    split_ifs at same ⊢
    · exact same
    · rfl

theorem Untouched.nvsWrite (untouched : Untouched flash history c)
    (image : BufferImage history c pc) (cached : c.flashCacheSectorId ≠ minusOne)
    (announced : ∀ a, pc.access = some a → a.write = true → .called () (some a) ∈ history) :
    Untouched flash history c.nvsWrite := by
  intro block valid never i bound
  obtain ⟨_, start⟩ := image.located.resolve_left cached
  rw [← untouched block valid never i bound]
  by_cases inside : block / 8 = c.flashCacheSectorId
  · obtain ⟨base, isImage, same⟩ := image.image cached block inside
    have own : ∀ i < flashBlockSize, base i = c.flash (block * flashBlockSize + i) :=
      isImage.resolve_right fun ⟨data, passed, _⟩ => never data passed
    have nothing : (pc.copied block).1 = 0 := by
      cases pc with
      | copy a done =>
        simp only [ClientPc.copied]
        split
        next copied =>
          obtain ⟨write, rfl⟩ := copied
          exact absurd (passed_of_called (announced a rfl write) write) (never _)
        next => rfl
      | _ => rfl
    have same := same i bound
    rw [nothing, blit_zero, own i bound] at same
    rw [← same]
    simp only [Cache.nvsWrite, flashBlockSize] at bound ⊢
    rw [blit_inside (by omega) (by omega)]
    congr 1
    omega
  · simp only [Cache.nvsWrite, flashBlockSize] at bound ⊢
    exact blit_outside (by omega)

theorem FlushStep.same (step : FlushStep c flush c' flush') (other : flush ≠ .nvsWrite) :
    c'.flash = c.flash ∧ c'.flashCacheMem = c.flashCacheMem ∧
      c'.flashCacheSectorId = c.flashCacheSectorId ∧
      c'.flashCacheSectorStart = c.flashCacheSectorStart := by
  cases step with
  | nvsWrite => exact absurd rfl other
  | dirty | clean | clearFlags | postClean | ledOff | pend | timeout => exact ⟨rfl, rfl, rfl, rfl⟩

theorem BufferImage.of_same (image : BufferImage history c pc) (flash : c'.flash = c.flash)
    (mem : c'.flashCacheMem = c.flashCacheMem)
    (id : c'.flashCacheSectorId = c.flashCacheSectorId)
    (start : c'.flashCacheSectorStart = c.flashCacheSectorStart) : BufferImage history c' pc := by
  refine ⟨?_, fun cached block inside => ?_⟩
  · simpa only [Cache.Located, id, start] using image.located
  · simpa only [BlockImage, flash, mem] using image.image (id ▸ cached) block (id ▸ inside)

theorem ClientImage.flushStep (image : ClientImage history c pc)
    (cached : flush = .nvsWrite → c.flashCacheSectorId ≠ minusOne)
    (placed : flush = .nvsWrite → pc.relocating = false)
    (step : FlushStep c flush c' flush') : ClientImage history c' pc := by
  have buffer {pc : ClientPc} (image : BufferImage history c pc) : BufferImage history c' pc := by
    by_cases writing : flush = .nvsWrite
    · subst writing
      cases step
      exact image.nvsWrite (cached rfl)
    · obtain ⟨flash, mem, id, start⟩ := step.same writing
      exact image.of_same flash mem id start
  have fresh {a : Access} (moving : pc.relocating = true) (fresh : Fresh c a) : Fresh c' a := by
    have other (writing : flush = .nvsWrite) : False :=
      Bool.noConfusion (moving.symm.trans (placed writing))
    obtain ⟨flash, mem, _, _⟩ := step.same other
    simpa only [Fresh, flash, mem] using fresh
  cases pc with
  | idle | convert => exact buffer image
  | lookup | nvsRead | syncTest | syncPost | syncPend => exact ⟨image.1, buffer image.2⟩
  | setId => exact ⟨image.1, fresh rfl image.2⟩
  | setStart => exact ⟨image.1, fresh rfl image.2.1, step.sectorId_eq.trans image.2.2⟩
  | setSize | setDirty | ledOn | copy => exact ⟨image.1, step.holds image.2.1, buffer image.2.2⟩

/-- Where a client is not relocating, the buffer is the image of the cached sector. -/
theorem ClientImage.bufferImage (image : ClientImage history c pc)
    (settled : pc.relocating = false) : BufferImage history c pc := by
  cases pc with
  | idle | convert =>
    have image : BufferImage history c .idle := image
    exact ⟨image.located, image.image⟩
  | lookup | nvsRead | syncTest | syncPost | syncPend => exact ⟨image.2.located, image.2.image⟩
  | setId | setStart => cases settled
  | setSize | setDirty | ledOn | copy => exact ⟨image.2.2.located, image.2.2.image⟩

theorem Imaged.flushStep (inv : Imaged flash history c flush pc)
    (placed : flush = .nvsWrite → pc.relocating = false)
    (step : FlushStep c flush c' flush') : Imaged flash history c' flush' pc := by
  have cached (writing : flush = .nvsWrite) := inv.placed (inv.flushing writing)
  refine ⟨inv.announced, fun writing => ?_, fun dirty => ?_,
    inv.client.flushStep cached placed step, ?_⟩
  · cases step with
    | dirty dirty => exact dirty
    | clean | nvsWrite | clearFlags | postClean | ledOff | pend | timeout => cases writing
  · rw [step.sectorId_eq]
    exact inv.placed (step.dirty_of_dirty dirty)
  · by_cases writing : flush = .nvsWrite
    · subst writing
      cases step
      exact inv.untouched.nvsWrite (inv.client.bufferImage (placed rfl)) (cached rfl) inv.announced
    · have same := (step.same writing).1
      intro block valid never
      rw [same]
      exact inv.untouched block valid never

theorem Imaged.ownImage {s : Threads Unit}
    (inv : Imaged flash history s.cache s.flush (s.client ())) (writing : s.flush = .nvsWrite)
    (settled : (s.client ()).relocating = false) : OwnImage history s := by
  have image := inv.client.bufferImage settled
  have cached := inv.placed (inv.flushing writing)
  obtain ⟨small, start⟩ := image.located.resolve_left cached
  exact ⟨_, small, start.trans (Nat.mul_comm _ _), image.image cached⟩

variable {s s' : Threads Unit} {act : Act Unit}

/-- `Imaged` for the state of the whole system. -/
def Threads.Imaged (flash : Bytes) (history : List (Event Unit)) (s : Threads Unit) : Prop :=
  Storage.Imaged flash history s.cache s.flush (s.client ())

theorem imaged_init (flash : Bytes) : (Threads.init Unit flash).Imaged flash [] where
  announced _ same := nomatch same
  flushing writing := nomatch writing
  placed dirty := nomatch dirty
  client := ⟨.inl rfl, fun cached => absurd rfl cached⟩
  untouched _ _ _ _ _ := rfl

theorem Threads.Imaged.step (inv : s.Imaged flash history) (placed : WritesPlacedImages s act)
    (stepped : (Threads.system Unit).step s act = some (s', event)) :
    s'.Imaged flash (history ++ event.toList) := by
  cases Threads.step_cases placed.1 stepped with
  | @call k op idle =>
    unfold Threads.Imaged at inv
    rw [idle] at inv
    simp only [Threads.Imaged, Threads.moveClient_cache, Threads.moveClient_flush,
      Threads.moveClient_client_self, Option.toList_some]
    refine ⟨fun a same _ => ?_, inv.flushing, inv.placed, ?_, inv.untouched.append _⟩
    · have own : op = some a := by cases op <;> exact same
      rw [own]
      exact List.mem_append_right _ (List.mem_singleton_self _)
    · cases op with
      | none => exact ⟨nofun, inv.client.append _⟩
      | some a => exact inv.client.append _
  | client moved =>
    simp only [Threads.Imaged, Threads.moveClient_flush, Threads.moveClient_client_self]
    exact Storage.Imaged.clientStep inv moved
  | copy moved =>
    simp only [Threads.Imaged, Threads.moveClient_client_self, Option.toList_none, List.append_nil]
    exact Storage.Imaged.copyStep inv moved
  | flush moved =>
    rw [Option.toList_none, List.append_nil]
    exact Storage.Imaged.flushStep inv (fun writing => placed.2 writing ()) moved
  | timeout waiting moved =>
    rw [Option.toList_none, List.append_nil]
    exact Storage.Imaged.flushStep inv (fun writing => by rw [waiting] at writing; cases writing)
      moved

theorem imaged_run
    (run : (Threads.system Unit).Run WritesPlacedImages (.init Unit flash) history s) :
    s.Imaged flash history :=
  run.invariant (fun history s => s.Imaged flash history) (imaged_init flash)
    (fun inv placed stepped => inv.step placed stepped)

/-- No sector is written with another sector's image, and no block changes that
was never passed, in every run in which the flush does not write while the
client relocates the buffer. -/
theorem nvsWrite_ownImage
    (run : (Threads.system Unit).Run WritesPlacedImages (.init Unit flash) history s) :
    (s.flush = .nvsWrite → WritesPlaced s .flush → OwnImage history s) ∧
      Untouched flash history s.cache := by
  have inv := imaged_run run
  exact ⟨fun writing placed => Storage.Imaged.ownImage inv writing (placed writing ()), inv.untouched⟩

/-- A flash whose sectors differ: sector `k` is filled with the byte `k`. -/
def numberedFlash : Bytes := fun addr => UInt8.ofNat (addr / 0x1000)

/-- A write is flushed at the right place while its client goes on. -/
theorem nvsWrite_ownImage_afterWrite :
    ∃ history s, (Threads.system Unit).Run WritesPlacedImages (.init Unit numberedFlash) history s ∧
      OwnImage history s ∧ Untouched numberedFlash history s.cache := by
  obtain ⟨history, s, run, checked⟩ :=
    (Threads.system Unit).exists_run_of_exec WritesPlacedImages (.init Unit numberedFlash)
      (.flush :: missAccess () (readOf 0) ++ missAccess () (writeOf 8 9) ++ [.timeout, .flush])
      (fun (_, s) => decide (s.flush = .nvsWrite ∧ WritesPlaced s .flush)) rfl
  obtain ⟨writing, placed⟩ := of_decide_eq_true checked
  obtain ⟨image, untouched⟩ := nvsWrite_ownImage run
  exact ⟨history, s, run, image writing placed, untouched⟩

/-- Whether a write of `block` was called with a first byte `byte`. -/
def passesByte (block : Nat) (byte : UInt8) : Event Unit → Bool
  | .called _ (some a) => a.block == block && a.write && a.buffer 0 == byte
  | _ => false

/-- A stale clean token lets a client load sector 1 over unsaved data of sector 0;
a flush before the new address is assigned writes sector 1 over sector 0. -/
theorem nvsWrite_ownImage_fails :
    ¬ ∀ (flash : Bytes) (history : List (Event Unit)) (s : Threads Unit),
      (Threads.system Unit).Run Threads.NvsSucceeds (.init Unit flash) history s →
        (s.flush = .nvsWrite → OwnImage history s) ∧ Untouched flash history s.cache := by
  intro claim
  obtain ⟨history, s, run, checked⟩ :=
    (Threads.system Unit).exists_run_of_exec Threads.NvsSucceeds (.init Unit numberedFlash)
      (.flush :: missAccess () (writeOf 0 5) ++ .timeout :: flushSteps 5 ++
        hitAccess () (writeOf 0 6) ++ .call () (some (readOf 8)) :: clientSteps () 6 ++ flushSteps 2)
      (fun (history, s) => decide (s.flush = .nvsWrite ∧ s.cache.flashCacheSectorStart = 0 ∧
        ((s.client ()).copied 0).1 = 0 ∧ s.cache.flashCacheMem 0 = 1 ∧ s.cache.flash 0 = 5 ∧
        ∀ event ∈ history, passesByte 0 1 event = false)) rfl
  obtain ⟨writing, start, nothing, mem, flash, never⟩ := of_decide_eq_true checked
  obtain ⟨k, _, place, image⟩ := (claim _ _ _ run).1 writing
  have sector : k = 0 := by omega
  obtain ⟨base, isImage, same⟩ := image 0 (by omega)
  have same := same 0 (by decide)
  rw [nothing, blit_zero] at same
  have base_eq : base 0 = 1 := same.symm.trans mem
  rcases isImage with own | ⟨data, passed, own⟩
  · have contradiction := (own 0 (by decide)).symm.trans base_eq
    exact absurd (flash.symm.trans contradiction) (by decide)
  · have contradiction := (own 0 (by decide)).symm.trans base_eq
    have bad := never _ passed
    simp [passesByte, contradiction] at bad

end OneClient

end TildaMk4.Storage
