import Mathlib.Data.Fintype.Basic
import TildaMk4.Storage.Threads

/-!
# One client and the flush thread

Where a single client thread calls the cache, a run keeps `contents` equal to
what was last stored as long as three races do not happen: the flush clears a
flag that the client has just set (`KeepsFlag`), it writes a half copied block
(`WritesWholeBlocks`), and the client loads a sector over unsaved data
(`LoadsOverSaved`).
-/

namespace TildaMk4.Storage

open Memory Transition

variable {ι : Type}

/-- The data of the last completed write of a block, or its initial flash content. -/
def lastStored (flash : Bytes) (history : List (Event ι)) (block : Nat) : Bytes :=
  history.foldl (fun data event =>
    match event with
    | .written _ a => if a.block = block then a.buffer else data
    | _ => data) fun i => flash (block * flashBlockSize + i)

/-- The last stored data of all blocks as one flash content. -/
def stored (flash : Bytes) (history : List (Event ι)) : Bytes :=
  fun addr => lastStored flash history (addr / flashBlockSize) (addr % flashBlockSize)

/-- A content after the write that an event may complete. -/
def afterEvent (disk : Bytes) : Option (Event ι) → Bytes
  | some (.written _ a) => blit disk (a.block * flashBlockSize) a.buffer 0 flashBlockSize
  | _ => disk

theorem stored_at (flash : Bytes) (history : List (Event ι)) (block : Nat) {i : Nat}
    (bound : i < flashBlockSize) :
    stored flash history (block * flashBlockSize + i) = lastStored flash history block i := by
  simp only [stored, flashBlockSize] at bound ⊢
  have index : (block * 512 + i) / 512 = block := by omega
  have position : (block * 512 + i) % 512 = i := by omega
  rw [index, position]

@[simp] theorem stored_nil (flash : Bytes) : stored flash ([] : List (Event ι)) = flash := by
  funext addr
  simp only [stored, lastStored, List.foldl_nil, flashBlockSize]
  congr 1
  omega

theorem lastStored_written (flash : Bytes) (history : List (Event ι)) (k : ι) (a : Access)
    (block : Nat) :
    lastStored flash (history ++ [.written k a]) block =
      if a.block = block then a.buffer else lastStored flash history block := by
  simp only [lastStored, List.foldl_append, List.foldl_cons, List.foldl_nil]

theorem stored_append (flash : Bytes) (history : List (Event ι)) (event : Option (Event ι)) :
    stored flash (history ++ event.toList) = afterEvent (stored flash history) event := by
  match event with
  | some (.written k a) =>
    funext addr
    simp only [Option.toList_some, stored, lastStored_written, afterEvent, blit, flashBlockSize]
    split_ifs
    any_goals omega
    · congr 1
      omega
    · rfl
  | none => simp [afterEvent]
  | some (.called _ _) | some (.read _ _) | some (.refused _ _) | some (.synced _)
  | some (.raised _) =>
    funext addr
    simp only [Option.toList_some, stored, lastStored, List.foldl_append, List.foldl_cons,
      List.foldl_nil, afterEvent]

namespace Access

def Valid (a : Access) : Prop := a.block < flashMemSeg1NumBlocks

variable {a : Access}

theorem valid_of_flashAddr (good : a.flashAddr ≠ minusOne) : a.Valid := by
  by_contra bad
  exact good ((convertBlockToFlashAddr_eq_minusOne_iff _).mpr (Nat.le_of_not_lt bad))

theorem Valid.flashAddr (valid : a.Valid) : a.flashAddr = a.block * flashBlockSize :=
  convertBlockToFlashAddr_of_lt valid

theorem Valid.sector (valid : a.Valid) :
    a.sector = ⟨a.block / 8, a.block / 8 * 0x1000, 0x1000⟩ := by
  rw [Access.sector, valid.flashAddr, Cache.sectorOf_block valid]

theorem Valid.offset (valid : a.Valid) : a.offset = a.block % 8 * flashBlockSize := by
  rw [Access.offset, valid.flashAddr, Cache.offsetOf_block valid]

end Access

namespace ClientPc

def atSetDirty : ClientPc → Bool
  | .setDirty _ => true
  | _ => false

def atNvsRead : ClientPc → Bool
  | .nvsRead _ => true
  | _ => false

/-- The wait for the clean token of an explicit sync. -/
def atSyncReturn : ClientPc → Bool
  | .syncPend none => true
  | _ => false

/-- The client is inside the `memcpy` of a write that it has announced. -/
def copying : ClientPc → Bool
  | .ledOn _ => true
  | .copy a done => a.write && decide (done < flashBlockSize)
  | _ => false

end ClientPc

/-- The buffer is on the flash: it was never announced as dirty, or the flush
has written it and is about to say so. -/
def Saved (c : Cache) (flush : FlushPc) : Prop :=
  c.flashFlagDirty = false ∨ flush = .clearFlags

instance (c : Cache) (flush : FlushPc) : Decidable (Saved c flush) :=
  inferInstanceAs (Decidable (_ ∨ _))

theorem not_saved_setDirty {c : Cache} {flush : FlushPc} (notClearing : flush ≠ .clearFlags) :
    ¬ Saved { c with flashFlagDirty := true } flush := by
  rintro (clean | clearing)
  · cases clean
  · exact notClearing clearing

/-- No client sets the flag between `NVS_write` and the statement that clears it. -/
def KeepsFlag (s : Threads ι) : Act ι → Prop
  | .client k => (s.client k).atSetDirty = true → s.flush ≠ .clearFlags
  | _ => True

/-- `NVS_write` does not run while a client is copying. -/
def WritesWholeBlocks (s : Threads ι) : Act ι → Prop
  | .flush => s.flush = .nvsWrite → ∀ k, (s.client k).copying = false
  | _ => True

/-- `NVS_read` does not run over unsaved data. -/
def LoadsOverSaved (s : Threads ι) : Act ι → Prop
  | .client k => (s.client k).atNvsRead = true → Saved s.cache s.flush
  | _ => True

instance (s : Threads ι) (act : Act ι) : Decidable (KeepsFlag s act) :=
  match act with
  | .client _ => inferInstanceAs (Decidable (_ → _))
  | .call _ _ | .copy _ _ | .readFails _ _ | .flush | .timeout | .writeFails _ => isTrue trivial

instance [Fintype ι] (s : Threads ι) (act : Act ι) : Decidable (WritesWholeBlocks s act) :=
  match act with
  | .flush => inferInstanceAs (Decidable (_ → _))
  | .call _ _ | .client _ | .copy _ _ | .readFails _ _ | .timeout | .writeFails _ => isTrue trivial

instance (s : Threads ι) (act : Act ι) : Decidable (LoadsOverSaved s act) :=
  match act with
  | .client _ => inferInstanceAs (Decidable (_ → _))
  | .call _ _ | .copy _ _ | .readFails _ _ | .flush | .timeout | .writeFails _ => isTrue trivial

/-- Outside the miss branch: the cache shows `visible`, and what is saved agrees
with the flash. -/
structure Settled (visible : Bytes) (c : Cache) (flush : FlushPc) : Prop where
  located : c.Located
  agrees : Saved c flush → c.flashCacheSectorId ≠ minusOne → c.Agrees
  contents : c.contents = visible

/-- Inside the miss branch: the flash alone holds the data, the buffer the new sector. -/
structure Loaded (disk : Bytes) (c : Cache) (flush : FlushPc) (a : Access) : Prop where
  saved : Saved c flush
  flash : c.flash = disk
  mem : ∀ j < 0x1000, c.flashCacheMem j = c.flash (a.sector.start + j)

/-- What holds at each statement of the client. -/
def ClientCoherent (disk : Bytes) (c : Cache) (flush : FlushPc) : ClientPc → Prop
  | .idle | .convert _ => Settled disk c flush
  | .lookup a | .nvsRead a => a.Valid ∧ Settled disk c flush
  | .syncTest caller | .syncPost caller | .syncPend caller =>
    (∀ a, caller = some a → a.Valid) ∧ Settled disk c flush
  | .setId a => a.Valid ∧ Loaded disk c flush a
  | .setStart a => a.Valid ∧ Loaded disk c flush a ∧ c.flashCacheSectorId = a.sector.id
  | .setSize a => a.Valid ∧ Loaded disk c flush a ∧ c.Holds a.block
  | .setDirty a => a.Valid ∧ a.write = true ∧ c.Holds a.block ∧ Settled disk c flush
  | .ledOn a =>
    a.Valid ∧ a.write = true ∧ c.Holds a.block ∧ ¬ Saved c flush ∧ Settled disk c flush
  | .copy a done =>
    a.Valid ∧ done ≤ flashBlockSize ∧ c.Holds a.block ∧
      if a.write then
        (done < flashBlockSize → ¬ Saved c flush) ∧
          Settled (blit disk (a.block * flashBlockSize) a.buffer 0 done) c flush
      else Settled disk c flush ∧
        ∀ i < done, a.buffer i = disk (a.block * flashBlockSize + i)

structure Coherent (disk : Bytes) (c : Cache) (flush : FlushPc) (pc : ClientPc) : Prop where
  flushing : flush = .nvsWrite ∨ flush = .clearFlags → c.flashFlagDirty = true
  placed : c.flashFlagDirty = true → c.flashCacheSectorId ≠ minusOne
  client : ClientCoherent disk c flush pc

section Client

variable {disk visible : Bytes} {c c' : Cache} {flush flush' : FlushPc} {pc pc' : ClientPc}
  {a : Access}

theorem Loaded.settled (loaded : Loaded disk c flush a) (valid : a.Valid)
    (holds : c.Holds a.block) : Settled disk c flush := by
  have agrees : c.Agrees := fun j bound => by
    rw [loaded.mem j bound, holds.start, valid.sector]
  exact ⟨holds.located valid, fun _ _ => agrees,
    (Cache.contents_of_agrees fun _ => agrees).trans loaded.flash⟩

theorem clientCoherent_located (valid : a.Valid) (holds : c.Holds a.block)
    (settled : Settled disk c flush) : ClientCoherent disk c flush (located a) := by
  unfold located
  split
  next write => exact ⟨valid, write, holds, settled⟩
  next read =>
    refine ⟨valid, Nat.zero_le _, holds, ?_⟩
    rw [if_neg read]
    exact ⟨settled, fun i impossible => absurd impossible (Nat.not_lt_zero i)⟩

theorem clientCoherent_afterSync {caller : Option Access}
    (valid : ∀ a, caller = some a → a.Valid) (settled : Settled disk c flush) :
    ClientCoherent disk c flush (afterSync caller) := by
  cases caller with
  | none => exact settled
  | some a => exact ⟨valid a rfl, settled⟩

@[simp] theorem afterEvent_syncReturn (k : ι) (caller : Option Access) :
    afterEvent disk (syncReturn k caller) = disk := by
  cases caller <;> rfl

/-- A client statement keeps the coherence, and what it stores is what it reports. -/
theorem Coherent.clientStep {k : ι} {event : Option (Event ι)}
    (inv : Coherent disk c flush pc) (flag : ∀ a, pc = .setDirty a → flush ≠ .clearFlags)
    (loads : ∀ a, pc = .nvsRead a → Saved c flush) (step : ClientStep k c pc c' pc' event) :
    Coherent (afterEvent disk event) c' flush pc' := by
  have client := inv.client
  cases step with
  | badBlock => exact ⟨inv.flushing, inv.placed, client⟩
  | goodBlock good =>
    exact ⟨inv.flushing, inv.placed, Access.valid_of_flashAddr good, client⟩
  | miss =>
    exact ⟨inv.flushing, inv.placed, fun b same => Option.some.inj same ▸ client.1, client.2⟩
  | hit hit =>
    obtain ⟨valid, settled⟩ := client
    rw [valid.sector] at hit
    exact ⟨inv.flushing, inv.placed,
      clientCoherent_located valid (settled.located.holds valid hit) settled⟩
  | dirty => exact ⟨inv.flushing, inv.placed, client⟩
  | clean =>
    rw [afterEvent_syncReturn]
    exact ⟨inv.flushing, inv.placed, clientCoherent_afterSync client.1 client.2⟩
  | post =>
    obtain ⟨valid, settled⟩ := client
    exact ⟨inv.flushing, inv.placed, valid, settled.located, settled.agrees, settled.contents⟩
  | pend =>
    obtain ⟨valid, settled⟩ := client
    rw [afterEvent_syncReturn]
    exact ⟨inv.flushing, inv.placed,
      clientCoherent_afterSync valid ⟨settled.located, settled.agrees, settled.contents⟩⟩
  | nvsRead =>
    obtain ⟨valid, settled⟩ := client
    have saved := loads _ rfl
    have visible := Cache.contents_of_agrees (settled.agrees saved)
    refine ⟨inv.flushing, inv.placed, valid, saved, visible.symm.trans settled.contents, ?_⟩
    intro j bound
    simp only [Cache.nvsRead, valid.sector]
    exact blit_inside (Nat.zero_le j) (by omega)
  | setId =>
    obtain ⟨valid, loaded⟩ := client
    have small := Cache.sector_lt valid
    refine ⟨inv.flushing, fun _ => ?_, valid, ⟨loaded.saved, loaded.flash, loaded.mem⟩, rfl⟩
    simp only [valid.sector, minusOne]
    omega
  | setStart =>
    obtain ⟨valid, loaded, id⟩ := client
    exact ⟨inv.flushing, inv.placed, valid, ⟨loaded.saved, loaded.flash, loaded.mem⟩,
      id.trans (congrArg SectorInfo.id valid.sector), congrArg SectorInfo.start valid.sector⟩
  | setSize =>
    obtain ⟨valid, loaded, holds⟩ := client
    have settled := loaded.settled valid holds
    exact ⟨inv.flushing, inv.placed, clientCoherent_located valid ⟨holds.id, holds.start⟩
      ⟨settled.located, settled.agrees, settled.contents⟩⟩
  | setDirty =>
    obtain ⟨valid, write, holds, settled⟩ := client
    have unsaved := not_saved_setDirty (c := c) (flag _ rfl)
    exact ⟨fun _ => rfl, fun _ => holds.cached valid, valid, write, ⟨holds.id, holds.start⟩,
      unsaved, settled.located, fun saved => absurd saved unsaved, settled.contents⟩
  | ledOn =>
    obtain ⟨valid, write, holds, unsaved, settled⟩ := client
    refine ⟨inv.flushing, inv.placed, valid, Nat.zero_le _, ⟨holds.id, holds.start⟩, ?_⟩
    rw [if_pos write, blit_zero]
    exact ⟨fun _ => unsaved, settled.located, settled.agrees, settled.contents⟩
  | return_ =>
    obtain ⟨valid, _, _, data⟩ := client
    unfold accessReturn
    split
    next write =>
      rw [if_pos write] at data
      exact ⟨inv.flushing, inv.placed, data.2⟩
    next read =>
      rw [if_neg read] at data
      exact ⟨inv.flushing, inv.placed, data.1⟩

/-- A piece of a `memcpy` moves the data of the client's own block. -/
theorem Coherent.copyStep {n : Nat} (inv : Coherent disk c flush pc)
    (step : CopyStep n c pc c' pc') : Coherent disk c' flush pc' := by
  have client := inv.client
  cases step with
  | @write a done write positive fits =>
    obtain ⟨valid, _, holds, data⟩ := client
    rw [if_pos write] at data
    obtain ⟨unsaved, settled⟩ := data
    have unsaved := unsaved (by omega)
    refine ⟨inv.flushing, inv.placed, valid, fits, ⟨holds.id, holds.start⟩, ?_⟩
    rw [if_pos write]
    refine ⟨fun _ => unsaved, settled.located, fun saved => absurd saved unsaved, ?_⟩
    have copied := holds.contents_memcpyIn valid a.buffer fits
    have pieces := blit_blit_add disk a.buffer (a.block * flashBlockSize) 0 done n
    rw [Nat.zero_add] at pieces
    rw [valid.offset, copied, settled.contents, pieces]
  | @read a done read positive fits =>
    obtain ⟨valid, _, holds, data⟩ := client
    rw [if_neg (by rw [read]; nofun)] at data
    obtain ⟨settled, delivered⟩ := data
    refine ⟨inv.flushing, inv.placed, valid, fits, holds, ?_⟩
    rw [if_neg (by rw [read]; nofun)]
    refine ⟨settled, fun i bound => ?_⟩
    rcases Nat.lt_or_ge i done with before | after
    · exact (blit_outside (.inl before)).trans (delivered i before)
    · have position : a.offset + done + (i - done) = a.block % 8 * flashBlockSize + i := by
        rw [valid.offset]
        omega
      simp only
      rw [blit_inside after bound, position, holds.mem_eq valid (by omega), settled.contents]

theorem FlushStep.saved (step : FlushStep c flush c' flush') (other : flush ≠ .nvsWrite)
    (saved : Saved c' flush') : Saved c flush := by
  cases step with
  | nvsWrite => exact absurd rfl other
  | clean clean => exact .inl clean
  | clearFlags => exact .inr rfl
  | dirty | postClean | ledOff | pend | timeout => exact saved.elim .inl nofun

theorem FlushStep.dirty_of_dirty (step : FlushStep c flush c' flush')
    (dirty : c'.flashFlagDirty = true) : c.flashFlagDirty = true := by
  cases step with
  | clearFlags => cases dirty
  | dirty | clean | nvsWrite | postClean | ledOff | pend | timeout => exact dirty

theorem FlushStep.sectorId_eq (step : FlushStep c flush c' flush') :
    c'.flashCacheSectorId = c.flashCacheSectorId := by
  cases step <;> rfl

theorem FlushStep.holds {block : Nat} (step : FlushStep c flush c' flush')
    (holds : c.Holds block) : c'.Holds block := by
  cases step <;> exact ⟨holds.id, holds.start⟩

theorem Settled.flushStep (settled : Settled visible c flush)
    (cached : flush = .nvsWrite → c.flashCacheSectorId ≠ minusOne)
    (step : FlushStep c flush c' flush') : Settled visible c' flush' := by
  have saved := step.saved
  cases step with
  | nvsWrite =>
    exact ⟨settled.located, fun _ _ => Cache.agrees_nvsWrite c,
      (Cache.contents_nvsWrite (cached rfl)).trans settled.contents⟩
  | dirty | clean | clearFlags | postClean | ledOff | pend | timeout =>
    exact ⟨settled.located, fun now => settled.agrees (saved nofun now), settled.contents⟩

theorem Loaded.flushStep (loaded : Loaded disk c flush a)
    (flushing : flush = .nvsWrite → c.flashFlagDirty = true)
    (step : FlushStep c flush c' flush') : Loaded disk c' flush' a := by
  have saved := loaded.saved
  cases step with
  | dirty dirty => exact ⟨.inl (saved.resolve_right nofun), loaded.flash, loaded.mem⟩
  | nvsWrite =>
    rcases saved with clean | impossible
    · exact absurd (flushing rfl) (by rw [clean]; nofun)
    · cases impossible
  | clearFlags => exact ⟨.inl rfl, loaded.flash, loaded.mem⟩
  | clean | postClean | ledOff | pend | timeout =>
    exact ⟨.inl (saved.resolve_right nofun), loaded.flash, loaded.mem⟩

/-- Outside `NVS_write`, the flush thread does not make unsaved data look saved. -/
theorem FlushStep.unsaved (step : FlushStep c flush c' flush') (other : flush ≠ .nvsWrite)
    (unsaved : ¬ Saved c flush) : ¬ Saved c' flush' :=
  fun saved => unsaved (step.saved other saved)

/-- A statement of the flush thread keeps the coherence if it does not write in
the middle of a copy. -/
theorem Coherent.flushStep (inv : Coherent disk c flush pc)
    (whole : flush = .nvsWrite → pc.copying = false) (step : FlushStep c flush c' flush') :
    Coherent disk c' flush' pc := by
  have cached (writing : flush = .nvsWrite) := inv.placed (inv.flushing (.inl writing))
  refine ⟨fun flushing => ?_, fun dirty => ?_, ?_⟩
  · cases step with
    | dirty dirty => exact dirty
    | nvsWrite => exact inv.flushing (.inl rfl)
    | clean | clearFlags | postClean | ledOff | pend | timeout =>
      rcases flushing with impossible | impossible <;> cases impossible
  · rw [step.sectorId_eq]
    exact inv.placed (step.dirty_of_dirty dirty)
  have client := inv.client
  cases pc with
  | idle | convert a => exact client.flushStep cached step
  | lookup a | nvsRead a | syncTest caller | syncPost caller | syncPend caller =>
    exact ⟨client.1, client.2.flushStep cached step⟩
  | setId a => exact ⟨client.1, client.2.flushStep (fun h => inv.flushing (.inl h)) step⟩
  | setStart a =>
    obtain ⟨valid, loaded, id⟩ := client
    exact ⟨valid, loaded.flushStep (fun h => inv.flushing (.inl h)) step, step.sectorId_eq.trans id⟩
  | setSize a =>
    obtain ⟨valid, loaded, holds⟩ := client
    exact ⟨valid, loaded.flushStep (fun h => inv.flushing (.inl h)) step, step.holds holds⟩
  | setDirty a =>
    obtain ⟨valid, write, holds, settled⟩ := client
    exact ⟨valid, write, step.holds holds, settled.flushStep cached step⟩
  | ledOn a =>
    obtain ⟨valid, write, holds, unsaved, settled⟩ := client
    have other (writing : flush = .nvsWrite) : False := nomatch whole writing
    exact ⟨valid, write, step.holds holds, step.unsaved other unsaved,
      settled.flushStep cached step⟩
  | copy a done =>
    obtain ⟨valid, bound, holds, data⟩ := client
    refine ⟨valid, bound, step.holds holds, ?_⟩
    split at data
    next write =>
      rw [if_pos write]
      have other (partly : done < flashBlockSize) (writing : flush = .nvsWrite) : False := by
        simpa [ClientPc.copying, write, partly] using whole writing
      exact ⟨fun partly => step.unsaved (other partly) (data.1 partly),
        data.2.flushStep cached step⟩
    next read =>
      rw [if_neg read]
      exact ⟨data.1.flushStep cached step, data.2⟩

theorem Coherent.read_eq {k k' : ι} {event : Option (Event ι)} (inv : Coherent disk c flush pc)
    (step : ClientStep k c pc c' pc' event) (returns : event = some (.read k' a)) :
    ∀ i < flashBlockSize, a.buffer i = disk (a.block * flashBlockSize + i) := by
  cases step with
  | return_ =>
    obtain ⟨_, _, _, data⟩ := inv.client
    simp only [accessReturn, Option.some.injEq] at returns
    split at returns
    next => cases returns
    next read =>
      cases returns
      rw [if_neg read] at data
      exact data.2
  | clean | pend =>
    next caller _ => cases caller <;> cases returns
  | badBlock | goodBlock | miss | hit | dirty | post | nvsRead | setId | setStart | setSize
  | setDirty | ledOn => cases returns

end Client

/-- The steps without one of the three races, the NVS driver succeeding. -/
def Undisturbed (s : Threads ι) (act : Act ι) : Prop :=
  s.NvsSucceeds act ∧ KeepsFlag s act ∧ WritesWholeBlocks s act ∧ LoadsOverSaved s act

section OneClient

variable {flash disk : Bytes} {s s' : Threads Unit} {act : Act Unit} {history : List (Event Unit)}
  {event : Option (Event Unit)}

instance : Decidable (Undisturbed s act) := inferInstanceAs (Decidable (_ ∧ _ ∧ _ ∧ _))

/-- `Coherent` for the state of the whole system. -/
def Threads.Coherent (disk : Bytes) (s : Threads Unit) : Prop :=
  Storage.Coherent disk s.cache s.flush (s.client ())

theorem coherent_init (flash : Bytes) : (Threads.init Unit flash).Coherent flash where
  flushing flushing := by rcases flushing with impossible | impossible <;> cases impossible
  placed dirty := nomatch dirty
  client := ⟨.inl rfl, fun _ cached => absurd rfl cached, Cache.contents_init flash⟩

theorem Threads.Coherent.step (inv : s.Coherent disk) (undisturbed : Undisturbed s act)
    (stepped : (Threads.system Unit).step s act = some (s', event)) :
    s'.Coherent (afterEvent disk event) := by
  obtain ⟨succeeds, flag, whole, loads⟩ := undisturbed
  cases Threads.step_cases succeeds stepped with
  | @call k op idle =>
    unfold Threads.Coherent at inv
    rw [idle] at inv
    simp only [Threads.Coherent, Threads.moveClient_cache, Threads.moveClient_flush,
      Threads.moveClient_client_self]
    refine ⟨inv.flushing, inv.placed, ?_⟩
    cases op with
    | none => exact ⟨nofun, inv.client⟩
    | some a => exact inv.client
  | client moved =>
    simp only [Threads.Coherent, Threads.moveClient_flush, Threads.moveClient_client_self]
    exact Storage.Coherent.clientStep inv
      (fun a here => flag (congrArg ClientPc.atSetDirty here))
      (fun a here => loads (congrArg ClientPc.atNvsRead here)) moved
  | copy moved =>
    simp only [Threads.Coherent, Threads.moveClient_client_self]
    exact Storage.Coherent.copyStep inv moved
  | flush moved => exact Storage.Coherent.flushStep inv (fun writing => whole writing ()) moved
  | timeout waiting moved =>
    exact Storage.Coherent.flushStep inv (fun writing => by rw [waiting] at writing; cases writing)
      moved

theorem coherent_run (run : (Threads.system Unit).Run Undisturbed (.init Unit flash) history s) :
    s.Coherent (stored flash history) :=
  run.invariant (fun history s => s.Coherent (stored flash history))
    (by rw [stored_nil]; exact coherent_init flash)
    (fun inv undisturbed stepped => by
      rw [stored_append]
      exact inv.step undisturbed stepped)

/-- What a read is to deliver. -/
def ReadsLastStored (flash : Bytes) (before : List (Event ι)) : Event ι → Prop
  | .read _ a => ∀ i < flashBlockSize, a.buffer i = lastStored flash before a.block i
  | _ => True

theorem Threads.Coherent.reads (inv : s.Coherent (stored flash history))
    (undisturbed : Undisturbed s act)
    (stepped : (Threads.system Unit).step s act = some (s', event)) (last : Event Unit)
    (emitted : event = some last) : ReadsLastStored flash history last := by
  cases last with
  | read k a =>
    intro i bound
    cases Threads.step_cases undisturbed.1 stepped with
    | client moved =>
      rw [Storage.Coherent.read_eq inv moved emitted i bound, stored_at _ _ _ bound]
    | call | copy | flush | timeout => cases emitted
  | called | written | refused | synced | raised => trivial

/-- Read-your-writes, in every run without the three races. -/
theorem readYourWrites
    (run : (Threads.system Unit).Run Undisturbed (.init Unit flash) history s) :
    Along (ReadsLastStored flash) history := by
  have both := run.invariant
    (fun history s => s.Coherent (stored flash history) ∧ Along (ReadsLastStored flash) history)
    ⟨by rw [stored_nil]; exact coherent_init flash, along_nil _⟩
    (fun inv undisturbed stepped =>
      ⟨by rw [stored_append]; exact inv.1.step undisturbed stepped,
        inv.2.append fun last emitted => inv.1.reads undisturbed stepped last emitted⟩)
  exact both.2

/-- The data that the last event, a read, delivered at the block's first byte. -/
def lastDelivered (history : List (Event Unit)) : Option UInt8 :=
  match history.getLast? with
  | some (.read _ a) => some (a.buffer 0)
  | _ => none

/-- A write, the flush that a load of another sector waits for, and the read back. -/
theorem readYourWrites_acrossSectors :
    ∃ history s, (Threads.system Unit).Run Undisturbed (.init Unit blankFlash) history s ∧
      lastDelivered history = some 1 ∧ Along (ReadsLastStored blankFlash) history := by
  obtain ⟨history, s, run, delivered⟩ :=
    (Threads.system Unit).exists_run_of_exec Undisturbed (.init Unit blankFlash)
      (.flush :: missAccess () (writeOf 0 1) ++ .call () (some (readOf 8)) :: clientSteps () 4 ++
        flushSteps 6 ++ clientSteps () 5 ++ copyAndReturn () ++ missAccess () (readOf 0))
      (fun (history, _) => lastDelivered history == some 1) rfl
  exact ⟨history, s, run, by simpa using delivered, readYourWrites run⟩

/-- The flush clears the flag after the client has set it and before the client
has copied; the load of another sector then drops the written block. -/
theorem readYourWrites_fails :
    ¬ ∀ (flash : Bytes) (history : List (Event Unit)) (s : Threads Unit),
      (Threads.system Unit).Run Threads.NvsSucceeds (.init Unit flash) history s →
        Along (ReadsLastStored flash) history := by
  intro claim
  obtain ⟨history, s, run, stale⟩ :=
    (Threads.system Unit).exists_run_of_exec Threads.NvsSucceeds (.init Unit blankFlash)
      (.flush :: .call () (some (writeOf 0 1)) :: clientSteps () 9 ++ .timeout :: flushSteps 5 ++
        copyAndReturn () ++ missAccess () (readOf 8) ++ missAccess () (readOf 0))
      (fun (history, _) =>
        match history.getLast? with
        | some (.read _ a) => a.buffer 0 != lastStored blankFlash history.dropLast a.block 0
        | _ => false) rfl
  simp only at stale
  split at stale
  next k a last =>
    have split := List.dropLast_append_getLast? _ last
    have delivered := claim _ _ _ run _ _ [] split.symm 0 (by decide)
    simp [delivered] at stale
  next => cases stale

end OneClient

end TildaMk4.Storage
