import TildaMk4.Storage.SectorImage
import TildaMk4.Storage.WakeUp

/-!
# The dirty flag and the red LED

With any number of clients, a cache at rest tells the truth about itself in every
run in which the flag is not cleared under a writer, the flush does not write a
half copied block or a modified buffer that is being relocated, no two clients
load different sectors at once, and the LED is not switched off under a writer.
-/

namespace TildaMk4.Storage

open Memory Transition

/-- The sector that a client has loaded without having assigned its address. -/
def ClientPc.loading : ClientPc → Option SectorInfo
  | .setId a | .setStart a => some a.sector
  | _ => none

/-- The client is about to switch the LED on. -/
def ClientPc.lighting : ClientPc → Bool
  | .ledOn _ => true
  | _ => false

variable {ι : Type}

/-- The buffer equals the flash content of a sector. -/
def EqualsSector (c : Cache) (sector : Nat) : Prop :=
  ∀ j < 0x1000, c.flashCacheMem j = c.flash (sector * 0x1000 + j)

instance (c : Cache) (sector : Nat) : Decidable (EqualsSector c sector) :=
  Nat.decidableBallLT _ _

/-- A load does not run while another client relocates the buffer to another sector. -/
def LoadsAlone (s : Threads ι) : Act ι → Prop
  | .client k => (s.client k).atNvsRead = true → ∀ other, other ≠ k →
    (s.client other).loading = none ∨
      (s.client other).loading = (s.client k).access.map Access.sector
  | _ => True

/-- While a client relocates the buffer, `NVS_write` stores it only unmodified or
at the address of the sector that is loaded. -/
def WritesUnmodified (s : Threads ι) : Act ι → Prop
  | .flush => s.flush = .nvsWrite → ∀ k, ∀ sector ∈ (s.client k).loading,
    s.cache.flashCacheSectorStart = sector.start ∨ EqualsSector s.cache sector.id
  | _ => True

/-- The LED is not switched off while the flag is set, unless a client is about
to switch it on again. -/
def LedOffClean (s : Threads ι) : Act ι → Prop
  | .flush => s.flush = .ledOff → (∀ k, (s.client k).lighting = false) →
    s.cache.flashFlagDirty = false
  | _ => True

/-- The steps without one of the races on the indicators. -/
def Indicates (s : Threads ι) (act : Act ι) : Prop :=
  s.NvsSucceeds act ∧ KeepsFlag s act ∧ WritesWholeBlocks s act ∧ LoadsAlone s act ∧
    WritesUnmodified s act ∧ LedOffClean s act

section Decidable

variable [DecidableEq ι] [Fintype ι]

instance (s : Threads ι) (act : Act ι) : Decidable (LoadsAlone s act) :=
  match act with
  | .client _ => inferInstanceAs (Decidable (_ → _))
  | .call _ _ | .copy _ _ | .readFails _ _ | .flush | .timeout | .writeFails _ => isTrue trivial

instance (s : Threads ι) (act : Act ι) : Decidable (WritesUnmodified s act) :=
  match act with
  | .flush => inferInstanceAs (Decidable (_ → ∀ k, ∀ sector ∈ (s.client k).loading, _))
  | .call _ _ | .client _ | .copy _ _ | .readFails _ _ | .timeout | .writeFails _ => isTrue trivial

instance (s : Threads ι) (act : Act ι) : Decidable (LedOffClean s act) :=
  match act with
  | .flush => inferInstanceAs (Decidable (_ → _))
  | .call _ _ | .client _ | .copy _ _ | .readFails _ _ | .timeout | .writeFails _ => isTrue trivial

instance (s : Threads ι) (act : Act ι) : Decidable (Indicates s act) :=
  inferInstanceAs (Decidable (_ ∧ _ ∧ _ ∧ _ ∧ _ ∧ _))

end Decidable

/-- No thread is inside one of the cache functions. -/
def AtRest (s : Threads ι) : Prop :=
  (s.flush = .pend ∨ s.flush = .test) ∧ ∀ k, s.client k = .idle

def ClientPc.isIdle : ClientPc → Bool
  | .idle => true
  | _ => false

theorem ClientPc.isIdle_iff (pc : ClientPc) : pc.isIdle = true ↔ pc = .idle := by
  cases pc <;> simp [ClientPc.isIdle]

instance (pc : ClientPc) : Decidable (pc = .idle) := decidable_of_iff _ pc.isIdle_iff

instance [Fintype ι] (s : Threads ι) : Decidable (AtRest s) :=
  inferInstanceAs (Decidable (_ ∧ ∀ k, s.client k = .idle))

/-- A clear flag means that the cached sector is on the flash, and the LED shows
the flag. -/
def TellsTruth (c : Cache) : Prop :=
  (c.flashFlagDirty = false → c.flashCacheSectorId ≠ minusOne →
    EqualsSector c c.flashCacheSectorId) ∧
    (c.redLed = true ↔ c.flashFlagDirty = true)

/-- What holds at each statement of a client, all relocating clients loading the
sector `target`. -/
def ClientIndicated (target : Nat) (c : Cache) (flush : FlushPc) : ClientPc → Prop
  | .idle | .convert _ => True
  | .lookup a | .nvsRead a | .setSize a | .setDirty a => a.Valid
  | .syncTest caller | .syncPost caller | .syncPend caller => ∀ a, caller = some a → a.Valid
  | .setId a => a.Valid ∧ a.block / 8 = target
  | .setStart a => a.Valid ∧ a.block / 8 = target ∧ c.flashCacheSectorId = target
  | .ledOn a => a.Valid ∧ ¬ Saved c flush
  | .copy a done => a.Valid ∧ (a.write = true → done < flashBlockSize → ¬ Saved c flush)

structure Indicated (target : Nat) (c : Cache) (flush : FlushPc) (client : ι → ClientPc) :
    Prop where
  clients : ∀ k, ClientIndicated target c flush (client k)
  flushing : flush = .nvsWrite ∨ flush = .clearFlags → c.flashFlagDirty = true
  aligned : ∃ sector, c.flashCacheSectorStart = sector * 0x1000
  moving : ∀ k, (client k).relocating = true → Saved c flush → EqualsSector c target
  settled : (∀ k, (client k).relocating = false) → c.Located ∧
    (Saved c flush → c.flashCacheSectorId ≠ minusOne → EqualsSector c c.flashCacheSectorId)
  led : flush ≠ .postClean → flush ≠ .ledOff → (∀ k, (client k).lighting = false) →
    c.redLed = c.flashFlagDirty

variable {target : Nat} {c c' : Cache} {flush flush' : FlushPc} {pc pc' : ClientPc} {k : ι}
  {event : Option (Event ι)} {client : ι → ClientPc}

/-- At rest the invariant is what the indicators are to mean. -/
theorem Indicated.tellsTruth {s : Threads ι} (inv : Indicated target s.cache s.flush s.client)
    (rest : AtRest s) : TellsTruth s.cache := by
  obtain ⟨outside, idle⟩ := rest
  refine ⟨fun clean cached => (inv.settled fun k => ?_).2 (.inl clean) cached, ?_⟩
  · rw [idle k]
    rfl
  · have shown := inv.led (by rcases outside with h | h <;> rw [h] <;> nofun)
      (by rcases outside with h | h <;> rw [h] <;> nofun)
      (fun k => by rw [idle k]; rfl)
    rw [shown]

/-- No data and no sector variable changes. -/
structure SameData (c c' : Cache) : Prop where
  flash : c'.flash = c.flash
  mem : c'.flashCacheMem = c.flashCacheMem
  id : c'.flashCacheSectorId = c.flashCacheSectorId
  start : c'.flashCacheSectorStart = c.flashCacheSectorStart

theorem SameData.equalsSector (same : SameData c c') {sector : Nat}
    (equals : EqualsSector c sector) : EqualsSector c' sector := by
  simpa only [EqualsSector, same.flash, same.mem] using equals

theorem SameData.located (same : SameData c c') (located : c.Located) : c'.Located := by
  simpa only [Cache.Located, same.id, same.start] using located

theorem ClientIndicated.of_same (own : ClientIndicated target c flush pc)
    (unsaved : pc.copying = true → ¬ Saved c flush → ¬ Saved c' flush')
    (id : pc.relocating = true → c.flashCacheSectorId = target → c'.flashCacheSectorId = target) :
    ClientIndicated target c' flush' pc := by
  cases pc with
  | setStart => exact ⟨own.1, own.2.1, id rfl own.2.2⟩
  | ledOn => exact ⟨own.1, unsaved rfl own.2⟩
  | copy a done =>
    refine ⟨own.1, fun write partly => unsaved ?_ (own.2 write partly)⟩
    simp only [ClientPc.copying, write, partly, decide_true, Bool.and_self]
  | idle | convert | lookup | syncTest | syncPost | syncPend | nvsRead | setId | setSize
  | setDirty => exact own

theorem ClientIndicated.unsaved (own : ClientIndicated target c flush pc)
    (copying : pc.copying = true) : ¬ Saved c flush := by
  cases pc with
  | ledOn => exact own.2
  | copy a done =>
    simp only [ClientPc.copying, Bool.and_eq_true, decide_eq_true_eq] at copying
    exact own.2 copying.1 copying.2
  | idle | convert | lookup | syncTest | syncPost | syncPend | nvsRead | setId | setStart | setSize
  | setDirty => cases copying

theorem dirty_of_unsaved (unsaved : ¬ Saved c flush) : c.flashFlagDirty = true :=
  Bool.eq_true_of_not_eq_false fun clean => unsaved (.inl clean)

theorem ClientIndicated.loading (own : ClientIndicated target c flush pc)
    (relocating : pc.relocating = true) :
    pc.loading = some ⟨target, target * 0x1000, 0x1000⟩ := by
  cases pc with
  | setId a =>
    obtain ⟨valid, rfl⟩ := own
    exact congrArg some valid.sector
  | setStart a =>
    obtain ⟨valid, rfl, _⟩ := own
    exact congrArg some valid.sector
  | idle | convert | lookup | syncTest | syncPost | syncPend | nvsRead | setSize | setDirty
  | ledOn | copy => cases relocating

/-- The target of the relocations may change while nobody relocates. -/
theorem ClientIndicated.retarget {target' : Nat} (own : ClientIndicated target c flush pc)
    (agree : pc.relocating = true → target' = target) : ClientIndicated target' c flush pc := by
  cases pc with
  | setId | setStart => exact agree rfl ▸ own
  | idle | convert | lookup | syncTest | syncPost | syncPend | nvsRead | setSize | setDirty
  | ledOn | copy => exact own

/-- `NVS_write` makes the buffer agree with the flash, also with the sector that
is being loaded. -/
theorem Indicated.nvsWrite (inv : Indicated target c .nvsWrite client)
    (whole : ∀ k, (client k).copying = false)
    (unmodified : ∀ k, ∀ sector ∈ (client k).loading,
      c.flashCacheSectorStart = sector.start ∨ EqualsSector c sector.id) :
    Indicated target c.nvsWrite .clearFlags client := by
  refine ⟨fun k => ?_, fun _ => inv.flushing (.inl rfl), inv.aligned, fun k moving _ => ?_,
    fun still => ?_, fun _ _ => inv.led nofun nofun⟩
  · exact (inv.clients k).of_same (fun copying => absurd (copying.symm.trans (whole k)) nofun)
      (fun _ aimed => aimed)
  · have loading := (inv.clients k).loading moving
    have own (at_ : c.flashCacheSectorStart = target * 0x1000) : EqualsSector c.nvsWrite target :=
      fun j bound => at_ ▸ Cache.agrees_nvsWrite c j bound
    rcases unmodified k _ loading with at_ | equals
    · exact own at_
    · obtain ⟨sector, start⟩ := inv.aligned
      by_cases same : sector = target
      · exact own (same ▸ start)
      · intro j bound
        simp only [Cache.nvsWrite]
        rw [blit_outside (by omega)]
        exact equals j bound
  · refine ⟨(inv.settled still).1, fun _ cached j bound => ?_⟩
    have start : c.nvsWrite.flashCacheSectorStart = c.nvsWrite.flashCacheSectorId * 0x1000 :=
      ((inv.settled still).1.resolve_left cached).2
    rw [← start]
    exact Cache.agrees_nvsWrite c j bound

theorem Indicated.flushOther (inv : Indicated target c flush client) (other : flush ≠ .nvsWrite)
    (step : FlushStep c flush c' flush')
    (flushing : flush' = .nvsWrite ∨ flush' = .clearFlags → c'.flashFlagDirty = true)
    (led : flush' ≠ .postClean → flush' ≠ .ledOff → (∀ k, (client k).lighting = false) →
      c'.redLed = c'.flashFlagDirty) :
    Indicated target c' flush' client := by
  obtain ⟨flash, mem, id, start⟩ := step.same other
  have same : SameData c c' := ⟨flash, mem, id, start⟩
  refine ⟨fun k => ?_, flushing, ?_, fun k moving saved => ?_, fun still => ?_, led⟩
  · exact (inv.clients k).of_same (fun _ unsaved => step.unsaved other unsaved)
      (fun _ aimed => id.trans aimed)
  · obtain ⟨sector, place⟩ := inv.aligned
    exact ⟨sector, start.trans place⟩
  · exact same.equalsSector (inv.moving k moving (step.saved other saved))
  · obtain ⟨located, equals⟩ := inv.settled still
    refine ⟨same.located located, fun saved cached => ?_⟩
    rw [id] at cached ⊢
    exact same.equalsSector (equals (step.saved other saved) cached)

theorem Indicated.flushStep (inv : Indicated target c flush client)
    (whole : flush = .nvsWrite → ∀ k, (client k).copying = false)
    (unmodified : flush = .nvsWrite → ∀ k, ∀ sector ∈ (client k).loading,
      c.flashCacheSectorStart = sector.start ∨ EqualsSector c sector.id)
    (off : flush = .ledOff → (∀ k, (client k).lighting = false) → c.flashFlagDirty = false)
    (step : FlushStep c flush c' flush') : Indicated target c' flush' client := by
  have statement := step
  cases step with
  | nvsWrite => exact inv.nvsWrite (whole rfl) (unmodified rfl)
  | dirty dirty => exact inv.flushOther nofun statement (fun _ => dirty) fun _ _ => inv.led nofun nofun
  | clean | pend | timeout =>
    exact inv.flushOther nofun statement (by rintro (h | h) <;> cases h) fun _ _ => inv.led nofun nofun
  | clearFlags =>
    exact inv.flushOther nofun statement (by rintro (h | h) <;> cases h) fun posted => absurd rfl posted
  | postClean =>
    exact inv.flushOther nofun statement (by rintro (h | h) <;> cases h) fun _ switched =>
      absurd rfl switched
  | ledOff =>
    exact inv.flushOther nofun statement (by rintro (h | h) <;> cases h) fun _ _ still =>
      (off rfl still).symm

theorem indicated_init (flash : Bytes) :
    Indicated 0 (Cache.init flash) .test fun _ : ι => .idle where
  clients _ := trivial
  flushing flushing := by rcases flushing with h | h <;> cases h
  aligned := ⟨0, rfl⟩
  moving _ moving := nomatch moving
  settled _ := ⟨.inl rfl, fun _ cached => absurd rfl cached⟩
  led _ _ _ := rfl

variable [DecidableEq ι] {s s' : Threads ι} {act : Act ι} {history : List (Event ι)}
  {flash : Bytes}

/-- What no client does after a move of `k`, and `k` did not do before, no client did. -/
theorem none_of_moved {p : ClientPc → Bool} (before : p (s.client k) = false)
    (still : ∀ j, p ((s.moveClient k c pc).client j) = false) (j : ι) : p (s.client j) = false := by
  by_cases own : j = k
  · rw [own]
    exact before
  · exact (Threads.forall_moveClient (P := fun pc => p pc = false)).mp still |>.2 j own

/-- A statement of client `k` that moves no data and is not part of a relocation. -/
theorem Indicated.sameData (inv : Indicated target s.cache s.flush s.client)
    (same : SameData s.cache c) (dirty : s.cache.flashFlagDirty = true → c.flashFlagDirty = true)
    (own : ClientIndicated target c s.flush pc) (before : (s.client k).relocating = false)
    (after : pc.relocating = false)
    (led : s.flush ≠ .postClean → s.flush ≠ .ledOff →
      (∀ j, ((s.moveClient k c pc).client j).lighting = false) → c.redLed = c.flashFlagDirty) :
    Indicated target c s.flush (s.moveClient k c pc).client := by
  have saved : Saved c s.flush → Saved s.cache s.flush :=
    Or.imp_left fun clean => Bool.eq_false_of_not_eq_true fun set =>
      absurd (clean.symm.trans (dirty set)) nofun
  have moved : (∀ j, ((s.moveClient k c pc).client j).relocating = true → Saved c s.flush →
      EqualsSector c target) ↔ _ :=
    Threads.forall_moveClient
      (P := fun pc => pc.relocating = true → Saved c s.flush → EqualsSector c target)
  refine ⟨Threads.forall_moveClient.mpr ⟨own, fun j _ => ?_⟩, fun flushing => ?_, ?_,
    moved.mpr ⟨fun moving => ?_, fun j _ moving now => ?_⟩, fun still => ?_, led⟩
  · exact (inv.clients j).of_same (fun _ unsaved now => unsaved (saved now))
      (fun _ aimed => same.id.trans aimed)
  · exact dirty (inv.flushing flushing)
  · obtain ⟨sector, start⟩ := inv.aligned
    exact ⟨sector, same.start.trans start⟩
  · rw [after] at moving
    cases moving
  · exact same.equalsSector (inv.moving j moving (saved now))
  · obtain ⟨located, equals⟩ := inv.settled (none_of_moved before still)
    refine ⟨same.located located, fun now cached => ?_⟩
    rw [same.id] at cached ⊢
    exact same.equalsSector (equals (saved now) cached)

/-- A statement that changes nothing the indicators depend on. -/
theorem Indicated.quiet (inv : Indicated target s.cache s.flush s.client)
    (same : SameData s.cache c) (dirty : c.flashFlagDirty = s.cache.flashFlagDirty)
    (redLed : c.redLed = s.cache.redLed) (own : ClientIndicated target c s.flush pc)
    (before : (s.client k).relocating = false ∧ (s.client k).lighting = false)
    (after : pc.relocating = false) :
    Indicated target c s.flush (s.moveClient k c pc).client :=
  inv.sameData same (fun set => dirty.trans set) own before.1 after fun posted switched still => by
    rw [redLed, dirty]
    exact inv.led posted switched (none_of_moved before.2 still)

theorem clientIndicated_located {a : Access} (valid : a.Valid) :
    ClientIndicated target c flush (located a) := by
  unfold located
  split
  next => exact valid
  next read => exact ⟨valid, fun write => absurd write read⟩

theorem clientIndicated_afterSync {caller : Option Access}
    (valid : ∀ a, caller = some a → a.Valid) : ClientIndicated target c flush (afterSync caller) := by
  cases caller with
  | none => trivial
  | some a => exact valid a rfl

theorem located_relocating (a : Access) : (located a).relocating = false := by
  unfold located
  split <;> rfl

theorem afterSync_relocating (caller : Option Access) : (afterSync caller).relocating = false := by
  cases caller <;> rfl

theorem Indicated.nvsRead {a : Access} (inv : Indicated target s.cache s.flush s.client)
    (here : s.client k = .nvsRead a) (alone : LoadsAlone s (.client k)) :
    Indicated (a.block / 8) (s.cache.nvsRead a.sector.start a.sector.size) s.flush
      (s.moveClient k (s.cache.nvsRead a.sector.start a.sector.size) (.setId a)).client := by
  have valid : a.Valid := by
    have own := inv.clients k
    rwa [here] at own
  have loaded : EqualsSector (s.cache.nvsRead a.sector.start a.sector.size) (a.block / 8) := by
    intro j bound
    simp only [Cache.nvsRead, valid.sector]
    exact blit_inside (Nat.zero_le j) (by omega)
  have alone := alone (congrArg ClientPc.atNvsRead here)
  refine ⟨Threads.forall_moveClient.mpr ⟨⟨valid, rfl⟩, fun j ne => ?_⟩, inv.flushing, inv.aligned,
    fun _ _ _ => loaded, fun still => ?_, fun posted switched still => ?_⟩
  · refine ((inv.clients j).retarget fun relocating => ?_).of_same (fun _ unsaved => unsaved)
      (fun _ aimed => aimed)
    have theirs := (inv.clients j).loading relocating
    have ours := (alone j ne).resolve_left (by simp [theirs])
    rw [theirs, here] at ours
    have sectors : (⟨target, target * 0x1000, 0x1000⟩ : SectorInfo) = a.sector := Option.some.inj ours
    rw [valid.sector] at sectors
    exact (congrArg SectorInfo.id sectors).symm
  · have moving := still k
    rw [Threads.moveClient_client_self] at moving
    cases moving
  · exact inv.led posted switched (none_of_moved (by rw [here]; rfl) still)

theorem Indicated.setId {a : Access} (inv : Indicated target s.cache s.flush s.client)
    (here : s.client k = .setId a) :
    Indicated target { s.cache with flashCacheSectorId := a.sector.id } s.flush
      (s.moveClient k { s.cache with flashCacheSectorId := a.sector.id } (.setStart a)).client := by
  have own := inv.clients k
  rw [here] at own
  obtain ⟨valid, aimed⟩ := own
  have id : a.sector.id = target := (congrArg SectorInfo.id valid.sector).trans aimed
  refine ⟨Threads.forall_moveClient.mpr ⟨⟨valid, aimed, id⟩, fun j _ => ?_⟩, inv.flushing,
    inv.aligned, fun j _ saved => inv.moving k (by rw [here]; rfl) saved, fun still => ?_,
    fun posted switched still => ?_⟩
  · exact (inv.clients j).of_same (fun _ unsaved => unsaved) (fun _ _ => id)
  · have moving := still k
    rw [Threads.moveClient_client_self] at moving
    cases moving
  · exact inv.led posted switched (none_of_moved (by rw [here]; rfl) still)

theorem Indicated.setStart {a : Access} (inv : Indicated target s.cache s.flush s.client)
    (here : s.client k = .setStart a) :
    Indicated target { s.cache with flashCacheSectorStart := a.sector.start } s.flush
      (s.moveClient k { s.cache with flashCacheSectorStart := a.sector.start }
        (.setSize a)).client := by
  have own := inv.clients k
  rw [here] at own
  obtain ⟨valid, rfl, id⟩ := own
  have start : a.sector.start = a.block / 8 * 0x1000 := congrArg SectorInfo.start valid.sector
  have moving := inv.moving k (by rw [here]; rfl)
  refine ⟨Threads.forall_moveClient.mpr ⟨valid, fun j _ => ?_⟩, inv.flushing, ⟨_, start⟩,
    fun j _ saved => moving saved, fun still => ⟨.inr ⟨?_, ?_⟩, fun saved _ => ?_⟩,
    fun posted switched still => ?_⟩
  · exact (inv.clients j).of_same (fun _ unsaved => unsaved) (fun _ aimed => aimed)
  · exact id ▸ Cache.sector_lt valid
  · rw [id]
    exact start
  · rw [id]
    exact moving saved
  · exact inv.led posted switched (none_of_moved (by rw [here]; rfl) still)

omit [DecidableEq ι] in
/-- A statement that neither moves the buffer nor lights the indicator. -/
theorem calm {old : ClientPc} (here : s.client k = old) (relocating : old.relocating = false)
    (lighting : old.lighting = false) :
    (s.client k).relocating = false ∧ (s.client k).lighting = false := by
  rw [here]
  exact ⟨relocating, lighting⟩

theorem Indicated.clientStep (inv : Indicated target s.cache s.flush s.client)
    (flag : KeepsFlag s (.client k)) (alone : LoadsAlone s (.client k))
    (moved : ClientStep k s.cache (s.client k) c pc event) :
    ∃ target, Indicated target c s.flush (s.moveClient k c pc).client := by
  have own := inv.clients k
  generalize here : s.client k = old at own moved
  cases moved with
  | badBlock =>
    exact ⟨target, inv.quiet ⟨rfl, rfl, rfl, rfl⟩ rfl rfl trivial (calm here rfl rfl) rfl⟩
  | goodBlock good =>
    exact ⟨target, inv.quiet ⟨rfl, rfl, rfl, rfl⟩ rfl rfl (Access.valid_of_flashAddr good)
      (calm here rfl rfl) rfl⟩
  | miss =>
    exact ⟨target, inv.quiet ⟨rfl, rfl, rfl, rfl⟩ rfl rfl (fun b same => Option.some.inj same ▸ own)
      (calm here rfl rfl) rfl⟩
  | hit =>
    exact ⟨target, inv.quiet ⟨rfl, rfl, rfl, rfl⟩ rfl rfl (clientIndicated_located own)
      (calm here rfl rfl) (located_relocating _)⟩
  | dirty => exact ⟨target, inv.quiet ⟨rfl, rfl, rfl, rfl⟩ rfl rfl own (calm here rfl rfl) rfl⟩
  | clean =>
    exact ⟨target, inv.quiet ⟨rfl, rfl, rfl, rfl⟩ rfl rfl (clientIndicated_afterSync own)
      (calm here rfl rfl) (afterSync_relocating _)⟩
  | post => exact ⟨target, inv.quiet ⟨rfl, rfl, rfl, rfl⟩ rfl rfl own (calm here rfl rfl) rfl⟩
  | pend =>
    exact ⟨target, inv.quiet ⟨rfl, rfl, rfl, rfl⟩ rfl rfl (clientIndicated_afterSync own)
      (calm here rfl rfl) (afterSync_relocating _)⟩
  | nvsRead => exact ⟨_, inv.nvsRead here alone⟩
  | setId => exact ⟨target, inv.setId here⟩
  | setStart => exact ⟨target, inv.setStart here⟩
  | setSize =>
    exact ⟨target, inv.quiet ⟨rfl, rfl, rfl, rfl⟩ rfl rfl (clientIndicated_located own)
      (calm here rfl rfl) (located_relocating _)⟩
  | setDirty =>
    have unsaved := not_saved_setDirty (c := s.cache) (flag (congrArg ClientPc.atSetDirty here))
    refine ⟨target, inv.sameData ⟨rfl, rfl, rfl, rfl⟩ (fun _ => rfl) ⟨own, unsaved⟩
      (calm here rfl rfl).1 rfl fun _ _ still => ?_⟩
    have dark := still k
    rw [Threads.moveClient_client_self] at dark
    cases dark
  | ledOn =>
    obtain ⟨valid, unsaved⟩ := own
    exact ⟨target, inv.sameData ⟨rfl, rfl, rfl, rfl⟩ id ⟨valid, fun _ _ => unsaved⟩
      (by rw [here]; rfl) rfl fun _ _ _ => (dirty_of_unsaved unsaved).symm⟩
  | return_ =>
    exact ⟨target, inv.quiet ⟨rfl, rfl, rfl, rfl⟩ rfl rfl trivial (calm here rfl rfl) rfl⟩

/-- A piece of a `memcpy` changes the buffer only while the flag is set. -/
theorem Indicated.copyStep {n : Nat} (inv : Indicated target s.cache s.flush s.client)
    (moved : CopyStep n s.cache (s.client k) c pc) :
    Indicated target c s.flush (s.moveClient k c pc).client := by
  have own := inv.clients k
  generalize here : s.client k = old at own moved
  cases moved with
  | read read =>
    exact inv.quiet ⟨rfl, rfl, rfl, rfl⟩ rfl rfl
      ⟨own.1, fun write => absurd (read.symm.trans write) nofun⟩ (calm here rfl rfl) rfl
  | @write a done write positive fits =>
    have unsaved := own.2 write (by omega)
    refine ⟨Threads.forall_moveClient.mpr ⟨⟨own.1, fun _ _ => unsaved⟩, fun j _ => ?_⟩,
      inv.flushing, inv.aligned, fun _ _ saved => absurd saved unsaved,
      fun still => ⟨?_, fun saved => absurd saved unsaved⟩, fun posted switched still => ?_⟩
    · exact (inv.clients j).of_same (fun _ unsaved => unsaved) (fun _ aimed => aimed)
    · exact (inv.settled (none_of_moved (calm here rfl rfl).1 still)).1
    · exact inv.led posted switched (none_of_moved (calm here rfl rfl).2 still)

theorem Indicated.step (inv : Indicated target s.cache s.flush s.client) (okay : Indicates s act)
    (stepped : (Threads.system ι).step s act = some (s', event)) :
    ∃ target, Indicated target s'.cache s'.flush s'.client := by
  obtain ⟨succeeds, flag, whole, alone, unmodified, off⟩ := okay
  cases Threads.step_cases succeeds stepped with
  | @call k op idle =>
    refine ⟨target, inv.quiet ⟨rfl, rfl, rfl, rfl⟩ rfl rfl ?_ (by rw [idle]; exact ⟨rfl, rfl⟩) ?_⟩
    · cases op with
      | none => exact nofun
      | some a => trivial
    · cases op <;> rfl
  | client moved => exact inv.clientStep flag alone moved
  | copy moved => exact ⟨target, inv.copyStep moved⟩
  | flush moved => exact ⟨target, inv.flushStep whole unmodified off moved⟩
  | timeout waiting moved =>
    refine ⟨target, inv.flushStep ?_ ?_ ?_ moved⟩ <;>
    · rw [waiting]
      nofun

/-- A cache at rest tells the truth, in every run without one of the races. -/
theorem indicator_tellsTruth (run : (Threads.system ι).Run Indicates (.init ι flash) history s)
    (rest : AtRest s) : TellsTruth s.cache := by
  obtain ⟨target, inv⟩ : ∃ target, Indicated target s.cache s.flush s.client :=
    run.invariant (fun _ s => ∃ target, Indicated target s.cache s.flush s.client)
      ⟨0, indicated_init flash⟩ (fun ⟨_, inv⟩ okay stepped => inv.step okay stepped)
  exact inv.tellsTruth rest

/-- A write, and the flush that its sync waits for. -/
theorem indicator_tellsTruth_afterSync :
    ∃ history s, (Threads.system StorageClient).Run Indicates (.init _ blankFlash) history s ∧
      s.cache.flash 0 = 1 ∧ TellsTruth s.cache := by
  obtain ⟨history, s, run, checked⟩ :=
    (Threads.system StorageClient).exists_run_of_exec Indicates (.init _ blankFlash)
      (.flush :: missAccess .usbDaemon (writeOf 0 1) ++ .call .microPython none ::
        clientSteps .microPython 2 ++ flushSteps 6 ++ clientSteps .microPython 1)
      (fun (_, s) => decide (s.cache.flash 0 = 1 ∧ AtRest s)) rfl
  obtain ⟨written, rest⟩ := of_decide_eq_true checked
  exact ⟨history, s, run, written, indicator_tellsTruth run rest⟩

/-- A write between the statement that clears the flag and the one that switches
the LED off leaves a dirty cache with a dark LED. -/
theorem indicator_tellsTruth_fails :
    ¬ ∀ (flash : Bytes) (history : List (Event StorageClient)) (s : Threads StorageClient),
      (Threads.system StorageClient).Run Threads.NvsSucceeds (.init _ flash) history s →
        AtRest s → TellsTruth s.cache := by
  intro claim
  obtain ⟨history, s, run, checked⟩ :=
    (Threads.system StorageClient).exists_run_of_exec Threads.NvsSucceeds (.init _ blankFlash)
      (.flush :: missAccess .usbDaemon (writeOf 0 1) ++ .timeout :: flushSteps 4 ++
        hitAccess .usbDaemon (writeOf 0 2) ++ flushSteps 1)
      (fun (_, s) => decide (s.cache.flashFlagDirty = true ∧ s.cache.redLed = false ∧ AtRest s))
      rfl
  obtain ⟨dirty, dark, rest⟩ := of_decide_eq_true checked
  exact absurd (dark.symm.trans ((claim _ _ _ run rest).2.mpr dirty)) nofun

end TildaMk4.Storage
