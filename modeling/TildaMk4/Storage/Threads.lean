import Mathlib.Logic.Function.Basic
import TildaMk4.Lib.Transition
import TildaMk4.Storage.Contents

/-!
# The cache under interleaving

Any number of client threads and `flash_bdev_flush_thread` over one `Cache`, with
one step for each statement that touches shared state. A `memcpy` goes in pieces
of any size; `NVS_read` and `NVS_write` are single steps that may also fail.
-/

namespace TildaMk4.Storage

open Memory Transition

/-- A call of `flash_bdev_readblock` or, with `write`, of `flash_bdev_writeblock`. -/
structure Access where
  block : Nat
  write : Bool
  /-- The destination of a read, the source of a write. -/
  buffer : Bytes

namespace Access

def flashAddr (a : Access) : Nat := convertBlockToFlashAddr a.block

/-- The local variables `flash_sector_id`, `flash_sector_start` and `flash_sector_size`. -/
def sector (a : Access) : SectorInfo := Cache.sectorOf a.flashAddr

def offset (a : Access) : Nat := Cache.offsetOf a.flashAddr

end Access

/-- The next statement of a client. A caller of `none` is an explicit
`BDEV_IOCTL_SYNC`, one of `some a` the miss branch of the access `a`. -/
inductive ClientPc
  | idle
  | convert (a : Access)
  | lookup (a : Access)
  | syncTest (caller : Option Access)
  | syncPost (caller : Option Access)
  | syncPend (caller : Option Access)
  | nvsRead (a : Access)
  | setId (a : Access)
  | setStart (a : Access)
  | setSize (a : Access)
  | setDirty (a : Access)
  | ledOn (a : Access)
  | copy (a : Access) (done : Nat)

/-- The next statement of `flash_bdev_flush_thread`; `ended` follows an exception
that it does not catch. -/
inductive FlushPc
  | test
  | nvsWrite
  | clearFlags
  | postClean
  | ledOff
  | pend
  | ended
  deriving DecidableEq

structure Threads (ι : Type) where
  cache : Cache
  flush : FlushPc
  client : ι → ClientPc

/-- The steps that are chosen from outside: a client's call, one statement of a
client, a piece of its `memcpy`, and the statements and the 5 s timeout of the
flush thread. A failing NVS call leaves what it was to fill unspecified. -/
inductive Act (ι : Type)
  | call (k : ι) (op : Option Access)
  | client (k : ι)
  | copy (k : ι) (n : Nat)
  | readFails (k : ι) (garbage : Bytes)
  | flush
  | timeout
  | writeFails (garbage : Bytes)

/-- Calls and returns; in `read` the buffer is what was delivered. -/
inductive Event (ι : Type)
  | called (k : ι) (op : Option Access)
  | read (k : ι) (a : Access)
  | written (k : ι) (a : Access)
  | refused (k : ι) (a : Access)
  | synced (k : ι)
  | raised (k : ι)

variable {ι : Type}

def entry : Option Access → ClientPc
  | some a => .convert a
  | none => .syncTest none

/-- Behind the miss branch of `flash_cache_get_addr`. -/
def located (a : Access) : ClientPc := if a.write then .setDirty a else .copy a 0

/-- Where `BDEV_IOCTL_SYNC` returns to. -/
def afterSync : Option Access → ClientPc
  | some a => .nvsRead a
  | none => .idle

def syncReturn (k : ι) : Option Access → Option (Event ι)
  | some _ => none
  | none => some (.synced k)

def accessReturn (k : ι) (a : Access) : Event ι :=
  if a.write then .written k a else .read k a

/-- One statement of a client; `none` while it is idle, blocked or inside a `memcpy`. -/
def clientStep (k : ι) (c : Cache) : ClientPc → Option (Cache × ClientPc × Option (Event ι))
  | .idle => none
  | .convert a =>
    if a.flashAddr = minusOne then some (c, .idle, some (.refused k a))
    else some (c, .lookup a, none)
  | .lookup a =>
    if c.flashCacheSectorId ≠ a.sector.id then some (c, .syncTest (some a), none)
    else some (c, located a, none)
  | .syncTest caller =>
    if c.flashFlagDirty then some (c, .syncPost caller, none)
    else some (c, afterSync caller, syncReturn k caller)
  | .syncPost caller => some ({ c with flushFlashBdevCache := true }, .syncPend caller, none)
  | .syncPend caller =>
    if c.flushFlashBdevClean then
      some ({ c with flushFlashBdevClean := false }, afterSync caller, syncReturn k caller)
    else none
  | .nvsRead a => some (c.nvsRead a.sector.start a.sector.size, .setId a, none)
  | .setId a => some ({ c with flashCacheSectorId := a.sector.id }, .setStart a, none)
  | .setStart a => some ({ c with flashCacheSectorStart := a.sector.start }, .setSize a, none)
  | .setSize a => some ({ c with flashCacheSectorSize := a.sector.size }, located a, none)
  | .setDirty a => some ({ c with flashFlagDirty := true }, .ledOn a, none)
  | .ledOn a => some ({ c with redLed := true }, .copy a 0, none)
  | .copy a done =>
    if done = flashBlockSize then some (c, .idle, some (accessReturn k a)) else none

/-- The next `n` bytes of a client's `memcpy`. -/
def copyStep (n : Nat) (c : Cache) : ClientPc → Option (Cache × ClientPc)
  | .copy a done =>
    if 0 < n ∧ done + n ≤ flashBlockSize then
      if a.write then some (c.memcpyIn a.offset a.buffer done n, .copy a (done + n))
      else some (c, .copy { a with buffer := blit a.buffer done c.flashCacheMem (a.offset + done) n }
        (done + n))
    else none
  | _ => none

/-- One statement of `flash_bdev_flush_thread`; its `SemaphoreP_pend` takes a token. -/
def flushStep (c : Cache) : FlushPc → Option (Cache × FlushPc)
  | .test => if c.flashFlagDirty then some (c, .nvsWrite) else some (c, .pend)
  | .nvsWrite => some (c.nvsWrite, .clearFlags)
  | .clearFlags => some ({ c with flashFlagDirty := false }, .postClean)
  | .postClean => some ({ c with flushFlashBdevClean := true }, .ledOff)
  | .ledOff => some ({ c with redLed := false }, .pend)
  | .pend =>
    if c.flushFlashBdevCache then some ({ c with flushFlashBdevCache := false }, .test) else none
  | .ended => none

namespace Threads

/-- After `BDEV_IOCTL_INIT`: the clients are outside the cache, the flush thread starts. -/
def init (ι : Type) (flash : Bytes) : Threads ι := ⟨Cache.init flash, .test, fun _ => .idle⟩

variable [DecidableEq ι]

/-- The state in which client `k` has moved to `pc` and the cache to `c`. -/
def moveClient (s : Threads ι) (k : ι) (c : Cache) (pc : ClientPc) : Threads ι :=
  { s with cache := c, client := Function.update s.client k pc }

def step (s : Threads ι) : Act ι → Option (Threads ι × Option (Event ι))
  | .call k op =>
    match s.client k with
    | .idle => some (s.moveClient k s.cache (entry op), some (.called k op))
    | _ => none
  | .client k =>
    (clientStep k s.cache (s.client k)).map fun (c, pc, event) => (s.moveClient k c pc, event)
  | .copy k n => (copyStep n s.cache (s.client k)).map fun (c, pc) => (s.moveClient k c pc, none)
  | .readFails k garbage =>
    match s.client k with
    | .nvsRead a =>
      some (s.moveClient k { s.cache with
        flashCacheMem := blit s.cache.flashCacheMem 0 garbage 0 a.sector.size } .idle,
        some (.raised k))
    | _ => none
  | .flush => (flushStep s.cache s.flush).map fun (c, pc) => ({ s with cache := c, flush := pc }, none)
  | .timeout =>
    if s.flush = .pend ∧ s.cache.flushFlashBdevCache = false then
      some ({ s with flush := .test }, none)
    else none
  | .writeFails garbage =>
    if s.flush = .nvsWrite then
      some ({ s with flush := .ended, cache := { s.cache with
        flash := blit s.cache.flash s.cache.flashCacheSectorStart garbage 0 0x1000 } }, none)
    else none

/-- The interleavings of the clients `ι` with the flush thread. -/
def system (ι : Type) [DecidableEq ι] : System (Threads ι) (Act ι) (Event ι) := ⟨step⟩

@[simp] theorem moveClient_client_self (s : Threads ι) (k : ι) (c : Cache) (pc : ClientPc) :
    (s.moveClient k c pc).client k = pc := Function.update_self _ _ _

theorem moveClient_client_of_ne (s : Threads ι) {k other : ι} (c : Cache) (pc : ClientPc)
    (ne : other ≠ k) : (s.moveClient k c pc).client other = s.client other :=
  Function.update_of_ne ne _ _

theorem forall_moveClient {P : ClientPc → Prop} {s : Threads ι} {k : ι} {c : Cache}
    {pc : ClientPc} :
    (∀ j, P ((s.moveClient k c pc).client j)) ↔ P pc ∧ ∀ j, j ≠ k → P (s.client j) := by
  refine ⟨fun all => ⟨?_, fun j ne => ?_⟩, fun ⟨own, others⟩ j => ?_⟩
  · simpa only [moveClient_client_self] using all k
  · simpa only [moveClient_client_of_ne _ _ _ ne] using all j
  · by_cases same : j = k
    · rw [same, moveClient_client_self]
      exact own
    · rw [moveClient_client_of_ne _ _ _ same]
      exact others j same

@[simp] theorem moveClient_cache (s : Threads ι) (k : ι) (c : Cache) (pc : ClientPc) :
    (s.moveClient k c pc).cache = c := rfl

@[simp] theorem moveClient_flush (s : Threads ι) (k : ι) (c : Cache) (pc : ClientPc) :
    (s.moveClient k c pc).flush = s.flush := rfl

/-- The NVS driver carries out what it is asked for. -/
def NvsSucceeds (_ : Threads ι) : Act ι → Prop
  | .readFails _ _ => False
  | .writeFails _ => False
  | _ => True

instance (s : Threads ι) (act : Act ι) : Decidable (s.NvsSucceeds act) :=
  match act with
  | .readFails _ _ => isFalse id
  | .writeFails _ => isFalse id
  | .call _ _ => isTrue trivial
  | .client _ => isTrue trivial
  | .copy _ _ => isTrue trivial
  | .flush => isTrue trivial
  | .timeout => isTrue trivial

end Threads

/-- What one statement of a client can do: `clientStep` as a relation. -/
inductive ClientStep (k : ι) (c : Cache) :
    ClientPc → Cache → ClientPc → Option (Event ι) → Prop
  | badBlock {a : Access} : a.flashAddr = minusOne →
    ClientStep k c (.convert a) c .idle (some (.refused k a))
  | goodBlock {a : Access} : a.flashAddr ≠ minusOne →
    ClientStep k c (.convert a) c (.lookup a) none
  | miss {a : Access} : c.flashCacheSectorId ≠ a.sector.id →
    ClientStep k c (.lookup a) c (.syncTest (some a)) none
  | hit {a : Access} : c.flashCacheSectorId = a.sector.id →
    ClientStep k c (.lookup a) c (located a) none
  | dirty {caller : Option Access} : c.flashFlagDirty = true →
    ClientStep k c (.syncTest caller) c (.syncPost caller) none
  | clean {caller : Option Access} : c.flashFlagDirty = false →
    ClientStep k c (.syncTest caller) c (afterSync caller) (syncReturn k caller)
  | post {caller : Option Access} :
    ClientStep k c (.syncPost caller) { c with flushFlashBdevCache := true } (.syncPend caller) none
  | pend {caller : Option Access} : c.flushFlashBdevClean = true →
    ClientStep k c (.syncPend caller) { c with flushFlashBdevClean := false } (afterSync caller)
      (syncReturn k caller)
  | nvsRead {a : Access} :
    ClientStep k c (.nvsRead a) (c.nvsRead a.sector.start a.sector.size) (.setId a) none
  | setId {a : Access} :
    ClientStep k c (.setId a) { c with flashCacheSectorId := a.sector.id } (.setStart a) none
  | setStart {a : Access} :
    ClientStep k c (.setStart a) { c with flashCacheSectorStart := a.sector.start } (.setSize a) none
  | setSize {a : Access} :
    ClientStep k c (.setSize a) { c with flashCacheSectorSize := a.sector.size } (located a) none
  | setDirty {a : Access} :
    ClientStep k c (.setDirty a) { c with flashFlagDirty := true } (.ledOn a) none
  | ledOn {a : Access} : ClientStep k c (.ledOn a) { c with redLed := true } (.copy a 0) none
  | return_ {a : Access} :
    ClientStep k c (.copy a flashBlockSize) c .idle (some (accessReturn k a))

theorem clientStep_cases {k : ι} {c c' : Cache} {pc pc' : ClientPc} {event : Option (Event ι)}
    (stepped : clientStep k c pc = some (c', pc', event)) : ClientStep k c pc c' pc' event := by
  cases pc <;> simp only [clientStep] at stepped
  case idle => cases stepped
  case convert a =>
    split at stepped
    next bad =>
      cases stepped
      exact .badBlock bad
    next good =>
      cases stepped
      exact .goodBlock good
  case lookup a =>
    split at stepped
    next miss =>
      cases stepped
      exact .miss miss
    next hit =>
      cases stepped
      exact .hit (not_not.mp hit)
  case syncTest caller =>
    split at stepped
    next dirty =>
      cases stepped
      exact .dirty dirty
    next clean =>
      cases stepped
      exact .clean (Bool.not_eq_true _ ▸ clean)
  case syncPend caller =>
    split at stepped
    next token =>
      cases stepped
      exact .pend token
    next => cases stepped
  case copy a done =>
    split at stepped
    next finished =>
      cases stepped
      exact finished ▸ .return_
    next => cases stepped
  all_goals
    cases stepped
    constructor

/-- What a piece of a `memcpy` can do. -/
inductive CopyStep (n : Nat) (c : Cache) : ClientPc → Cache → ClientPc → Prop
  | write {a : Access} {done : Nat} : a.write = true → 0 < n → done + n ≤ flashBlockSize →
    CopyStep n c (.copy a done) (c.memcpyIn a.offset a.buffer done n) (.copy a (done + n))
  | read {a : Access} {done : Nat} : a.write = false → 0 < n → done + n ≤ flashBlockSize →
    CopyStep n c (.copy a done) c
      (.copy { a with buffer := blit a.buffer done c.flashCacheMem (a.offset + done) n } (done + n))

theorem copyStep_cases {n : Nat} {c c' : Cache} {pc pc' : ClientPc}
    (stepped : copyStep n c pc = some (c', pc')) : CopyStep n c pc c' pc' := by
  cases pc <;> simp only [copyStep, reduceCtorEq] at stepped
  case copy a done =>
    split at stepped
    next fits =>
      split at stepped
      next write =>
        cases stepped
        exact .write write fits.1 fits.2
      next read =>
        cases stepped
        exact .read (Bool.not_eq_true _ ▸ read) fits.1 fits.2
    next => cases stepped

/-- What one statement of the flush thread, or its timeout, can do. -/
inductive FlushStep (c : Cache) : FlushPc → Cache → FlushPc → Prop
  | dirty : c.flashFlagDirty = true → FlushStep c .test c .nvsWrite
  | clean : c.flashFlagDirty = false → FlushStep c .test c .pend
  | nvsWrite : FlushStep c .nvsWrite c.nvsWrite .clearFlags
  | clearFlags : FlushStep c .clearFlags { c with flashFlagDirty := false } .postClean
  | postClean : FlushStep c .postClean { c with flushFlashBdevClean := true } .ledOff
  | ledOff : FlushStep c .ledOff { c with redLed := false } .pend
  | pend : c.flushFlashBdevCache = true →
    FlushStep c .pend { c with flushFlashBdevCache := false } .test
  | timeout : c.flushFlashBdevCache = false → FlushStep c .pend c .test

theorem flushStep_cases {c c' : Cache} {pc pc' : FlushPc}
    (stepped : flushStep c pc = some (c', pc')) : FlushStep c pc c' pc' := by
  cases pc <;> simp only [flushStep, reduceCtorEq] at stepped
  case test =>
    split at stepped
    next dirty =>
      cases stepped
      exact .dirty dirty
    next clean =>
      cases stepped
      exact .clean (Bool.not_eq_true _ ▸ clean)
  case pend =>
    split at stepped
    next token =>
      cases stepped
      exact .pend token
    next => cases stepped
  all_goals
    cases stepped
    constructor

/-- The steps of the whole system while the NVS driver succeeds. -/
inductive ThreadsStep [DecidableEq ι] (s : Threads ι) :
    Act ι → Threads ι → Option (Event ι) → Prop
  | call {k : ι} {op : Option Access} : s.client k = .idle →
    ThreadsStep s (.call k op) (s.moveClient k s.cache (entry op)) (some (.called k op))
  | client {k : ι} {c : Cache} {pc : ClientPc} {event : Option (Event ι)} :
    ClientStep k s.cache (s.client k) c pc event →
    ThreadsStep s (.client k) (s.moveClient k c pc) event
  | copy {k : ι} {n : Nat} {c : Cache} {pc : ClientPc} : CopyStep n s.cache (s.client k) c pc →
    ThreadsStep s (.copy k n) (s.moveClient k c pc) none
  | flush {c : Cache} {pc : FlushPc} : FlushStep s.cache s.flush c pc →
    ThreadsStep s .flush { s with cache := c, flush := pc } none
  | timeout : s.flush = .pend → FlushStep s.cache s.flush s.cache .test →
    ThreadsStep s .timeout { s with flush := .test } none

theorem Threads.step_cases [DecidableEq ι] {s s' : Threads ι} {act : Act ι}
    {event : Option (Event ι)} (succeeds : s.NvsSucceeds act)
    (stepped : (system ι).step s act = some (s', event)) : ThreadsStep s act s' event := by
  change s.step act = _ at stepped
  cases act <;> simp only [Threads.step] at stepped
  case call k op =>
    split at stepped
    next idle =>
      cases stepped
      exact .call idle
    next => cases stepped
  case client k =>
    obtain ⟨⟨c, pc, emitted⟩, moved, same⟩ := Option.map_eq_some_iff.mp stepped
    cases same
    exact .client (clientStep_cases moved)
  case copy k n =>
    obtain ⟨⟨c, pc⟩, moved, same⟩ := Option.map_eq_some_iff.mp stepped
    cases same
    exact .copy (copyStep_cases moved)
  case flush =>
    obtain ⟨⟨c, pc⟩, moved, same⟩ := Option.map_eq_some_iff.mp stepped
    cases same
    exact .flush (flushStep_cases moved)
  case timeout =>
    split at stepped
    next expired =>
      cases stepped
      exact .timeout expired.1 (expired.1 ▸ .timeout expired.2)
    next => cases stepped
  case readFails => exact succeeds.elim
  case writeFails => exact succeeds.elim

/-- The threads that call the cache. -/
inductive StorageClient
  | microPython
  | usbDaemon
  deriving DecidableEq

section Schedules

/-! Labels for the runs that are given explicitly. -/

def clientSteps (k : ι) (n : Nat) : List (Act ι) := List.replicate n (.client k)

def flushSteps (n : Nat) : List (Act ι) := List.replicate n .flush

/-- The `memcpy` of a block in one piece, and the return. -/
def copyAndReturn (k : ι) : List (Act ι) := [.copy k flashBlockSize, .client k]

/-- A whole access that finds its sector in the buffer. -/
def hitAccess (k : ι) (a : Access) : List (Act ι) :=
  .call k (some a) :: clientSteps k (if a.write then 4 else 2) ++ copyAndReturn k

/-- A whole access that finds a clean buffer with another sector. -/
def missAccess (k : ι) (a : Access) : List (Act ι) :=
  .call k (some a) :: clientSteps k (if a.write then 9 else 7) ++ copyAndReturn k

def readOf (block : Nat) : Access := ⟨block, false, fun _ => 0⟩

/-- The write of a block of equal bytes. -/
def writeOf (block : Nat) (byte : UInt8) : Access := ⟨block, true, fun _ => byte⟩

/-- A flash that was erased to zeros. -/
def blankFlash : Bytes := fun _ => 0

end Schedules

end TildaMk4.Storage
