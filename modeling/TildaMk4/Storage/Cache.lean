import TildaMk4.Lib.Memory
import TildaMk4.Storage.Geometry

/-!
# The one-sector write-back cache

The state that `machine_nvsbdev.c` shares between its threads, the statements
that change it, and the cache functions as they run when the flush is one atomic
step that is taken inside every `BDEV_IOCTL_SYNC`. The interleaved version of the
same functions is in `Storage.Threads`.
-/

namespace TildaMk4.Storage

open Memory

abbrev Bytes := Nat → UInt8

/-- The static variables of the cache. `flashFlagDirty` is the bit
`FLASH_FLAG_DIRTY` of `flash_flags`, the only bit that is ever set; the two
semaphores are binary and the Booleans say whether they hold their token. -/
structure Cache where
  /-- The NVS region, moved by `NVS_read` and `NVS_write`. -/
  flash : Bytes
  flashCacheMem : Bytes
  flashFlagDirty : Bool
  flashCacheSectorId : Nat
  flashCacheSectorStart : Nat
  flashCacheSectorSize : Nat
  flushFlashBdevCache : Bool
  flushFlashBdevClean : Bool
  /-- Driven by `led_state(TILDA_LED_RED, _)`. -/
  redLed : Bool

namespace Cache

/-- The state after `BDEV_IOCTL_INIT`, with the given flash content. -/
def init (flash : Bytes) : Cache where
  flash := flash
  flashCacheMem := fun _ => 0
  flashFlagDirty := false
  flashCacheSectorId := minusOne
  flashCacheSectorStart := 0
  flashCacheSectorSize := 0
  flushFlashBdevCache := false
  flushFlashBdevClean := false
  redLed := false

/-- `NVS_read` of `size` bytes at `start` into the cache buffer. -/
def nvsRead (c : Cache) (start size : Nat) : Cache :=
  { c with flashCacheMem := blit c.flashCacheMem 0 c.flash start size }

/-- `NVS_write` of the whole cache buffer at the cached sector's address. -/
def nvsWrite (c : Cache) : Cache :=
  { c with flash := blit c.flash c.flashCacheSectorStart c.flashCacheMem 0 0x1000 }

/-- `n` bytes of a `memcpy` from `src` to the pointer `dest` into the buffer, from byte `done` on. -/
def memcpyIn (c : Cache) (dest : Nat) (src : Bytes) (done n : Nat) : Cache :=
  { c with flashCacheMem := blit c.flashCacheMem (dest + done) src done n }

/-- The sector that the source looks up for `flashAddr`, with the size cut to the buffer. -/
def sectorOf (flashAddr : Nat) : SectorInfo :=
  let info := (flashGetSectorInfo flashAddr).getD ⟨0, 0, 0⟩
  { info with size := min info.size flashSectorSizeMax }

theorem sectorOf_eq {flashAddr : Nat} (inside : flashAddr < flashSize) :
    sectorOf flashAddr =
      ⟨flashAddr / 0x1000, flashAddr / 0x1000 * 0x1000, 0x1000⟩ := by
  simp [sectorOf, flashGetSectorInfo_eq inside]

/-- The position in the buffer that `flash_cache_get_addr` returns a pointer to. -/
def offsetOf (flashAddr : Nat) : Nat := flashAddr - (sectorOf flashAddr).start

/-- `flash_bdev_flush`. -/
def flashBdevFlush (c : Cache) : Cache :=
  if c.flashFlagDirty then
    { c.nvsWrite with flashFlagDirty := false, flushFlashBdevClean := true, redLed := false }
  else c

/-- One turn of `flash_bdev_flush_thread` that a token in `flushFlashBdevCache` woke. -/
def flushThreadTurn (c : Cache) : Cache :=
  flashBdevFlush { c with flushFlashBdevCache := false }

/-- `flash_bdev_ioctl(BDEV_IOCTL_SYNC)`: post, let the flush thread take its
turn, and take the clean token. -/
def flashBdevSync (c : Cache) : Cache :=
  if c.flashFlagDirty then
    { flushThreadTurn { c with flushFlashBdevCache := true } with flushFlashBdevClean := false }
  else c

/-- The miss branch of `flash_cache_get_addr`. -/
def reload (c : Cache) (sector : SectorInfo) : Cache :=
  { c.flashBdevSync.nvsRead sector.start sector.size with
    flashCacheSectorId := sector.id
    flashCacheSectorStart := sector.start
    flashCacheSectorSize := sector.size }

/-- The cache once the sector is the cached one. -/
def ensureSector (c : Cache) (sector : SectorInfo) : Cache :=
  if c.flashCacheSectorId ≠ sector.id then c.reload sector else c

/-- Returns the cache and the pointer, as a position in the buffer. -/
def flashCacheGetAddr (c : Cache) (flashAddr : Nat) (write : Bool) : Cache × Nat :=
  let loaded := c.ensureSector (sectorOf flashAddr)
  (if write then { loaded with flashFlagDirty := true, redLed := true } else loaded,
    offsetOf flashAddr)

def flashCacheGetAddrForRead (c : Cache) (flashAddr : Nat) : Cache × Nat :=
  c.flashCacheGetAddr flashAddr false

def flashCacheGetAddrForWrite (c : Cache) (flashAddr : Nat) : Cache × Nat :=
  c.flashCacheGetAddr flashAddr true

/-- Reads into `dest + at_`; returns the success flag, the destination memory
and the cache. -/
def flashBdevReadblock (c : Cache) (dest : Bytes) (at_ block : Nat) : Bool × Bytes × Cache :=
  let flashAddr := convertBlockToFlashAddr block
  if flashAddr = minusOne then (false, dest, c)
  else
    let (c', src) := c.flashCacheGetAddrForRead flashAddr
    (true, blit dest at_ c'.flashCacheMem src flashBlockSize, c')

/-- Writes the block that lies at `src + at_`. -/
def flashBdevWriteblock (c : Cache) (src : Bytes) (at_ block : Nat) : Bool × Cache :=
  let flashAddr := convertBlockToFlashAddr block
  if flashAddr = minusOne then (false, c)
  else
    let (c', dest) := c.flashCacheGetAddrForWrite flashAddr
    (true, c'.memcpyIn dest (fun i => src (at_ + i)) 0 flashBlockSize)

end Cache

end TildaMk4.Storage
