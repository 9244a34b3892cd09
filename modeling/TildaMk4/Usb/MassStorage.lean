import TildaMk4.Lib.Transition
import TildaMk4.Storage.FlatDisk

/-!
# The mass-storage device

`usbdmsc.c` over the adapter `SCMSC.c`: the SCSI commands, the endpoint
interrupts that move one block each, and the disconnect. The handlers return what
they send and which storage calls they make, in order. The USB daemon runs one
handler at a time, so the hand-over functions are atomic here; their interleaving
is in `Usb.Handover`.
-/

namespace TildaMk4.Usb

open Storage Transition

inductive ScsiState
  | idle
  | sendBlocks
  | receiveBlocks
  | sendStatus
  | sentStatus
  deriving DecidableEq

/-- `tUSBDMSCMediaStatus`. -/
inductive MediaStatus
  | present
  | notPresent
  | stopped
  | unknown
  deriving DecidableEq

/-- `ui8ErrorCode`: its initial value, and `SCSI_RS_CUR_ERRORS` without and with
`SCSI_RS_VALID`. -/
inductive ErrorCode
  | zero
  | curErrors
  | validCurErrors
  deriving DecidableEq

inductive SenseKey
  | notReady
  | ilglRqst
  deriving DecidableEq

inductive AddSenseCode
  | medNotPrsnt
  | pvInvalid
  deriving DecidableEq

inductive Endpoint
  | inEndpoint
  | outEndpoint
  deriving DecidableEq

/-- The command status wrapper. -/
structure Csw where
  dCSWTag : Nat
  dCSWDataResidue : Nat
  bCSWStatus : Nat
  deriving DecidableEq

/-- The commands that `USBDSCSICommand` tells apart by `CBWCB[0]`. The bits of
`CBWCB[4]` that two of them test are decoded. -/
inductive ScsiCommand
  | inquiry
  | testUnitReady
  | readCapacities
  | readCapacity
  | requestSense
  | read10 (cbwcb : Vector UInt8 16)
  | write10 (cbwcb : Vector UInt8 16)
  | modeSense6
  | mediumRemoval (allow : Bool)
  | startStopUnit (start loej : Bool)
  | unsupported
  deriving DecidableEq

/-- A command block wrapper with the right signature; `dirIn` is
`bmCBWFlags & CBWFLAGS_DIR_IN`. -/
structure Cbw where
  dCBWTag : Nat
  dCBWDataTransferLength : Nat
  dirIn : Bool
  command : ScsiCommand
  deriving DecidableEq

/-- What `USBEndpointDataPut` sends for the commands with a short answer. -/
inductive Answer
  | inquiry (vendor product version : String)
  | requestSense (errorCode : ErrorCode) (senseKey : SenseKey) (addSenseCode : AddSenseCode)
  | bytes (data : List UInt8)
  deriving DecidableEq

/-- What a handler does to the outside: the storage calls with their results, the
block that the IN channel sends from the buffer, and what is put on the endpoints. -/
inductive MscEvent
  | storageRead (block result : Nat)
  | storageWrite (block result : Nat)
  | dmaIn
  | dataIn (answer : Answer)
  | stall (endpoint : Endpoint)
  | csw (csw : Csw)
  deriving DecidableEq

/-- The static variables of `SCMSC.c` and `storage.c`; the semaphore is its token. -/
structure Adapter where
  blockSize : Nat
  storageIsInitialised : Bool
  usbEnabled : Bool
  usbInUse : Bool
  semUSBUnmountWait : Bool
  cache : Cache

namespace Adapter

def storageInit (a : Adapter) : Adapter :=
  { a with
    semUSBUnmountWait := false
    cache := if a.storageIsInitialised then a.cache else Cache.init a.cache.flash
    storageIsInitialised := true }

def storageOpenUsb (a : Adapter) : Nat × Adapter :=
  if a.usbEnabled then (1, { a with usbInUse := true }) else (0, a)

def storageCloseUsb (a : Adapter) : Adapter :=
  { a with usbInUse := false, semUSBUnmountWait := true }

def enableUsb (a : Adapter) : Adapter := { a with usbEnabled := true }

/-- A call of `disable_usb` that gets the token; without one it waits. -/
def disableUsb (a : Adapter) : Adapter :=
  if a.semUSBUnmountWait then
    { a with semUSBUnmountWait := false, usbEnabled := a.usbEnabled && a.usbInUse }
  else a

/-- `SCMSC_open`; the result says whether the drive is not 0. -/
def scmscOpen (a : Adapter) : Bool × Adapter :=
  let opened := a.storageOpenUsb
  if opened.1 = 1 then (true, { opened.2.storageInit with blockSize := storageGetBlockSize })
  else (false, opened.2)

/-- `SCMSC_close`; `storage_flush` is the sync of the block device. -/
def scmscClose (a : Adapter) : Adapter :=
  { a with cache := a.cache.flashBdevSync }.storageCloseUsb

/-- `SCMSC_read`: the bytes that it claims to have read, the result of
`storage_read_blocks` that it drops, and the buffer. -/
def scmscRead (a : Adapter) (buf : Bytes) (sector numBlocks : Nat) :
    Nat × Nat × Bytes × Adapter :=
  let read := a.cache.storageReadBlocks buf sector numBlocks
  (numBlocks * a.blockSize % uint32Size, read.1, read.2.1, { a with cache := read.2.2 })

/-- `SCMSC_write`, with the result of `storage_write_blocks`. -/
def scmscWrite (a : Adapter) (buf : Bytes) (sector numBlocks : Nat) : Nat × Nat × Adapter :=
  let written := a.cache.storageWriteBlocks buf sector numBlocks
  (if written.1 = 0 then numBlocks * a.blockSize % uint32Size else 0, written.1,
    { a with cache := written.2 })

def scmscGetNumBlocks (_ : Adapter) : Nat := storageGetBlockCount

def scmscGetBlockSize (a : Adapter) : Nat := a.blockSize

end Adapter

/-- `tMSCInstance` with the static variables of `usbdmsc.c`; the Booleans `flag…`
are the bits of `ui32Flags`, and `pvMedia` says whether the pointer is not 0. -/
structure Msc where
  ui8ErrorCode : ErrorCode
  ui8SenseKey : SenseKey
  ui16AddSenseCode : AddSenseCode
  pvMedia : Bool
  flagDmaIn : Bool
  flagDmaOut : Bool
  flagAllowRemoval : Bool
  iMediaStatus : MediaStatus
  pui32Buffer : Bytes
  ui32BytesToTransfer : Nat
  ui32CurrentLBA : Nat
  ui8SCSIState : ScsiState
  pui32BlockSize : Nat
  sScsiCsw : Csw
  adapter : Adapter

/-- One call of `HandleEndpoints`: the two bits of `ui32Status`, what the DMA
channels and the endpoint report, the block that the OUT channel has left in the
buffer, and the packet at the OUT endpoint, `none` for a wrong signature. -/
structure EndpointIrq where
  inStatus : Bool
  inDmaComplete : Bool
  txPktRdy : Bool
  outStatus : Bool
  outDmaComplete : Bool
  received : Bytes
  packet : Option Cbw

/-- `DEVICE_BLOCK_SIZE`. -/
@[simp] abbrev deviceBlockSize : Nat := 512

/-- The byte of `value` from bit `shift` on, as `0xff & (value >> shift)`. -/
def byteOf (value shift : Nat) : UInt8 := UInt8.ofNat (value >>> shift)

/-- The big-endian block number in `CBWCB[2..5]`. -/
def lbaOf (cbwcb : Vector UInt8 16) : Nat :=
  cbwcb[2].toNat * 0x1000000 + cbwcb[3].toNat * 0x10000 + cbwcb[4].toNat * 0x100 + cbwcb[5].toNat

/-- The big-endian block count in `CBWCB[7..8]`. -/
def numBlocksOf (cbwcb : Vector UInt8 16) : Nat := cbwcb[7].toNat * 0x100 + cbwcb[8].toNat

namespace Msc

/-- Run a handler after another one. -/
def andThen (first : List MscEvent × Msc) (second : Msc → List MscEvent × Msc) :
    List MscEvent × Msc :=
  (first.1 ++ (second first.2).1, (second first.2).2)

variable (s : Msc)

/-- After `storage_init` and `USBDMSCCompositeInit` at boot. -/
def boot (flash : Bytes) : Msc where
  ui8ErrorCode := .zero
  ui8SenseKey := .notReady
  ui16AddSenseCode := .medNotPrsnt
  pvMedia := false
  flagDmaIn := false
  flagDmaOut := false
  flagAllowRemoval := false
  iMediaStatus := .unknown
  pui32Buffer := fun _ => 0
  ui32BytesToTransfer := 0
  ui32CurrentLBA := 0
  ui8SCSIState := .idle
  pui32BlockSize := deviceBlockSize
  sScsiCsw := ⟨0, 0, 0⟩
  adapter :=
    { blockSize := 0, storageIsInitialised := true, usbEnabled := false, usbInUse := false,
      semUSBUnmountWait := false, cache := Cache.init flash }

def setStatus (status residue : Nat) : Msc :=
  { s with sScsiCsw := { s.sScsiCsw with bCSWStatus := status, dCSWDataResidue := residue } }

def setSense (senseKey : SenseKey) (addSenseCode : AddSenseCode) : Msc :=
  { s with
    ui8ErrorCode := .validCurErrors, ui8SenseKey := senseKey, ui16AddSenseCode := addSenseCode }

def setState (state : ScsiState) : Msc := { s with ui8SCSIState := state }

def setMediaStatus (status : MediaStatus) : Msc := { s with iMediaStatus := status }

def setFlagDmaIn (flag : Bool) : Msc := { s with flagDmaIn := flag }

def setFlagDmaOut (flag : Bool) : Msc := { s with flagDmaOut := flag }

def setCurrentLBA (lba : Nat) : Msc := { s with ui32CurrentLBA := lba }

def setBuffer (buffer : Bytes) : Msc := { s with pui32Buffer := buffer }

/-- `ui32BytesToTransfer = g_pui32BlockSize * ui16NumBlocks`. -/
def schedule (numBlocks : Nat) : Msc :=
  { s with ui32BytesToTransfer := s.pui32BlockSize * numBlocks % uint32Size }

@[simp] theorem setCurrentLBA_sScsiCsw (lba : Nat) :
    (s.setCurrentLBA lba).sScsiCsw = s.sScsiCsw := rfl

@[simp] theorem setCurrentLBA_pui32BlockSize (lba : Nat) :
    (s.setCurrentLBA lba).pui32BlockSize = s.pui32BlockSize := rfl

@[simp] theorem setCurrentLBA_ui32CurrentLBA (lba : Nat) :
    (s.setCurrentLBA lba).ui32CurrentLBA = lba := rfl

/-- `ui32BytesToTransfer -= g_pui32BlockSize`. -/
def countBlock : Msc :=
  { s with
    ui32BytesToTransfer :=
      (uint32Size + s.ui32BytesToTransfer - s.pui32BlockSize % uint32Size) % uint32Size }

/-- `ui32CurrentLBA++`. -/
def nextBlock : Msc := s.setCurrentLBA ((s.ui32CurrentLBA + 1) % uint32Size)

/-- The branch of every command that finds no media: fail, stall `endpoint`. -/
def failNoMedia (endpoint : Endpoint) : List MscEvent × Msc :=
  ([.stall endpoint], ((s.setStatus 1 0).setSense .notReady .medNotPrsnt).setState .sendStatus)

def usbdScsiSendStatus : List MscEvent × Msc :=
  ([.csw s.sScsiCsw], s.setState .sentStatus)

def usbdScsiInquiry : List MscEvent × Msc :=
  ([.dataIn (.inquiry "TI      " "Mass Storage    " "1.00")],
    (s.setStatus 0 0).setState .sendStatus)

/-- `g_pui32BlockSize = pfnBlockSize(pvMedia)`. -/
def queryBlockSize : Msc := { s with pui32BlockSize := s.adapter.scmscGetBlockSize }

def usbdScsiReadCapacities : List MscEvent × Msc :=
  if s.pvMedia then
    let blocks := s.adapter.scmscGetNumBlocks
    let size := s.queryBlockSize.pui32BlockSize
    ([.dataIn (.bytes [0, 0, 0, 8, byteOf blocks 24, byteOf blocks 16, byteOf blocks 8,
        byteOf blocks 0, 2, byteOf size 16, byteOf size 8, byteOf size 0])],
      (s.queryBlockSize.setStatus 0 0).setState .sendStatus)
  else s.failNoMedia .inEndpoint

def usbdScsiReadCapacity : List MscEvent × Msc :=
  if s.pvMedia then
    let last := s.adapter.scmscGetNumBlocks - 1
    let size := s.queryBlockSize.pui32BlockSize
    ([.dataIn (.bytes [byteOf last 24, byteOf last 16, byteOf last 8, byteOf last 0, 0,
        byteOf size 16, byteOf size 8, byteOf size 0])],
      (s.queryBlockSize.setStatus 0 0).setState .sendStatus)
  else s.queryBlockSize.failNoMedia .inEndpoint

def usbdScsiRequestSense : List MscEvent × Msc :=
  ([.dataIn (.requestSense s.ui8ErrorCode s.ui8SenseKey s.ui16AddSenseCode)],
    ({ s with ui8ErrorCode := .curErrors }.setStatus 0 0).setState .sendStatus)

/-- `pfnBlockRead` of the current block into the buffer; returns the byte count. -/
def blockRead : Nat × List MscEvent × Msc :=
  let read := s.adapter.scmscRead s.pui32Buffer s.ui32CurrentLBA 1
  (read.1, [.storageRead s.ui32CurrentLBA read.2.1],
    { s with pui32Buffer := read.2.2.1, adapter := read.2.2.2 })

@[simp] theorem blockRead_sScsiCsw : s.blockRead.2.2.sScsiCsw = s.sScsiCsw := rfl

@[simp] theorem blockRead_pui32BlockSize :
    s.blockRead.2.2.pui32BlockSize = s.pui32BlockSize := rfl

@[simp] theorem blockRead_ui32CurrentLBA :
    s.blockRead.2.2.ui32CurrentLBA = s.ui32CurrentLBA := rfl

/-- `pfnBlockWrite` of the buffer to the current block; returns the byte count. -/
def blockWrite : Nat × List MscEvent × Msc :=
  let written := s.adapter.scmscWrite s.pui32Buffer s.ui32CurrentLBA 1
  (written.1, [.storageWrite s.ui32CurrentLBA written.2.1], { s with adapter := written.2.2 })

/-- `pfnClose`, after which the media is 0. -/
def closeMedia : Msc := { s with adapter := s.adapter.scmscClose, pvMedia := false }

/-- `pfnOpen`, the result of which becomes the media. -/
def openMedia : Msc :=
  { s with adapter := s.adapter.scmscOpen.2, pvMedia := s.adapter.scmscOpen.1 }

def usbdScsiRead10 (cbwcb : Vector UInt8 16) : List MscEvent × Msc :=
  if s.pvMedia then
    if (s.setCurrentLBA (lbaOf cbwcb)).blockRead.1 = 0 then
      andThen (s.setCurrentLBA (lbaOf cbwcb)).blockRead.2 fun s =>
        s.closeMedia.failNoMedia .inEndpoint
    else
      andThen (s.setCurrentLBA (lbaOf cbwcb)).blockRead.2 fun s =>
        ([.dmaIn], ((s.setFlagDmaIn true).schedule (numBlocksOf cbwcb)).setState .sendBlocks)
  else s.failNoMedia .inEndpoint

def usbdScsiWrite10 (cbwcb : Vector UInt8 16) : List MscEvent × Msc :=
  if s.pvMedia then
    ([], (((s.setCurrentLBA (lbaOf cbwcb)).schedule (numBlocksOf cbwcb)).setState
      .receiveBlocks).setFlagDmaOut true)
  else s.failNoMedia .outEndpoint

def usbdScsiModeSense6 (dCBWDataTransferLength : Nat) : List MscEvent × Msc :=
  if s.pvMedia then
    ([.dataIn (.bytes [3, 0, 0, 0])],
      (s.setStatus 0 ((uint32Size + dCBWDataTransferLength - 4) % uint32Size)).setState .sendStatus)
  else s.failNoMedia .inEndpoint

def usbdScsiPreventAllowMediumRemoval (allow : Bool) : List MscEvent × Msc :=
  if s.pvMedia then
    ([], ({ s with flagAllowRemoval := allow }.setStatus 0 0).setState .sendStatus)
  else s.failNoMedia .inEndpoint

/-- The `switch` of `USBDSCSIStartStopUnit`, with the status that it leaves. -/
def startStop : Bool → Bool → Nat × Msc
  | false, false => (0, s.setMediaStatus .stopped)
  | true, false => (0, s.setMediaStatus .present)
  | false, true =>
    if s.flagAllowRemoval then (0, (s.setMediaStatus .notPresent).closeMedia) else (1, s)
  | true, true =>
    if s.openMedia.pvMedia then (0, s.openMedia.setMediaStatus .present) else (1, s.openMedia)

def usbdScsiStartStopUnit (start loej : Bool) : List MscEvent × Msc :=
  if s.pvMedia then
    ([], ((s.startStop start loej).2.setStatus (s.startStop start loej).1 0).setState .sendStatus)
  else s.failNoMedia .inEndpoint

/-- The `SCSI_TEST_UNIT_READY` branch. It leaves the SCSI state as it is. -/
def testUnitReady : List MscEvent × Msc :=
  if s.pvMedia then ([], s.setStatus 0 0)
  else if s.iMediaStatus = .notPresent then
    ([], (s.setStatus 1 0).setSense .notReady .medNotPrsnt)
  else if s.openMedia.pvMedia then ([], s.openMedia.setStatus 0 0)
  else ([], s.openMedia.setStatus 1 0)

/-- The `default` branch. -/
def unsupported (cbw : Cbw) : List MscEvent × Msc :=
  if cbw.dCBWDataTransferLength ≠ 0 then
    ([.stall (if cbw.dirIn then .inEndpoint else .outEndpoint)],
      ((s.setStatus 1 cbw.dCBWDataTransferLength).setState .idle).setSense .ilglRqst .pvInvalid)
  else ([], (s.setStatus 1 cbw.dCBWDataTransferLength).setSense .ilglRqst .pvInvalid)

/-- The `switch` of `USBDSCSICommand`. -/
def dispatch (cbw : Cbw) : List MscEvent × Msc :=
  match cbw.command with
  | .inquiry => s.usbdScsiInquiry
  | .testUnitReady => s.testUnitReady
  | .readCapacities => s.usbdScsiReadCapacities
  | .readCapacity => s.usbdScsiReadCapacity
  | .requestSense => s.usbdScsiRequestSense
  | .read10 cbwcb => s.usbdScsiRead10 cbwcb
  | .write10 cbwcb => s.usbdScsiWrite10 cbwcb
  | .modeSense6 => s.usbdScsiModeSense6 cbw.dCBWDataTransferLength
  | .mediumRemoval allow => s.usbdScsiPreventAllowMediumRemoval allow
  | .startStopUnit start loej => s.usbdScsiStartStopUnit start loej
  | .unsupported => s.unsupported cbw

def usbdScsiCommand (cbw : Cbw) : List MscEvent × Msc :=
  if cbw.dCBWDataTransferLength = 0 then andThen (s.dispatch cbw) usbdScsiSendStatus
  else s.dispatch cbw

/-- The `STATE_SCSI_SEND_BLOCKS` case of an IN interrupt. -/
def sendBlock (irq : EndpointIrq) : List MscEvent × Msc :=
  if s.countBlock.ui32BytesToTransfer = 0 then
    if irq.txPktRdy then
      ([], ((s.countBlock.setStatus 0 0).setFlagDmaIn false).setState .sendStatus)
    else ((s.countBlock.setStatus 0 0).setFlagDmaIn false).usbdScsiSendStatus
  else andThen s.countBlock.nextBlock.blockRead.2 fun s => ([.dmaIn], s)

/-- The `STATE_SCSI_RECEIVE_BLOCKS` case of an OUT interrupt. -/
def receiveBlock (irq : EndpointIrq) : List MscEvent × Msc :=
  andThen (s.countBlock.setBuffer irq.received).blockWrite.2 fun s =>
    if s.nextBlock.ui32BytesToTransfer = 0 then
      ((s.nextBlock.setStatus 0 0).setFlagDmaOut false).usbdScsiSendStatus
    else ([], s.nextBlock)

/-- The `STATE_SCSI_IDLE` case of an OUT interrupt. -/
def receiveCommand (irq : EndpointIrq) : List MscEvent × Msc :=
  match irq.packet with
  | some cbw => { s with sScsiCsw := ⟨cbw.dCBWTag, 0, 0⟩ }.usbdScsiCommand cbw
  | none => ([], s.setState .idle)

/-- The bulk IN half of `HandleEndpoints`. -/
def handleIn (irq : EndpointIrq) : List MscEvent × Msc :=
  if irq.inStatus || s.flagDmaIn && irq.inDmaComplete then
    match s.ui8SCSIState with
    | .sendBlocks => s.sendBlock irq
    | .sendStatus => s.usbdScsiSendStatus
    | .sentStatus => ([], s.setState .idle)
    | _ => ([], s)
  else ([], s)

/-- The bulk OUT half of `HandleEndpoints`. -/
def handleOut (irq : EndpointIrq) : List MscEvent × Msc :=
  if irq.outStatus || s.flagDmaOut && irq.outDmaComplete then
    match s.ui8SCSIState with
    | .receiveBlocks => s.receiveBlock irq
    | .idle => s.receiveCommand irq
    | _ => ([], s)
  else ([], s)

def handleEndpoints (irq : EndpointIrq) : List MscEvent × Msc :=
  andThen (s.handleIn irq) fun s => s.handleOut irq

def handleDisconnect : Msc := if s.pvMedia then s.closeMedia else s

end Msc

/-- What the device may be asked next. `storage` is any use of the storage by
other threads, which leaves it in the given state. -/
inductive MscAct
  | endpoints (irq : EndpointIrq)
  | disconnect
  | configChange
  | enableUsb
  | disableUsb
  | storage (cache : Cache)

def Msc.perform (s : Msc) : MscAct → List MscEvent × Msc
  | .endpoints irq => s.handleEndpoints irq
  | .disconnect => ([], s.handleDisconnect)
  | .configChange => ([], s)
  | .enableUsb => ([], { s with adapter := s.adapter.enableUsb })
  | .disableUsb => ([], { s with adapter := s.adapter.disableUsb })
  | .storage cache => ([], { s with adapter.cache := cache })

def Msc.machine : Machine Msc MscAct (List MscEvent) where
  perform := Msc.perform

namespace Msc

/-- The block size of the device is what the adapter has answered, which is 0
until the first `SCMSC_open`. -/
structure BlockSizes (s : Msc) : Prop where
  device : s.pui32BlockSize = 0 ∨ s.pui32BlockSize = 512
  adapter : s.adapter.blockSize = 0 ∨ s.adapter.blockSize = 512
  media : s.pvMedia = true → s.adapter.blockSize = 512

variable {s : Msc}

theorem blockSizes_boot (flash : Bytes) : (boot flash).BlockSizes where
  device := .inr rfl
  adapter := .inl rfl
  media impossible := nomatch impossible

namespace BlockSizes

theorem of_same {s' : Msc} (sizes : s.BlockSizes)
    (device : s'.pui32BlockSize = s.pui32BlockSize := by rfl)
    (adapter : s'.adapter.blockSize = s.adapter.blockSize := by rfl)
    (media : s'.pvMedia = s.pvMedia := by rfl) : s'.BlockSizes where
  device := device ▸ sizes.device
  adapter := adapter ▸ sizes.adapter
  media open_ := adapter ▸ sizes.media (media ▸ open_)

theorem setStatus (sizes : s.BlockSizes) {status residue : Nat} :
    (s.setStatus status residue).BlockSizes := sizes.of_same rfl rfl rfl

theorem setSense (sizes : s.BlockSizes) {senseKey : SenseKey} {addSenseCode : AddSenseCode} :
    (s.setSense senseKey addSenseCode).BlockSizes := sizes.of_same rfl rfl rfl

theorem setState (sizes : s.BlockSizes) {state : ScsiState} : (s.setState state).BlockSizes :=
  sizes.of_same rfl rfl rfl

theorem setMediaStatus (sizes : s.BlockSizes) {status : MediaStatus} :
    (s.setMediaStatus status).BlockSizes := sizes.of_same rfl rfl rfl

theorem setFlagDmaIn (sizes : s.BlockSizes) {flag : Bool} : (s.setFlagDmaIn flag).BlockSizes :=
  sizes.of_same rfl rfl rfl

theorem setFlagDmaOut (sizes : s.BlockSizes) {flag : Bool} : (s.setFlagDmaOut flag).BlockSizes :=
  sizes.of_same rfl rfl rfl

theorem setCurrentLBA (sizes : s.BlockSizes) (lba : Nat) : (s.setCurrentLBA lba).BlockSizes :=
  sizes.of_same rfl rfl rfl

theorem setBuffer (sizes : s.BlockSizes) (buffer : Bytes) : (s.setBuffer buffer).BlockSizes :=
  sizes.of_same rfl rfl rfl

theorem schedule (sizes : s.BlockSizes) {numBlocks : Nat} : (s.schedule numBlocks).BlockSizes :=
  ⟨sizes.device, sizes.adapter, sizes.media⟩

theorem countBlock (sizes : s.BlockSizes) : s.countBlock.BlockSizes :=
  ⟨sizes.device, sizes.adapter, sizes.media⟩

theorem nextBlock (sizes : s.BlockSizes) : s.nextBlock.BlockSizes := sizes.setCurrentLBA _

theorem queryBlockSize (sizes : s.BlockSizes) : s.queryBlockSize.BlockSizes :=
  ⟨sizes.adapter, sizes.adapter, sizes.media⟩

theorem blockRead (sizes : s.BlockSizes) : s.blockRead.2.2.BlockSizes :=
  ⟨sizes.device, sizes.adapter, sizes.media⟩

theorem blockWrite (sizes : s.BlockSizes) : s.blockWrite.2.2.BlockSizes :=
  ⟨sizes.device, sizes.adapter, sizes.media⟩

theorem closeMedia (sizes : s.BlockSizes) : s.closeMedia.BlockSizes where
  device := sizes.device
  adapter := sizes.adapter
  media impossible := nomatch impossible

theorem openMedia (sizes : s.BlockSizes) : s.openMedia.BlockSizes := by
  cases enabled : s.adapter.usbEnabled with
  | true =>
    have opened : s.openMedia.adapter.blockSize = 512 := by
      simp [Msc.openMedia, Adapter.scmscOpen, Adapter.storageOpenUsb, enabled, storageGetBlockSize]
    exact ⟨sizes.device, .inr opened, fun _ => opened⟩
  | false =>
    have same : s.openMedia.adapter.blockSize = s.adapter.blockSize := by
      simp [Msc.openMedia, Adapter.scmscOpen, Adapter.storageOpenUsb, enabled]
    have refused : s.openMedia.pvMedia = false := by
      simp [Msc.openMedia, Adapter.scmscOpen, Adapter.storageOpenUsb, enabled]
    exact ⟨sizes.device, same ▸ sizes.adapter,
      fun open_ => absurd (refused.symm.trans open_) Bool.false_ne_true⟩

theorem failNoMedia (sizes : s.BlockSizes) (endpoint : Endpoint) :
    (s.failNoMedia endpoint).2.BlockSizes := sizes.setStatus.setSense.setState

theorem usbdScsiSendStatus (sizes : s.BlockSizes) : s.usbdScsiSendStatus.2.BlockSizes :=
  sizes.setState

theorem usbdScsiReadCapacities (sizes : s.BlockSizes) : s.usbdScsiReadCapacities.2.BlockSizes := by
  unfold Msc.usbdScsiReadCapacities
  split
  next => exact sizes.queryBlockSize.setStatus.setState
  next => exact sizes.failNoMedia _

theorem usbdScsiReadCapacity (sizes : s.BlockSizes) : s.usbdScsiReadCapacity.2.BlockSizes := by
  unfold Msc.usbdScsiReadCapacity
  split
  next => exact sizes.queryBlockSize.setStatus.setState
  next => exact sizes.queryBlockSize.failNoMedia _

theorem usbdScsiRead10 (sizes : s.BlockSizes) (cbwcb : Vector UInt8 16) :
    (s.usbdScsiRead10 cbwcb).2.BlockSizes := by
  have read := (sizes.setCurrentLBA (lbaOf cbwcb)).blockRead
  unfold Msc.usbdScsiRead10
  split
  next =>
    split
    next => exact read.closeMedia.failNoMedia .inEndpoint
    next => exact read.setFlagDmaIn.schedule.setState
  next => exact sizes.failNoMedia _

theorem usbdScsiWrite10 (sizes : s.BlockSizes) (cbwcb : Vector UInt8 16) :
    (s.usbdScsiWrite10 cbwcb).2.BlockSizes := by
  unfold Msc.usbdScsiWrite10
  split
  next => exact (sizes.setCurrentLBA _).schedule.setState.setFlagDmaOut
  next => exact sizes.failNoMedia _

theorem usbdScsiModeSense6 (sizes : s.BlockSizes) (dCBWDataTransferLength : Nat) :
    (s.usbdScsiModeSense6 dCBWDataTransferLength).2.BlockSizes := by
  unfold Msc.usbdScsiModeSense6
  split
  next => exact sizes.setStatus.setState
  next => exact sizes.failNoMedia _

theorem usbdScsiPreventAllowMediumRemoval (sizes : s.BlockSizes) (allow : Bool) :
    (s.usbdScsiPreventAllowMediumRemoval allow).2.BlockSizes := by
  unfold Msc.usbdScsiPreventAllowMediumRemoval
  split
  next => exact sizes.of_same rfl rfl rfl
  next => exact sizes.failNoMedia _

theorem startStop (sizes : s.BlockSizes) (start loej : Bool) :
    (s.startStop start loej).2.BlockSizes := by
  unfold Msc.startStop
  split
  next => exact sizes.setMediaStatus
  next => exact sizes.setMediaStatus
  next =>
    split
    next => exact sizes.setMediaStatus.closeMedia
    next => exact sizes
  next =>
    split
    next => exact sizes.openMedia.setMediaStatus
    next => exact sizes.openMedia

theorem usbdScsiStartStopUnit (sizes : s.BlockSizes) (start loej : Bool) :
    (s.usbdScsiStartStopUnit start loej).2.BlockSizes := by
  unfold Msc.usbdScsiStartStopUnit
  split
  next => exact (sizes.startStop start loej).setStatus.setState
  next => exact sizes.failNoMedia _

theorem testUnitReady (sizes : s.BlockSizes) : s.testUnitReady.2.BlockSizes := by
  unfold Msc.testUnitReady
  split
  next => exact sizes.setStatus
  next =>
    split
    next => exact sizes.setStatus.setSense
    next => split <;> exact sizes.openMedia.setStatus

theorem unsupported (sizes : s.BlockSizes) (cbw : Cbw) : (s.unsupported cbw).2.BlockSizes := by
  unfold Msc.unsupported
  split
  next => exact sizes.setStatus.setState.setSense
  next => exact sizes.setStatus.setSense

theorem dispatch (sizes : s.BlockSizes) (cbw : Cbw) : (s.dispatch cbw).2.BlockSizes := by
  unfold Msc.dispatch
  split
  next => exact sizes.setStatus.setState
  next => exact sizes.testUnitReady
  next => exact sizes.usbdScsiReadCapacities
  next => exact sizes.usbdScsiReadCapacity
  next => exact sizes.of_same rfl rfl rfl
  next cbwcb _ => exact sizes.usbdScsiRead10 cbwcb
  next cbwcb _ => exact sizes.usbdScsiWrite10 cbwcb
  next => exact sizes.usbdScsiModeSense6 _
  next allow _ => exact sizes.usbdScsiPreventAllowMediumRemoval allow
  next start loej _ => exact sizes.usbdScsiStartStopUnit start loej
  next => exact sizes.unsupported cbw

theorem usbdScsiCommand (sizes : s.BlockSizes) (cbw : Cbw) :
    (s.usbdScsiCommand cbw).2.BlockSizes := by
  unfold Msc.usbdScsiCommand
  split
  next => exact (sizes.dispatch cbw).usbdScsiSendStatus
  next => exact sizes.dispatch cbw

theorem sendBlock (sizes : s.BlockSizes) (irq : EndpointIrq) :
    (s.sendBlock irq).2.BlockSizes := by
  unfold Msc.sendBlock
  split
  next =>
    split
    next => exact sizes.countBlock.setStatus.setFlagDmaIn.setState
    next => exact sizes.countBlock.setStatus.setFlagDmaIn.usbdScsiSendStatus
  next => exact sizes.countBlock.nextBlock.blockRead

theorem receiveBlock (sizes : s.BlockSizes) (irq : EndpointIrq) :
    (s.receiveBlock irq).2.BlockSizes := by
  have written := (sizes.countBlock.setBuffer irq.received).blockWrite.nextBlock
  simp only [Msc.receiveBlock, andThen]
  split
  next => exact written.setStatus.setFlagDmaOut.usbdScsiSendStatus
  next => exact written

theorem receiveCommand (sizes : s.BlockSizes) (irq : EndpointIrq) :
    (s.receiveCommand irq).2.BlockSizes := by
  unfold Msc.receiveCommand
  split
  next cbw _ =>
    have tagged : { s with sScsiCsw := ⟨cbw.dCBWTag, 0, 0⟩ }.BlockSizes :=
      sizes.of_same rfl rfl rfl
    exact tagged.usbdScsiCommand cbw
  next => exact sizes.setState

theorem handleIn (sizes : s.BlockSizes) (irq : EndpointIrq) : (s.handleIn irq).2.BlockSizes := by
  unfold Msc.handleIn
  split
  next =>
    split
    next => exact sizes.sendBlock irq
    next => exact sizes.usbdScsiSendStatus
    next => exact sizes.setState
    next => exact sizes
  next => exact sizes

theorem handleOut (sizes : s.BlockSizes) (irq : EndpointIrq) :
    (s.handleOut irq).2.BlockSizes := by
  unfold Msc.handleOut
  split
  next =>
    split
    next => exact sizes.receiveBlock irq
    next => exact sizes.receiveCommand irq
    next => exact sizes
  next => exact sizes

theorem perform (sizes : s.BlockSizes) (act : MscAct) : (s.perform act).2.BlockSizes := by
  cases act with
  | endpoints irq => exact (sizes.handleIn irq).handleOut irq
  | disconnect =>
    simp only [Msc.perform, handleDisconnect]
    split
    next => exact sizes.closeMedia
    next => exact sizes
  | configChange => exact sizes
  | enableUsb => exact sizes.of_same rfl rfl rfl
  | disableUsb =>
    refine sizes.of_same (by rfl) ?_
    simp only [Msc.perform, Adapter.disableUsb]
    split <;> rfl
  | storage cache => exact sizes.of_same rfl rfl rfl

end BlockSizes

theorem blockSizes_after (flash : Bytes) (acts : List MscAct) :
    (machine.after (boot flash) acts).BlockSizes :=
  Machine.after_keep machine BlockSizes (fun act sizes => BlockSizes.perform sizes act) acts
    (blockSizes_boot flash)

end Msc

end TildaMk4.Usb
