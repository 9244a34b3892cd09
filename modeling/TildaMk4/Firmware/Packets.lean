import TildaMk4.Lib.Bytes

/-!
# The bootloader commands of the CC3120

`cc3120_fw.c`: every command fills `txPacket`, adds the checksum and writes it to
the UART. A store or a read outside `txPacket` has no result. `debugVerbose` is 0
throughout, and what the commands receive does not change what they write.
-/

namespace TildaMk4.Firmware

open Memory

/-- The size of `data` in `slWifiBldr_TxPacket`. -/
def dataSize : Nat := 4096 + 24

/-- `sizeof(slWifiBldr_TxPacket)`. -/
def packetSize : Nat := 4 + dataSize

structure TxPacket where
  len : UInt16
  chksum : UInt8
  opcode : UInt8
  data : Nat → UInt8

namespace TxPacket

variable (p : TxPacket)

/-- The bytes of the structure on a little-endian machine. -/
def image : Nat → UInt8
  | 0 => p.len.toUInt8
  | 1 => (p.len >>> 8).toUInt8
  | 2 => p.chksum
  | 3 => p.opcode
  | i + 4 => p.data i

/-- Stores of consecutive bytes of `data`. -/
def put (at_ : Nat) (bytes : List UInt8) : Option TxPacket :=
  if at_ + bytes.length ≤ dataSize then some { p with data := storeBytes p.data at_ bytes }
  else none

def genChksum : Option TxPacket :=
  if p.len.toNat - 2 - 1 ≤ dataSize then
    some { p with chksum := (loadBytes p.data 0 (p.len.toNat - 2 - 1)).foldl (· + ·) 0 + p.opcode }
  else none

/-- The length is counted before its bytes are swapped. -/
def sendCmd : Option (TxPacket × List UInt8) :=
  let packetLen := p.len + 1
  let len1 := (p.len &&& 0xff00) >>> 8
  let len2 := p.len &&& 0x00ff
  let swapped := { p with len := (len2 <<< 8) + len1 }
  if packetLen.toNat ≤ packetSize then
    some (swapped, (List.range packetLen.toNat).map swapped.image)
  else none

/-- What the commands have in common: the fields are stored at their offsets, and the
packet is sent. -/
def command (len : UInt16) (opcode : UInt8) (fields : List (Nat × List UInt8)) :
    Option (TxPacket × List UInt8) := do
  let filled ← fields.foldlM (fun q field => q.put field.1 field.2)
    { p with len := len, opcode := opcode }
  let summed ← filled.genChksum
  summed.sendCmd

/-- The four stores of a `uint32_t`. -/
def uint32Field (value : UInt32) : List UInt8 :=
  [((value &&& 0xff000000) >>> 24).toUInt8, ((value &&& 0x00ff0000) >>> 16).toUInt8,
    ((value &&& 0x0000ff00) >>> 8).toUInt8, ((value &&& 0x000000ff) >>> 0).toUInt8]

/-- The two stores of a `uint16_t`. -/
def uint16Field (value : UInt16) : List UInt8 :=
  [((value &&& 0xff00) >>> 8).toUInt8, ((value &&& 0x00ff) >>> 0).toUInt8]

def getStatus : Option (TxPacket × List UInt8) := p.command (2 + 1) 0x23 []

def getStorageList : Option (TxPacket × List UInt8) := p.command (2 + 1) 0x27 []

/-- For more than 4080 bytes the function prints a message and goes on. -/
def rawStorageWrite (id offset len : UInt32) (data : Nat → UInt8) :
    Option (TxPacket × List UInt8) :=
  p.command (2 + 1 + 4 + 4 + 4 + len).toUInt16 0x2d
    [(0, uint32Field id), (4, uint32Field offset), (8, uint32Field len),
      (12, loadBytes data 0 len.toNat)]

def getVersionInfo : Option (TxPacket × List UInt8) := p.command (2 + 1) 0x2f []

def rawStorageErase (id offset numblocks : UInt32) : Option (TxPacket × List UInt8) :=
  p.command (2 + 1 + 4 + 4 + 4) 0x30
    [(0, uint32Field id), (4, uint32Field offset), (8, uint32Field numblocks)]

def getStorageInfo (id : UInt32) : Option (TxPacket × List UInt8) :=
  p.command (2 + 1 + 4) 0x31 [(0, uint32Field id)]

def execFromRam : Option (TxPacket × List UInt8) := p.command (2 + 1) 0x32 []

def switchUartDelay : UInt32 := 26666667

def switchUart : Option (TxPacket × List UInt8) :=
  p.command (2 + 1 + 4) 0x33 [(0, uint32Field switchUartDelay)]

/-- Arguments beyond the limits are not refused. -/
def fsProgram (keySize len : UInt16) (flags : UInt32) (key data : Nat → UInt8) :
    Option (TxPacket × List UInt8) :=
  p.command (2 + 1 + 2 + 2 + 4 + keySize.toUInt32 + len.toUInt32).toUInt16 0x34
    [(0, uint16Field keySize), (2, uint16Field len), (4, uint32Field flags),
      (8, loadBytes key 0 keySize.toNat), (8 + keySize.toNat, loadBytes data 0 len.toNat)]

end TxPacket

/-- A call of one of the commands. -/
inductive Command
  | getStatus
  | getStorageList
  | rawStorageWrite (id offset len : UInt32) (data : Nat → UInt8)
  | getVersionInfo
  | rawStorageErase (id offset numblocks : UInt32)
  | getStorageInfo (id : UInt32)
  | execFromRam
  | switchUart
  | fsProgram (keySize len : UInt16) (flags : UInt32) (key data : Nat → UInt8)

/-- `slWifiBldr_sendAck`. -/
def sendAck : List UInt8 := [0x00, 0xcc]

namespace Command

/-- What the command writes after the response. -/
def acks : Command → List (List UInt8)
  | getStatus => [sendAck]
  | getVersionInfo => [sendAck]
  | getStorageInfo _ => [sendAck]
  | _ => []

def transmit (p : TxPacket) : Command → Option (TxPacket × List UInt8)
  | getStatus => p.getStatus
  | getStorageList => p.getStorageList
  | rawStorageWrite id offset len data => p.rawStorageWrite id offset len data
  | getVersionInfo => p.getVersionInfo
  | rawStorageErase id offset numblocks => p.rawStorageErase id offset numblocks
  | getStorageInfo id => p.getStorageInfo id
  | execFromRam => p.execFromRam
  | switchUart => p.switchUart
  | fsProgram keySize len flags key data => p.fsProgram keySize len flags key data

/-- The command with everything that it writes to the UART. -/
def run (p : TxPacket) (command : Command) : Option (TxPacket × List (List UInt8)) :=
  (command.transmit p).map fun sent => (sent.1, sent.2 :: command.acks)

end Command

end TildaMk4.Firmware
