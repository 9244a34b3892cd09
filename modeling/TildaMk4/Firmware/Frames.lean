import TildaMk4.Firmware.Packets

/-!
# The frames of the bootloader commands

A frame carries its length, a checksum, an opcode and a payload. The payload of
every command is read back by a decoder that knows only the layout of the fields.
-/

namespace TildaMk4.Firmware

open Memory

/-- `bytes` is a frame of `opcode` and `payload`. -/
structure IsFrame (bytes : List UInt8) (opcode : UInt8) (payload : List UInt8) : Prop where
  length : decodeBE (bytes.take 2) = 3 + payload.length
  content : ∃ chksum : UInt8, bytes.drop 2 = chksum :: opcode :: payload ∧
    chksum.toNat = (opcode.toNat + (payload.map UInt8.toNat).sum) % 256
  whole : bytes.length = decodeBE (bytes.take 2) + 1

/-- A command as its receiver sees it. -/
inductive Message
  | getStatus
  | getStorageList
  | rawStorageWrite (id offset : Nat) (data : List UInt8)
  | getVersionInfo
  | rawStorageErase (id offset numblocks : Nat)
  | getStorageInfo (id : Nat)
  | execFromRam
  | switchUart (delay : Nat)
  | fsProgram (flags : Nat) (key data : List UInt8)
  deriving DecidableEq

/-- A big-endian number of `width` bytes, and what follows it. -/
def takeNumber (width : Nat) (payload : List UInt8) : Option (Nat × List UInt8) :=
  if width ≤ payload.length then some (decodeBE (payload.take width), payload.drop width) else none

def takeBytes (len : Nat) (payload : List UInt8) : Option (List UInt8 × List UInt8) :=
  if len ≤ payload.length then some (payload.take len, payload.drop len) else none

/-- The message, if all of the payload is used. -/
def finish (message : Message) (rest : List UInt8) : Option Message :=
  if rest = [] then some message else none

def decodePayload (opcode : UInt8) (payload : List UInt8) : Option Message :=
  if opcode = 0x23 then finish .getStatus payload
  else if opcode = 0x27 then finish .getStorageList payload
  else if opcode = 0x2d then do
    let (id, rest) ← takeNumber 4 payload
    let (offset, rest) ← takeNumber 4 rest
    let (len, rest) ← takeNumber 4 rest
    let (data, rest) ← takeBytes len rest
    finish (.rawStorageWrite id offset data) rest
  else if opcode = 0x2f then finish .getVersionInfo payload
  else if opcode = 0x30 then do
    let (id, rest) ← takeNumber 4 payload
    let (offset, rest) ← takeNumber 4 rest
    let (numblocks, rest) ← takeNumber 4 rest
    finish (.rawStorageErase id offset numblocks) rest
  else if opcode = 0x31 then do
    let (id, rest) ← takeNumber 4 payload
    finish (.getStorageInfo id) rest
  else if opcode = 0x32 then finish .execFromRam payload
  else if opcode = 0x33 then do
    let (delay, rest) ← takeNumber 4 payload
    finish (.switchUart delay) rest
  else if opcode = 0x34 then do
    let (keySize, rest) ← takeNumber 2 payload
    let (chunkSize, rest) ← takeNumber 2 rest
    let (flags, rest) ← takeNumber 4 rest
    let (key, rest) ← takeBytes keySize rest
    let (data, rest) ← takeBytes chunkSize rest
    finish (.fsProgram flags key data) rest
  else none

namespace Command

/-- The limits that the commands state. -/
def WithinLimits : Command → Prop
  | rawStorageWrite _ _ len _ => len.toNat ≤ 4080
  | fsProgram keySize len _ _ _ => keySize.toNat ≤ 16 ∧ len.toNat ≤ 4096
  | _ => True

def opcode : Command → UInt8
  | getStatus => 0x23
  | getStorageList => 0x27
  | rawStorageWrite .. => 0x2d
  | getVersionInfo => 0x2f
  | rawStorageErase .. => 0x30
  | getStorageInfo _ => 0x31
  | execFromRam => 0x32
  | switchUart => 0x33
  | fsProgram .. => 0x34

/-- The arguments of the call. -/
def message : Command → Message
  | getStatus => .getStatus
  | getStorageList => .getStorageList
  | rawStorageWrite id offset len data =>
    .rawStorageWrite id.toNat offset.toNat (loadBytes data 0 len.toNat)
  | getVersionInfo => .getVersionInfo
  | rawStorageErase id offset numblocks =>
    .rawStorageErase id.toNat offset.toNat numblocks.toNat
  | getStorageInfo id => .getStorageInfo id.toNat
  | execFromRam => .execFromRam
  | switchUart => .switchUart 26666667
  | fsProgram keySize len flags key data =>
    .fsProgram flags.toNat (loadBytes key 0 keySize.toNat) (loadBytes data 0 len.toNat)

end Command

@[simp] theorem uint32Field_length (value : UInt32) : (TxPacket.uint32Field value).length = 4 := rfl

@[simp] theorem uint16Field_length (value : UInt16) : (TxPacket.uint16Field value).length = 2 := rfl

/-- A byte of a number, taken out by a mask and a shift. -/
theorem and_mask_shift (n k : Nat) : (n &&& (255 <<< k)) >>> k = n / 2 ^ k % 256 := by
  rw [Nat.shiftRight_and_distrib, Nat.shiftLeft_shiftRight, Nat.shiftRight_eq_div_pow]
  exact Nat.and_two_pow_sub_one_eq_mod _ 8

theorem decodeBE_uint32Field (value : UInt32) :
    decodeBE (TxPacket.uint32Field value) = value.toNat := by
  have bound : value.toNat < 2 ^ 32 := value.toNat_lt
  have masks (k : Nat) := and_mask_shift value.toNat k
  have third := masks 24
  have second := masks 16
  have first := masks 8
  have zeroth := masks 0
  simp only [Nat.reduceShiftLeft] at third second first zeroth
  simp only [decodeBE, TxPacket.uint32Field, List.foldl_cons, List.foldl_nil,
    UInt32.toNat_toUInt8, UInt32.toNat_shiftRight, UInt32.toNat_and, UInt32.reduceToNat,
    Nat.reduceMod, third, second, first, zeroth]
  omega

theorem decodeBE_uint16Field (value : UInt16) :
    decodeBE (TxPacket.uint16Field value) = value.toNat := by
  have bound : value.toNat < 2 ^ 16 := value.toNat_lt
  have first := and_mask_shift value.toNat 8
  have zeroth := and_mask_shift value.toNat 0
  simp only [Nat.reduceShiftLeft] at first zeroth
  simp only [decodeBE, TxPacket.uint16Field, List.foldl_cons, List.foldl_nil,
    UInt16.toNat_toUInt8, UInt16.toNat_shiftRight, UInt16.toNat_and, UInt16.reduceToNat,
    Nat.reduceMod, first, zeroth]
  omega

/-- Fields that follow each other from `at_` on. -/
def LaidOut (at_ : Nat) : List (Nat × List UInt8) → Prop
  | [] => True
  | (start, bytes) :: rest => start = at_ ∧ LaidOut (at_ + bytes.length) rest

def payloadOf (fields : List (Nat × List UInt8)) : List UInt8 := fields.flatMap Prod.snd

namespace TxPacket

theorem foldlM_put {fields : List (Nat × List UInt8)} :
    ∀ {p : TxPacket} {at_ : Nat}, LaidOut at_ fields → at_ + (payloadOf fields).length ≤ dataSize →
      fields.foldlM (fun q field => q.put field.1 field.2) p =
        some { p with data := storeBytes p.data at_ (payloadOf fields) } := by
  induction fields with
  | nil =>
    intro p at_ _ _
    have nothing : storeBytes p.data at_ [] = p.data := blit_zero ..
    simp [payloadOf, nothing]
  | cons field rest ih =>
    obtain ⟨start, bytes⟩ := field
    rintro p at_ ⟨rfl, later⟩ fits
    have lengths : (payloadOf ((start, bytes) :: rest)).length =
        bytes.length + (payloadOf rest).length := by
      simp [payloadOf]
    have stored : p.put start bytes = some { p with data := storeBytes p.data start bytes } :=
      if_pos (by omega)
    have onward := ih (p := { p with data := storeBytes p.data start bytes }) later (by omega)
    rw [storeBytes_append] at onward
    simpa [stored, payloadOf] using onward

theorem swapped_bytes (len : UInt16) :
    decodeBE [(((len &&& 0x00ff) <<< 8) + ((len &&& 0xff00) >>> 8)).toUInt8,
      ((((len &&& 0x00ff) <<< 8) + ((len &&& 0xff00) >>> 8)) >>> 8).toUInt8] = len.toNat := by
  have bound : len.toNat < 2 ^ 16 := len.toNat_lt
  have high : ((len &&& 0xff00) >>> 8).toNat = len.toNat / 256 := by
    have first := and_mask_shift len.toNat 8
    simp only [Nat.reduceShiftLeft] at first
    simp only [UInt16.toNat_shiftRight, UInt16.toNat_and, UInt16.reduceToNat, Nat.reduceMod, first]
    omega
  have low : (len &&& 0x00ff).toNat = len.toNat % 256 := by
    simp only [UInt16.toNat_and, UInt16.reduceToNat]
    exact Nat.and_two_pow_sub_one_eq_mod _ 8
  generalize (len &&& 0xff00) >>> 8 = len1 at high
  generalize len &&& 0x00ff = len2 at low
  have whole : (len2.toNat * 2 ^ 8 % 2 ^ 16 + len1.toNat) % 2 ^ 16 =
      256 * len2.toNat + len1.toNat := by
    omega
  have upper : (256 * len2.toNat + len1.toNat) / 2 ^ 8 = len2.toNat := by omega
  simp only [decodeBE, List.foldl_cons, List.foldl_nil, UInt16.toNat_toUInt8,
    UInt16.toNat_shiftRight, UInt16.toNat_shiftLeft, UInt16.toNat_add, UInt16.reduceToNat,
    Nat.reduceMod, Nat.shiftLeft_eq, Nat.shiftRight_eq_div_pow, whole, upper]
  omega

theorem sendCmd_writes {p : TxPacket} {payload : List UInt8}
    (stored : loadBytes p.data 0 payload.length = payload) (fits : payload.length ≤ dataSize)
    (len : p.len.toNat = 3 + payload.length)
    (sum : p.chksum.toNat = (p.opcode.toNat + (payload.map UInt8.toNat).sum) % 256) :
    ∃ after frame, p.sendCmd = some (after, frame) ∧ IsFrame frame p.opcode payload ∧
      frame.length ≤ packetSize := by
  have small : dataSize = 4120 := rfl
  have size : packetSize = 4124 := rfl
  have packetLen : (p.len + 1).toNat = 4 + payload.length := by
    simp only [UInt16.toNat_add, UInt16.reduceToNat]
    omega
  have image_data (q : TxPacket) (i : Nat) : q.image (4 + i) = q.data i := by
    rw [Nat.add_comm]
    rfl
  have length := swapped_bytes p.len
  refine ⟨_, _, if_pos (by omega), ?_, ?_⟩
  · have frame (len : UInt16) : (List.range (4 + payload.length)).map { p with len := len }.image =
        [len.toUInt8, (len >>> 8).toUInt8, p.chksum, p.opcode] ++ payload := by
      have data : (List.range payload.length).map (fun i => { p with len := len }.image (4 + i)) =
          payload := by
        simpa [image_data, loadBytes] using stored
      rw [List.range_add, List.map_append, List.map_map]
      exact congrArg _ data
    rw [packetLen, frame]
    refine ⟨length.trans len, ⟨p.chksum, rfl, sum⟩, ?_⟩
    refine Eq.trans ?_ (congrArg Nat.succ length.symm)
    simp only [List.length_append, List.length_cons, List.length_nil, len]
    omega
  · simp only [List.length_map, List.length_range]
    omega

/-- A command whose length counts its fields writes one frame, and stores nothing
outside the packet. -/
theorem command_writes (p : TxPacket) {len : UInt16} (opcode : UInt8)
    {fields : List (Nat × List UInt8)} (laidOut : LaidOut 0 fields)
    (fits : (payloadOf fields).length ≤ dataSize)
    (counted : len.toNat = 3 + (payloadOf fields).length) :
    ∃ after frame, p.command len opcode fields = some (after, frame) ∧
      IsFrame frame opcode (payloadOf fields) ∧ frame.length ≤ packetSize := by
  have filled := foldlM_put (p := { p with len := len, opcode := opcode }) laidOut (by omega)
  have stored := loadBytes_storeBytes p.data 0 (payloadOf fields)
  have count : len.toNat - 2 - 1 = (payloadOf fields).length := by omega
  obtain ⟨after, frame, sent, isFrame, inside⟩ := sendCmd_writes (p := ⟨len,
    (payloadOf fields).foldl (· + ·) 0 + opcode, opcode, storeBytes p.data 0 (payloadOf fields)⟩)
    stored fits counted (by
      simp only [UInt8.toNat_add, toNat_foldl_add, UInt8.toNat_zero]
      omega)
  have summed (q : TxPacket) (length : q.len = len)
      (data : q.data = storeBytes p.data 0 (payloadOf fields)) : q.genChksum =
      some { q with chksum := (payloadOf fields).foldl (· + ·) 0 + q.opcode } := by
    simp only [genChksum, length, count, if_pos fits, data, stored]
  refine ⟨after, frame, ?_, isFrame, inside⟩
  simp [command, filled, summed, sent]

end TxPacket

@[simp] theorem takeNumber_uint32Field (value : UInt32) (rest : List UInt8) :
    takeNumber 4 (TxPacket.uint32Field value ++ rest) = some (value.toNat, rest) := by
  rw [← decodeBE_uint32Field]
  simp [takeNumber, TxPacket.uint32Field]

@[simp] theorem takeNumber_uint16Field (value : UInt16) (rest : List UInt8) :
    takeNumber 2 (TxPacket.uint16Field value ++ rest) = some (value.toNat, rest) := by
  rw [← decodeBE_uint16Field]
  simp [takeNumber, TxPacket.uint16Field]

@[simp] theorem takeBytes_loadBytes (m : Nat → UInt8) (len : Nat) (rest : List UInt8) :
    takeBytes len (loadBytes m 0 len ++ rest) = some (loadBytes m 0 len, rest) := by
  simp [takeBytes]

@[simp] theorem takeNumber_lastField (value : UInt32) :
    takeNumber 4 (TxPacket.uint32Field value) = some (value.toNat, []) := by
  simpa using takeNumber_uint32Field value []

@[simp] theorem takeBytes_last (m : Nat → UInt8) (len : Nat) :
    takeBytes len (loadBytes m 0 len) = some (loadBytes m 0 len, []) := by
  simpa using takeBytes_loadBytes m len []

@[simp] theorem finish_nil (message : Message) : finish message [] = some message := rfl

/-- A command writes a frame with its opcode, from whose payload its arguments are read
back, and nothing outside the packet is stored, read or sent. -/
theorem command_frame (p : TxPacket) (command : Command) (within : command.WithinLimits) :
    ∃ after frame payload, command.run p = some (after, frame :: command.acks) ∧
      IsFrame frame command.opcode payload ∧ frame.length ≤ packetSize ∧
      decodePayload command.opcode payload = some command.message := by
  suffices sends : ∃ len fields, command.transmit p = p.command len command.opcode fields ∧
      LaidOut 0 fields ∧ (payloadOf fields).length ≤ dataSize ∧
      len.toNat = 3 + (payloadOf fields).length ∧
      decodePayload command.opcode (payloadOf fields) = some command.message by
    obtain ⟨len, fields, transmits, laidOut, fits, counted, decoded⟩ := sends
    obtain ⟨after, frame, sent, isFrame, inside⟩ :=
      TxPacket.command_writes p command.opcode laidOut fits counted
    exact ⟨after, frame, _, by simp [Command.run, transmits, sent], isFrame, inside, decoded⟩
  cases command with
  | getStatus => exact ⟨_, _, rfl, trivial, by decide, rfl, rfl⟩
  | getStorageList => exact ⟨_, _, rfl, trivial, by decide, rfl, rfl⟩
  | rawStorageWrite id offset len data =>
    have limit : len.toNat ≤ 4080 := within
    have length : (2 + 1 + 4 + 4 + 4 + len).toUInt16.toNat = 15 + len.toNat := by
      simp only [UInt32.toNat_toUInt16, UInt32.toNat_add, UInt32.reduceToNat]
      omega
    refine ⟨_, _, rfl, ⟨rfl, rfl, rfl, rfl, trivial⟩, ?_, ?_, ?_⟩
    · simp only [payloadOf, dataSize, List.flatMap_cons, List.flatMap_nil, List.length_append,
        loadBytes_length, uint32Field_length, List.length_nil]
      omega
    · simp only [payloadOf, length, List.flatMap_cons, List.flatMap_nil, List.length_append,
        loadBytes_length, uint32Field_length, List.length_nil]
      omega
    · simp [payloadOf, decodePayload, Command.opcode, Command.message]
  | getVersionInfo => exact ⟨_, _, rfl, trivial, by decide, rfl, rfl⟩
  | rawStorageErase id offset numblocks =>
    refine ⟨_, _, rfl, ⟨rfl, rfl, rfl, trivial⟩, by simp [payloadOf, dataSize],
      by simp [payloadOf], ?_⟩
    simp [payloadOf, decodePayload, Command.opcode, Command.message]
  | getStorageInfo id =>
    refine ⟨_, _, rfl, ⟨rfl, trivial⟩, by simp [payloadOf, dataSize], by simp [payloadOf], ?_⟩
    simp [payloadOf, decodePayload, Command.opcode, Command.message]
  | execFromRam => exact ⟨_, _, rfl, trivial, by decide, rfl, rfl⟩
  | switchUart => exact ⟨_, _, rfl, ⟨rfl, trivial⟩, by decide, by decide, by decide⟩
  | fsProgram keySize len flags key data =>
    obtain ⟨keyLimit, limit⟩ : keySize.toNat ≤ 16 ∧ len.toNat ≤ 4096 := within
    have length : (2 + 1 + 2 + 2 + 4 + keySize.toUInt32 + len.toUInt32).toUInt16.toNat =
        11 + keySize.toNat + len.toNat := by
      simp only [UInt32.toNat_toUInt16, UInt32.toNat_add, UInt32.reduceToNat,
        UInt16.toNat_toUInt32]
      omega
    refine ⟨_, _, rfl, ⟨rfl, rfl, rfl, rfl, by simp, trivial⟩, ?_, ?_, ?_⟩
    · simp only [payloadOf, dataSize, List.flatMap_cons, List.flatMap_nil, List.length_append,
        loadBytes_length, uint32Field_length, uint16Field_length, List.length_nil]
      omega
    · simp only [payloadOf, length, List.flatMap_cons, List.flatMap_nil, List.length_append,
        loadBytes_length, uint32Field_length, uint16Field_length, List.length_nil]
      omega
    · simp [payloadOf, decodePayload, Command.opcode, Command.message]

/-- The longest file chunk, with a key. -/
theorem command_frame_fsProgram :
    ∃ after frame payload,
      (Command.fsProgram 16 4096 0 (fun _ => 0x01) (fun _ => 0xff)).run ⟨0, 0, 0, fun _ => 0⟩ =
        some (after, [frame]) ∧
      IsFrame frame 0x34 payload ∧ frame.length ≤ packetSize ∧
      decodePayload 0x34 payload =
        some (Command.fsProgram 16 4096 0 (fun _ => 0x01) (fun _ => 0xff)).message :=
  command_frame _ (.fsProgram 16 4096 0 (fun _ => 0x01) (fun _ => 0xff)) ⟨by decide, by decide⟩

end TildaMk4.Firmware
