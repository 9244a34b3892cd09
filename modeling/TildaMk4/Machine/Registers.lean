import TildaMk4.Machine.Transfers

/-!
# The registers of a device on the I2C bus

`writeto_mem` puts one or two bytes of the register address in front of the data,
`readfrom_mem` and `readfrom_mem_into` always send one.
-/

namespace TildaMk4.Machine

open Memory

/-- A device whose registers have addresses of `width` bytes: a write names a register
and stores what follows, a read returns what is stored under the bytes sent before. -/
structure RegisterDevice (State : Type) where
  width : Nat
  store : State → List UInt8 → List UInt8 → State
  load : State → List UInt8 → Nat → List UInt8
  load_length : ∀ s address count, (load s address count).length = count
  load_store : ∀ s address data, address.length = width →
    load (store s address data) address data.length = data

namespace I2c

/-- The contents of `buf2`, wherever it is, and whatever it held before. -/
def buf2 (before : Nat → UInt8) (memaddr : Int32) (data : List UInt8) : Nat → UInt8 :=
  storeBytes (storeBytes before 0 (writePrefix memaddr)) (writePrefix memaddr).length data

/-- The bytes that `machine_i2c_writeto_mem` sends. -/
def bytesSent (before : Nat → UInt8) (memaddr : Int32) (data : List UInt8) : List UInt8 :=
  loadBytes (buf2 before memaddr data) 0 (writeCount memaddr (.ofNat data.length)).toNat

theorem bytesSent_eq (before : Nat → UInt8) (memaddr : Int32) {data : List UInt8}
    (fits : data.length < 2 ^ 31) : bytesSent before memaddr data = writePrefix memaddr ++ data := by
  have width := writePrefix_length memaddr
  have counted : (writeCount memaddr (.ofNat data.length)).toNat =
      (writePrefix memaddr ++ data).length := by
    rw [writeCount, UInt32.toNat_add, UInt32.toNat_ofNat', UInt32.toNat_ofNat', ← Nat.add_mod,
      List.length_append]
    apply Nat.mod_eq_of_lt
    split at width <;> omega
  rw [bytesSent, counted, buf2]
  have whole := storeBytes_append before 0 (writePrefix memaddr) data
  rw [Nat.zero_add] at whole
  rw [whole, loadBytes_storeBytes]

/-- The two ways to name a register agree up to 255, and only there. -/
theorem writePrefix_eq_iff (memaddr : Int32) :
    writePrefix memaddr = readPrefix memaddr ↔ memaddr ≤ 255 := by
  rw [← Int32.not_lt]
  constructor
  · intro same two
    have lengths := congrArg List.length same
    rw [writePrefix_length, if_pos two] at lengths
    nomatch lengths
  · intro one
    rw [writePrefix, if_neg one]
    simp [memaddrBytes, readPrefix]

end I2c

namespace RegisterDevice

variable {State : Type} (device : RegisterDevice State) (s : State)

/-- A write of `bytes` to the device. -/
def receive (bytes : List UInt8) : State :=
  device.store s (bytes.take device.width) (bytes.drop device.width)

/-- What `machine_i2c_readfrom_mem` returns. -/
def readfromMem (memaddr nbytes : Int32) : List UInt8 :=
  device.load s (I2c.readPrefix memaddr) (sizeArg nbytes).toNat

/-- What `machine_i2c_readfrom_mem_into` leaves in a buffer of `len` bytes. -/
def readfromMemInto (memaddr : Int32) (len : UInt32) : List UInt8 :=
  device.load s (I2c.readPrefix memaddr) len.toNat

theorem receive_append {address data : List UInt8} (width : device.width = address.length) :
    device.receive s (address ++ data) = device.store s address data := by
  rw [receive, width, List.take_left, List.drop_left]

end RegisterDevice

/-- A table of registers, each with a memory of its own. -/
def registerTable (width : Nat) : RegisterDevice (List UInt8 → Nat → UInt8) where
  width := width
  store registers address data :=
    Function.update registers address (storeBytes (registers address) 0 data)
  load registers address count := loadBytes (registers address) 0 count
  load_length _ _ _ := loadBytes_length ..
  load_store registers address data _ := by
    rw [Function.update_self]
    exact loadBytes_storeBytes (registers address) 0 data

/-- Every device whose registers have addresses like the one in front of the data gives
the data back. -/
def ReadsBack (memaddr : Int32) : Prop :=
  ∀ {State : Type} (device : RegisterDevice State) (s : State) (before : Nat → UInt8)
    (data : List UInt8), data.length < 2 ^ 31 →
    device.width = (I2c.writePrefix memaddr).length →
      device.readfromMem (device.receive s (I2c.bytesSent before memaddr data)) memaddr
        (.ofNat data.length) = data ∧
      device.readfromMemInto (device.receive s (I2c.bytesSent before memaddr data)) memaddr
        (.ofNat data.length) = data

theorem sizeArg_ofNat {len : Nat} (fits : len < 2 ^ 31) : (sizeArg (.ofNat len)).toNat = len := by
  have small : len < 2 ^ 32 := by omega
  rw [sizeArg, Int32.toUInt32_ofNat', UInt32.toNat_ofNat', Nat.mod_eq_of_lt small]

theorem readsBack_of_le {memaddr : Int32} (one : memaddr ≤ 255) : ReadsBack memaddr := by
  intro State device s before data fits width
  have same := (I2c.writePrefix_eq_iff memaddr).mpr one
  have small : (UInt32.ofNat data.length).toNat = data.length :=
    UInt32.toNat_ofNat_of_lt (by simp only [UInt32.size]; omega)
  rw [I2c.bytesSent_eq before memaddr fits, device.receive_append s width,
    RegisterDevice.readfromMem, RegisterDevice.readfromMemInto, sizeArg_ofNat fits, small, ← same]
  exact ⟨device.load_store s _ data width.symm, device.load_store s _ data width.symm⟩

/-- One byte that is written and read back tells the two addresses apart. -/
theorem le_of_readsBack {memaddr : Int32} (back : ReadsBack memaddr) : memaddr ≤ 255 := by
  rw [← I2c.writePrefix_eq_iff]
  by_contra different
  obtain ⟨read, -⟩ := back (registerTable (I2c.writePrefix memaddr).length)
    (fun _ _ => 0) (fun _ => 0) [1] (by decide) rfl
  rw [I2c.bytesSent_eq _ memaddr (by decide), RegisterDevice.receive_append _ _ rfl] at read
  simp only [RegisterDevice.readfromMem, registerTable,
    Function.update_of_ne (Ne.symm different)] at read
  exact absurd read (by decide)

/-- Writing and reading name the same register, and what is written is read back, for
the addresses of one byte and for no others. -/
theorem registers_same_iff (memaddr : Int32) :
    (I2c.writePrefix memaddr = I2c.readPrefix memaddr ↔ memaddr ≤ 255) ∧
      (ReadsBack memaddr ↔ memaddr ≤ 255) :=
  ⟨I2c.writePrefix_eq_iff memaddr, le_of_readsBack, readsBack_of_le⟩

/-- The register 0x1234 is written as 0x12, 0x34 and read as 0x34. -/
theorem registers_same_fails :
    ¬ ∀ memaddr : Int32, I2c.writePrefix memaddr = I2c.readPrefix memaddr := by
  intro always
  exact absurd (always 0x1234) (by decide)

end TildaMk4.Machine
