import Mathlib.Data.Nat.ModEq
import TildaMk4.Lib.Bytes
import TildaMk4.Machine.Uart

/-!
# The buffers of the bus transfers

What SPI, UART and I2C hand to their drivers. A driver accesses as many words as it is
told in each buffer that is not `NULL`; where the number and the buffer come from
different arguments, it may leave the buffer.
-/

namespace TildaMk4.Machine

open Memory

/-- The bytes from the first on that the driver accesses of a buffer of `size` bytes. -/
structure Access where
  size : Nat
  bytes : Nat
  deriving DecidableEq

/-- What one call of a driver reads and writes, and how many bytes of `dest` are returned
as an object whatever the driver reports. -/
structure Transaction where
  source : Option Access
  dest : Option Access
  returned : Nat
  deriving DecidableEq

structure Transaction.Bounded (t : Transaction) : Prop where
  source : ∀ access, t.source = some access → access.bytes ≤ access.size
  dest : ∀ access, t.dest = some access → access.bytes ≤ access.size
  returned : ∀ access, t.dest = some access → t.returned ≤ access.bytes

theorem Transaction.bounded_source (access : Access) :
    Transaction.Bounded ⟨some access, none, 0⟩ ↔ access.bytes ≤ access.size := by
  refine ⟨fun bounded => bounded.source access rfl, fun inside => ⟨?_, nofun, nofun⟩⟩
  rintro _ ⟨⟩
  exact inside

theorem Transaction.bounded_dest (access : Access) (returned : Nat) :
    Transaction.Bounded ⟨none, some access, returned⟩ ↔
      access.bytes ≤ access.size ∧ returned ≤ access.bytes := by
  refine ⟨fun bounded => ⟨bounded.dest access rfl, bounded.returned access rfl⟩,
    fun ⟨inside, whole⟩ => ⟨nofun, ?_, ?_⟩⟩
  · rintro _ ⟨⟩
    exact inside
  · rintro _ ⟨⟩
    exact whole

theorem Transaction.bounded_both (source dest : Access) (returned : Nat) :
    Transaction.Bounded ⟨some source, some dest, returned⟩ ↔
      source.bytes ≤ source.size ∧ Transaction.Bounded ⟨none, some dest, returned⟩ := by
  rw [bounded_dest]
  refine ⟨fun bounded => ⟨bounded.source source rfl, bounded.dest dest rfl,
    bounded.returned dest rfl⟩, fun ⟨inside, inside', whole⟩ => ⟨?_, ?_, ?_⟩⟩
  · rintro _ ⟨⟩
    exact inside
  · rintro _ ⟨⟩
    exact inside'
  · rintro _ ⟨⟩
    exact whole

/-- `vstr_init_len` of MicroPython, which raises or gives the string a buffer that has
room for a null byte behind it. A length for which this room wraps is left open. -/
structure VstrInitLen where
  alloc : UInt32 → Option UInt32
  exactly : ∀ len size, len ≠ 0xFFFFFFFF → alloc len = some size → size = len + 1

/-- A string of that length gets a buffer that is long enough, or none. -/
def VstrInitLen.Holds (vstr : VstrInitLen) (len : UInt32) : Prop :=
  ∀ size, vstr.alloc len = some size → len ≤ size

theorem VstrInitLen.size_cases (vstr : VstrInitLen) {len size : UInt32}
    (given : vstr.alloc len = some size) :
    size.toNat = len.toNat + 1 ∨ len.toNat = 2 ^ 32 - 1 := by
  by_cases last : len = 0xFFFFFFFF
  · exact .inr (last ▸ rfl)
  · refine .inl ?_
    have small : len.toNat ≠ 0xFFFFFFFF := fun same => last (UInt32.toNat_inj.mp same)
    have bound := len.toNat_lt
    rw [vstr.exactly len size last given, UInt32.toNat_add]
    exact Nat.mod_eq_of_lt (by change len.toNat + 1 < 2 ^ 32; omega)

theorem VstrInitLen.holds_iff (vstr : VstrInitLen) {len size : UInt32}
    (given : vstr.alloc len = some size) : vstr.Holds len ↔ len.toNat ≤ size.toNat := by
  rw [← UInt32.le_iff_toNat_le]
  refine ⟨fun holds => holds size given, fun inside size' given' => ?_⟩
  obtain rfl := Option.some.inj (given.symm.trans given')
  exact inside

/-- `mp_obj_get_int` for an argument of type `size_t` or `uint32_t`. An integer that is no
machine word raises there, before any transaction: `nbytes` and `memaddr` are the words here,
where `TableIds` and `PwmDuty` take the integers. -/
def sizeArg (nbytes : Int32) : UInt32 := nbytes.toUInt32

namespace Spi

/-- The bytes of a word of `bits` bits in the buffers of the driver. -/
def wordSize (bits : UInt8) : Nat := if bits ≤ 8 then 1 else if bits ≤ 16 then 2 else 4

/-- `trans.count` of `spi_transfer`. -/
def count (bits : UInt8) (len : UInt32) : UInt32 := if 8 < bits ∧ bits ≤ 16 then len / 2 else len

/-- `spi_transfer` with the sizes of the two buffers. -/
def spiTransfer (bits : UInt8) (len : UInt32) (src dest : Option UInt32) (returned : Nat) :
    Transaction where
  source := src.map fun size => ⟨size.toNat, (count bits len).toNat * wordSize bits⟩
  dest := dest.map fun size => ⟨size.toNat, (count bits len).toNat * wordSize bits⟩
  returned := returned

def read (vstr : VstrInitLen) (bits : UInt8) (nbytes : Int32) : Option Transaction :=
  (vstr.alloc (sizeArg nbytes)).map fun size =>
    spiTransfer bits (sizeArg nbytes) none (some size) (sizeArg nbytes).toNat

def readinto (bits : UInt8) (len : UInt32) : Option Transaction :=
  some (spiTransfer bits len none (some len) 0)

def write (bits : UInt8) (len : UInt32) : Option Transaction :=
  some (spiTransfer bits len (some len) none 0)

def writeReadinto (bits : UInt8) (writeLen readLen : UInt32) : Option Transaction :=
  some (spiTransfer bits readLen (some writeLen) (some readLen) 0)

end Spi

namespace Uart

/-- `UART_read`, whose words are bytes. -/
def uartRead (size nbytes : UInt32) : Transaction :=
  ⟨none, some ⟨size.toNat, nbytes.toNat⟩, 0⟩

/-- The argument `nbytes`, or what is taken if it is left out. -/
def nbytesOr (default : UInt32) (nbytes : Option Int32) : UInt32 := (nbytes.map sizeArg).getD default

def read (vstr : VstrInitLen) (config : Config) (nbytes : Option Int32) : Option Transaction :=
  (vstr.alloc (nbytesOr config.readBufLen nbytes)).map fun size =>
    uartRead size (nbytesOr config.readBufLen nbytes)

def readinto (len : UInt32) (nbytes : Option Int32) : Option Transaction :=
  some (uartRead len (nbytesOr len nbytes))

def readline (vstr : VstrInitLen) (config : Config) : Option Transaction :=
  if config.mode = binary then none
  else (vstr.alloc config.readBufLen).map fun size => uartRead size config.readBufLen

end Uart

namespace I2c

/-- `MAX_MEMADDR_SIZE`. -/
abbrev maxMemaddrSize : UInt32 := 4

/-- `BUF_STACK_SIZE`. -/
abbrev bufStackSize : UInt32 := 12

def readfrom (vstr : VstrInitLen) (nbytes : Int32) : Option Transaction :=
  (vstr.alloc (sizeArg nbytes)).map fun size =>
    ⟨none, some ⟨size.toNat, (sizeArg nbytes).toNat⟩, (sizeArg nbytes).toNat⟩

/-- The byte that `i2c_readfrom_mem` sends, the first of four. -/
def readPrefix (memaddr : Int32) : List UInt8 := [memaddr.toUInt32.toUInt8]

def readfromMem (vstr : VstrInitLen) (memaddr nbytes : Int32) : Option Transaction :=
  (vstr.alloc (sizeArg nbytes)).map fun size =>
    ⟨some ⟨4, (readPrefix memaddr).length⟩, some ⟨size.toNat, (sizeArg nbytes).toNat⟩,
      (sizeArg nbytes).toNat⟩

/-- The loop over the bytes of `memaddr` with `bytes` of them left. -/
def memaddrBytes (memaddr : Int32) : Nat → List UInt8
  | 0 => []
  | bytes + 1 => (memaddr >>> Int32.ofNat (8 * bytes)).toUInt32.toUInt8 :: memaddrBytes memaddr bytes

/-- What `machine_i2c_writeto_mem` puts in front of the data. -/
def writePrefix (memaddr : Int32) : List UInt8 := memaddrBytes memaddr (if 255 < memaddr then 2 else 1)

/-- The size of `buf2`, on the stack or on the heap. -/
def buf2Size (len : UInt32) : UInt32 := if len ≤ bufStackSize then 16 else maxMemaddrSize + len

/-- `trans.writeCount`. -/
def writeCount (memaddr : Int32) (len : UInt32) : UInt32 :=
  .ofNat (writePrefix memaddr).length + len

/-- `machine_i2c_writeto_mem` for `len` bytes of data; `allocates` says whether `m_new`
finds the memory. -/
def writetoMem (allocates : Bool) (memaddr : Int32) (len : UInt32) : Option Transaction :=
  if len ≤ bufStackSize ∨ allocates then
    some ⟨some ⟨(buf2Size len).toNat, (writeCount memaddr len).toNat⟩, none, 0⟩
  else none

end I2c

/-- The calls that transfer data, with the lengths of their buffers. -/
inductive Call
  | spiRead (bits : UInt8) (nbytes : Int32)
  | spiReadinto (bits : UInt8) (len : UInt32)
  | spiWrite (bits : UInt8) (len : UInt32)
  | spiWriteReadinto (bits : UInt8) (writeLen readLen : UInt32)
  | uartRead (config : Uart.Config) (nbytes : Option Int32)
  | uartReadinto (len : UInt32) (nbytes : Option Int32)
  | uartReadline (config : Uart.Config)
  | i2cReadfrom (nbytes : Int32)
  | i2cReadfromMem (memaddr nbytes : Int32)
  | i2cWritetoMem (allocates : Bool) (memaddr : Int32) (len : UInt32)

namespace Call

/-- The transaction of a call, unless it raises before. -/
def transaction (vstr : VstrInitLen) : Call → Option Transaction
  | spiRead bits nbytes => Spi.read vstr bits nbytes
  | spiReadinto bits len => Spi.readinto bits len
  | spiWrite bits len => Spi.write bits len
  | spiWriteReadinto bits writeLen readLen => Spi.writeReadinto bits writeLen readLen
  | uartRead config nbytes => Uart.read vstr config nbytes
  | uartReadinto len nbytes => Uart.readinto len nbytes
  | uartReadline config => Uart.readline vstr config
  | i2cReadfrom nbytes => I2c.readfrom vstr nbytes
  | i2cReadfromMem memaddr nbytes => I2c.readfromMem vstr memaddr nbytes
  | i2cWritetoMem allocates memaddr len => I2c.writetoMem allocates memaddr len

/-- When the transaction stays inside its buffers. -/
def Fits (vstr : VstrInitLen) : Call → Prop
  | spiRead bits nbytes =>
    vstr.alloc (sizeArg nbytes) = none ∨ sizeArg nbytes = 0 ∨
      bits ≤ 8 ∧ vstr.Holds (sizeArg nbytes) ∨
      8 < bits ∧ bits ≤ 16 ∧ (sizeArg nbytes).toNat % 2 = 0
  | spiReadinto bits len | spiWrite bits len => len = 0 ∨ bits ≤ 16
  | spiWriteReadinto bits writeLen readLen =>
    readLen = 0 ∨ bits ≤ 8 ∧ readLen ≤ writeLen ∨
      8 < bits ∧ bits ≤ 16 ∧ readLen.toNat / 2 * 2 ≤ writeLen.toNat
  | uartRead config nbytes => vstr.Holds (Uart.nbytesOr config.readBufLen nbytes)
  | uartReadinto len nbytes => ∀ given, nbytes = some given → sizeArg given ≤ len
  | uartReadline config => config.mode = Uart.binary ∨ vstr.Holds config.readBufLen
  | i2cReadfrom nbytes | i2cReadfromMem _ nbytes => vstr.Holds (sizeArg nbytes)
  | i2cWritetoMem allocates memaddr len =>
    len ≤ I2c.bufStackSize ∨ allocates = false ∨ len.toNat + 4 < 2 ^ 32 ∨
      2 ^ 32 ≤ (I2c.writePrefix memaddr).length + len.toNat

end Call

namespace Spi

theorem le_eight_iff (bits : UInt8) : bits ≤ 8 ↔ bits.toNat ≤ 8 := UInt8.le_iff_toNat_le

theorem le_sixteen_iff (bits : UInt8) : bits ≤ 16 ↔ bits.toNat ≤ 16 := UInt8.le_iff_toNat_le

theorem eight_lt_iff (bits : UInt8) : 8 < bits ↔ 8 < bits.toNat := UInt8.lt_iff_toNat_lt

/-- The bytes that the driver accesses for `len` bytes asked for. -/
theorem bytes_cases (bits : UInt8) (len : UInt32) :
    bits.toNat ≤ 8 ∧ (count bits len).toNat * wordSize bits = len.toNat ∨
      8 < bits.toNat ∧ bits.toNat ≤ 16 ∧
        (count bits len).toNat * wordSize bits = len.toNat / 2 * 2 ∨
      16 < bits.toNat ∧ (count bits len).toNat * wordSize bits = len.toNat * 4 := by
  simp only [count, wordSize, le_eight_iff, le_sixteen_iff, eight_lt_iff]
  by_cases small : bits.toNat ≤ 8
  · refine .inl ⟨small, ?_⟩
    rw [if_neg (by omega), if_pos small, Nat.mul_one]
  by_cases halves : bits.toNat ≤ 16
  · refine .inr (.inl ⟨by omega, halves, ?_⟩)
    rw [if_pos (by omega), if_neg small, if_pos halves, UInt32.toNat_div]
    rfl
  · refine .inr (.inr ⟨by omega, ?_⟩)
    rw [if_neg (by omega), if_neg small, if_neg halves]

theorem eq_zero_iff (len : UInt32) : len = 0 ↔ len.toNat = 0 := UInt32.toNat_inj.symm

/-- The buffer of `len` bytes itself is left only with words of four bytes. -/
theorem inside_iff (bits : UInt8) (len : UInt32) :
    (count bits len).toNat * wordSize bits ≤ len.toNat ↔ len = 0 ∨ bits ≤ 16 := by
  rw [eq_zero_iff, le_sixteen_iff]
  rcases bytes_cases bits len with ⟨small, bytes⟩ | ⟨-, halves, bytes⟩ | ⟨wider, bytes⟩ <;> omega

theorem read_bounded_iff (vstr : VstrInitLen) (bits : UInt8) (nbytes : Int32) :
    (∀ t, read vstr bits nbytes = some t → t.Bounded) ↔ (Call.spiRead bits nbytes).Fits vstr := by
  simp only [read, Call.Fits, Option.map_eq_some_iff, forall_exists_index, and_imp,
    forall_apply_eq_imp_iff₂]
  generalize sizeArg nbytes = len
  cases given : vstr.alloc len with
  | none => simp
  | some size =>
    have sizes := vstr.size_cases given
    have bound := size.toNat_lt
    simp only [Option.some.injEq, forall_eq', reduceCtorEq, false_or, vstr.holds_iff given]
    rw [spiTransfer, Option.map_none, Option.map_some, Transaction.bounded_dest, eq_zero_iff,
      le_eight_iff, le_sixteen_iff, eight_lt_iff]
    dsimp only
    rcases bytes_cases bits len with ⟨small, bytes⟩ | ⟨wide, halves, bytes⟩ | ⟨wider, bytes⟩ <;>
      omega

theorem readinto_bounded_iff (vstr : VstrInitLen) (bits : UInt8) (len : UInt32) :
    (∀ t, readinto bits len = some t → t.Bounded) ↔ (Call.spiReadinto bits len).Fits vstr := by
  simp only [readinto, Call.Fits, Option.some.injEq, forall_eq']
  rw [spiTransfer, Option.map_none, Option.map_some, Transaction.bounded_dest, ← inside_iff]
  exact and_iff_left (Nat.zero_le _)

theorem write_bounded_iff (vstr : VstrInitLen) (bits : UInt8) (len : UInt32) :
    (∀ t, write bits len = some t → t.Bounded) ↔ (Call.spiWrite bits len).Fits vstr := by
  simp only [write, Call.Fits, Option.some.injEq, forall_eq']
  rw [spiTransfer, Option.map_none, Option.map_some, Transaction.bounded_source, ← inside_iff]

theorem writeReadinto_bounded_iff (vstr : VstrInitLen) (bits : UInt8)
    (writeLen readLen : UInt32) :
    (∀ t, writeReadinto bits writeLen readLen = some t → t.Bounded) ↔
      (Call.spiWriteReadinto bits writeLen readLen).Fits vstr := by
  simp only [writeReadinto, Call.Fits, Option.some.injEq, forall_eq']
  rw [spiTransfer, Option.map_some, Option.map_some, Transaction.bounded_both,
    Transaction.bounded_dest, eq_zero_iff, le_eight_iff, le_sixteen_iff, eight_lt_iff,
    UInt32.le_iff_toNat_le]
  dsimp only
  rcases bytes_cases bits readLen with ⟨small, bytes⟩ | ⟨wide, halves, bytes⟩ | ⟨wider, bytes⟩ <;>
    omega

end Spi

namespace Uart

theorem uartRead_bounded_iff (size nbytes : UInt32) :
    (uartRead size nbytes).Bounded ↔ nbytes ≤ size := by
  rw [uartRead, Transaction.bounded_dest, UInt32.le_iff_toNat_le]
  exact and_iff_left (Nat.zero_le _)

/-- A string of the length that is read holds it, if it is made. -/
theorem vstr_bounded_iff (vstr : VstrInitLen) (nbytes : UInt32) :
    (∀ t, (vstr.alloc nbytes).map (uartRead · nbytes) = some t → t.Bounded) ↔
      vstr.Holds nbytes := by
  simp only [Option.map_eq_some_iff, forall_exists_index, and_imp, forall_apply_eq_imp_iff₂,
    uartRead_bounded_iff]
  exact Iff.rfl

theorem readinto_bounded_iff (vstr : VstrInitLen) (len : UInt32) (nbytes : Option Int32) :
    (∀ t, readinto len nbytes = some t → t.Bounded) ↔ (Call.uartReadinto len nbytes).Fits vstr := by
  simp only [readinto, Call.Fits, Option.some.injEq, forall_eq', uartRead_bounded_iff]
  cases nbytes with
  | none => exact iff_of_true (UInt32.le_refl _) nofun
  | some given => simp [nbytesOr]

theorem readline_bounded_iff (vstr : VstrInitLen) (config : Config) :
    (∀ t, readline vstr config = some t → t.Bounded) ↔ (Call.uartReadline config).Fits vstr := by
  simp only [readline, Call.Fits]
  split
  next binary_ => exact iff_of_true nofun (.inl binary_)
  next text_ =>
    rw [or_iff_right text_]
    exact vstr_bounded_iff vstr config.readBufLen

end Uart

namespace I2c

theorem readfrom_bounded_iff (vstr : VstrInitLen) (nbytes : Int32) :
    (∀ t, readfrom vstr nbytes = some t → t.Bounded) ↔ (Call.i2cReadfrom nbytes).Fits vstr := by
  simp only [readfrom, Call.Fits, Option.map_eq_some_iff, forall_exists_index, and_imp,
    forall_apply_eq_imp_iff₂, Transaction.bounded_dest, Nat.le_refl, and_true,
    ← UInt32.le_iff_toNat_le]
  exact Iff.rfl

theorem readfromMem_bounded_iff (vstr : VstrInitLen) (memaddr nbytes : Int32) :
    (∀ t, readfromMem vstr memaddr nbytes = some t → t.Bounded) ↔
      (Call.i2cReadfromMem memaddr nbytes).Fits vstr := by
  have one : (readPrefix memaddr).length ≤ 4 := Nat.le_of_ble_eq_true rfl
  simp only [readfromMem, Call.Fits, Option.map_eq_some_iff, forall_exists_index, and_imp,
    forall_apply_eq_imp_iff₂, Transaction.bounded_both, one, true_and, Transaction.bounded_dest,
    Nat.le_refl, and_true, ← UInt32.le_iff_toNat_le]
  exact Iff.rfl

theorem writePrefix_length (memaddr : Int32) :
    (writePrefix memaddr).length = if 255 < memaddr then 2 else 1 := by
  rw [writePrefix]
  split <;> rfl

theorem writetoMem_bounded_iff (vstr : VstrInitLen) (allocates : Bool) (memaddr : Int32)
    (len : UInt32) :
    (∀ t, writetoMem allocates memaddr len = some t → t.Bounded) ↔
      (Call.i2cWritetoMem allocates memaddr len).Fits vstr := by
  have width : (writePrefix memaddr).length = 1 ∨ (writePrefix memaddr).length = 2 := by
    rw [writePrefix_length]
    split
    · exact .inr rfl
    · exact .inl rfl
  have counted : (writeCount memaddr len).toNat =
      ((writePrefix memaddr).length + len.toNat) % 2 ^ 32 := by
    rw [writeCount, UInt32.toNat_add, UInt32.toNat_ofNat', Nat.mod_add_mod]
  have bound := len.toNat_lt
  rw [writetoMem, Call.Fits]
  by_cases small : len ≤ bufStackSize
  · rw [if_pos (.inl small)]
    simp only [Option.some.injEq, forall_eq', Transaction.bounded_source, small, true_or, iff_true,
      buf2Size, if_true, counted]
    have few := UInt32.le_iff_toNat_le.mp small
    have twelve : bufStackSize.toNat = 12 := rfl
    have sixteen : (16 : UInt32).toNat = 16 := rfl
    omega
  · cases allocates with
    | false => simp [small]
    | true =>
      have sized : (maxMemaddrSize + len).toNat = (4 + len.toNat) % 2 ^ 32 := UInt32.toNat_add ..
      simp only [small, or_true, if_true, Option.some.injEq, forall_eq',
        Transaction.bounded_source, buf2Size, if_false, false_or, Bool.true_eq_false, counted, sized]
      omega

end I2c

/-- Each call stays inside its buffers, and fills what it returns, exactly when it fits. -/
theorem transfers_inside_iff (vstr : VstrInitLen) (call : Call) :
    (∀ t, call.transaction vstr = some t → t.Bounded) ↔ call.Fits vstr := by
  cases call with
  | spiRead bits nbytes => exact Spi.read_bounded_iff vstr bits nbytes
  | spiReadinto bits len => exact Spi.readinto_bounded_iff vstr bits len
  | spiWrite bits len => exact Spi.write_bounded_iff vstr bits len
  | spiWriteReadinto bits writeLen readLen =>
    exact Spi.writeReadinto_bounded_iff vstr bits writeLen readLen
  | uartRead config nbytes => exact Uart.vstr_bounded_iff vstr _
  | uartReadinto len nbytes => exact Uart.readinto_bounded_iff vstr len nbytes
  | uartReadline config => exact Uart.readline_bounded_iff vstr config
  | i2cReadfrom nbytes => exact I2c.readfrom_bounded_iff vstr nbytes
  | i2cReadfromMem memaddr nbytes => exact I2c.readfromMem_bounded_iff vstr memaddr nbytes
  | i2cWritetoMem allocates memaddr len =>
    exact I2c.writetoMem_bounded_iff vstr allocates memaddr len

/-- A `vstr_init_len` that always finds the memory, and raises where the length wraps. -/
def VstrInitLen.roomy : VstrInitLen where
  alloc len := if len = 0xFFFFFFFF then none else some (len + 1)
  exactly len size last given := by
    rw [if_neg last] at given
    exact (Option.some.inj given).symm

/-- Two bytes are written while 64 are read into a buffer: the driver sends 64. -/
theorem transfers_inside_fails :
    ¬ ∀ (vstr : VstrInitLen) (call : Call) (t : Transaction),
      call.transaction vstr = some t → t.Bounded := by
  intro always
  have bounded := always .roomy (.spiWriteReadinto 8 2 64) _ rfl
  exact absurd (bounded.source _ rfl) (by decide)

end TildaMk4.Machine
