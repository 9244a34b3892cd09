import Mathlib.Algebra.Group.Nat.Defs
import Mathlib.Tactic.Common
import TildaMk4.Lib.Ledger
import TildaMk4.Lib.Transition

/-!
# The neopix driver

`frame_buffer`, its recorded size and `inprogress` are shared by all `Neopix`
objects. `display` waits until no transfer is in progress, makes the buffer large
enough, fills it and starts a transfer; `destroy` frees the buffer whatever is going
on; the interrupt ends the transfer.
-/

namespace TildaMk4.Neopix

open Resources Transition

/-! ## The codes -/

abbrev timerIntval : Nat := 120000000 / 800000

/-- `WS2812_DUTYCYCLE_0`. -/
def dutycycle0 : UInt16 := .ofNat ((25 - 8) * timerIntval / 25)

/-- `WS2812_DUTYCYCLE_1`. -/
def dutycycle1 : UInt16 := .ofNat ((25 - 16) * timerIntval / 25)

/-- `WS2812_DUTYCYCLE_RESET`. -/
def dutycycleReset : UInt16 := .ofNat timerIntval

/-- `WS2812_RESET_BIT_N`. -/
abbrev resetBitN : Nat := 30

/-- The colour in the order in which it is sent. -/
def tx (val : Int32) : Int32 :=
  ((val &&& 0xFF00) <<< 8) ||| ((val &&& 0xFF0000) >>> 8) ||| (val &&& 0xFF)

/-- `mask` in round `round` of the loop over it; it is 0 from round 24 on. -/
def mask (round : Nat) : Int32 := ((1 : Int32) <<< 23) >>> Int32.ofNat round

def ledCodes (val : Int32) : List UInt16 :=
  (List.range 24).map fun round =>
    if mask round &&& tx val ≠ 0 then dutycycle1 else dutycycle0

/-- An element of the list: `none` is one for which `mp_obj_get_int` raises. -/
abbrev Item := Option Int32

/-- What `display` is given. -/
inductive Rgb
  | int (val : Item)
  | array (items : List Item)
  | other
  deriving DecidableEq

/-- `none` is the `TypeError` of `mp_obj_get_array`. -/
def Rgb.items : Rgb → Option (List Item)
  | int val => some [val]
  | array items => some items
  | other => none

/-- The codes that are stored for the elements, the last of which comes first, and
whether all of them are. -/
def itemCodes : List Item → List UInt16 × Bool
  | [] => ([], true)
  | none :: _ => ([], false)
  | some val :: rest => (ledCodes val ++ (itemCodes rest).1, (itemCodes rest).2)

/-- `(24*len+WS2812_RESET_BIT_N)*sizeof(uint16_t)`. -/
def bufferSize (len : Nat) : UInt32 := (24 * UInt32.ofNat len + 30) * 2

/-! ## The state -/

/-- A transfer that has been set up: its buffer, what `TimerMatchSet` was given, and
the number of items left to the DMA. -/
structure Transfer where
  source : Option Nat
  first : UInt16
  count : UInt32
  deriving DecidableEq

structure Driver where
  /-- Allocations by their number, with their sizes in bytes. -/
  heap : Ledger Nat
  contents : Nat → UInt32 → UInt16
  frameBuffer : Option Nat
  frameBufferSize : UInt32
  inprogress : Bool
  transfer : Option Transfer

/-- A store to `frame_buffer[index]`; `capacity` is the size of the allocation there,
`none` through `NULL` or a pointer to freed memory. -/
structure Store where
  index : UInt32
  capacity : Option Nat
  deriving DecidableEq

def Store.Inside (store : Store) : Prop :=
  ∃ size, store.capacity = some size ∧ 2 * store.index.toNat + 2 ≤ size

namespace Driver

def initial : Driver := ⟨.empty, fun _ _ => 0, none, 0, false, none⟩

/-- What `frame_buffer` points to. -/
def capacity (s : Driver) : Option Nat := s.frameBuffer.bind s.heap.held

/-- `if (frame_buffer != NULL) free(frame_buffer)`. -/
def freeBuffer (s : Driver) : Driver :=
  match s.frameBuffer with
  | none => s
  | some buffer => { s with heap := s.heap.release buffer }

/-- Make the buffer large enough; `false` is the early return. -/
def allocate (s : Driver) (size : UInt32) (malloc : Bool) : Driver × Bool :=
  if s.frameBufferSize < size then
    let s := s.freeBuffer
    if malloc then
      ({ s with heap := s.heap.issue size.toNat, frameBuffer := some s.heap.issued
                frameBufferSize := size }, true)
    else ({ s with frameBuffer := none }, false)
  else (s, true)

/-- `frame_buffer[buf_ptr] = code`. -/
def store (s : Driver) (bufPtr : UInt32) (code : UInt16) : Driver :=
  match s.frameBuffer with
  | none => s
  | some buffer =>
    { s with contents := Function.update s.contents buffer
              (Function.update (s.contents buffer) bufPtr code) }

/-- `frame_buffer[buf_ptr++] = …` for each code. -/
def storeAll (s : Driver) (bufPtr : UInt32) : List UInt16 → Driver × List Store
  | [] => (s, [])
  | code :: rest =>
    let later := (s.store bufPtr code).storeAll (bufPtr + 1) rest
    (later.1, ⟨bufPtr, s.capacity⟩ :: later.2)

/-- `ws_start_transfer`. -/
def wsStartTransfer (s : Driver) (len : UInt32) : Driver :=
  let first := match s.frameBuffer with
    | none => 0
    | some buffer => s.contents buffer 0
  { s with transfer := some ⟨s.frameBuffer, first, len - 1⟩, inprogress := true }

/-- The loops of `display`. -/
def fill (s : Driver) (items : List Item) : Driver × List Store :=
  match itemCodes items.reverse with
  | (codes, false) => s.storeAll 0 codes
  | (codes, true) =>
    let all := codes ++ List.replicate resetBitN dutycycleReset
    let stored := s.storeAll 0 all
    (stored.1.wsStartTransfer (.ofNat all.length), stored.2)

/-- `display` once no transfer is in progress, with the outcome of `malloc`. -/
def display (s : Driver) (rgb : Rgb) (malloc : Bool) : Driver × List Store :=
  match rgb.items with
  | none => (s, [])
  | some items =>
    match s.allocate (bufferSize items.length) malloc with
    | (s, false) => (s, [])
    | (s, true) => s.fill items

/-- `destroy`, which is also `__del__`. -/
def destroy (s : Driver) : Driver :=
  { s.freeBuffer with frameBuffer := none, frameBufferSize := 0 }

/-- `TIMER3B_IRQHandler`. -/
def timer3B (s : Driver) : Driver := { s with inprogress := false }

end Driver

section Storing

theorem toNat_add_one {bufPtr : UInt32} (small : bufPtr.toNat + 1 < 2 ^ 32) :
    (bufPtr + 1).toNat = bufPtr.toNat + 1 := by
  rw [UInt32.toNat_add, UInt32.toNat_one, Nat.mod_eq_of_lt small]

variable {s : Driver}

@[simp] theorem store_heap (bufPtr : UInt32) (code : UInt16) :
    (s.store bufPtr code).heap = s.heap := by
  unfold Driver.store
  split <;> rfl

@[simp] theorem store_frameBuffer (bufPtr : UInt32) (code : UInt16) :
    (s.store bufPtr code).frameBuffer = s.frameBuffer := by
  unfold Driver.store
  split <;> rfl

theorem store_rest (bufPtr : UInt32) (code : UInt16) :
    (s.store bufPtr code).frameBufferSize = s.frameBufferSize ∧
      (s.store bufPtr code).inprogress = s.inprogress ∧
      (s.store bufPtr code).transfer = s.transfer := by
  unfold Driver.store
  split <;> exact ⟨rfl, rfl, rfl⟩

@[simp] theorem store_capacity (bufPtr : UInt32) (code : UInt16) :
    (s.store bufPtr code).capacity = s.capacity := by
  rw [Driver.capacity, store_heap, store_frameBuffer, Driver.capacity]

theorem storeAll_keeps (codes : List UInt16) (bufPtr : UInt32) :
    (s.storeAll bufPtr codes).1.heap = s.heap ∧
      (s.storeAll bufPtr codes).1.frameBuffer = s.frameBuffer ∧
      (s.storeAll bufPtr codes).1.frameBufferSize = s.frameBufferSize ∧
      (s.storeAll bufPtr codes).1.inprogress = s.inprogress ∧
      (s.storeAll bufPtr codes).1.transfer = s.transfer := by
  induction codes generalizing s bufPtr with
  | nil => exact ⟨rfl, rfl, rfl, rfl, rfl⟩
  | cons code rest ih =>
    obtain ⟨heap, frameBuffer, size, inprogress, transfer⟩ :=
      ih (s := s.store bufPtr code) (bufPtr + 1)
    obtain ⟨size', inprogress', transfer'⟩ := store_rest (s := s) bufPtr code
    exact ⟨heap.trans (store_heap ..), frameBuffer.trans (store_frameBuffer ..),
      size.trans size', inprogress.trans inprogress', transfer.trans transfer'⟩

/-- The elements that are stored to, as long as `buf_ptr` does not wrap. -/
theorem mem_storeAll {codes : List UInt16} {bufPtr : UInt32}
    (fits : bufPtr.toNat + codes.length ≤ 2 ^ 32) {stored : Store}
    (member : stored ∈ (s.storeAll bufPtr codes).2) :
    stored.capacity = s.capacity ∧ stored.index.toNat < bufPtr.toNat + codes.length := by
  induction codes generalizing s bufPtr with
  | nil => exact absurd member List.not_mem_nil
  | cons code rest ih =>
    rw [List.length_cons] at fits ⊢
    rcases List.mem_cons.mp member with rfl | later
    · exact ⟨rfl, Nat.lt_add_of_pos_right (Nat.succ_pos _)⟩
    · by_cases last : rest = []
      · rw [last] at later
        exact absurd later List.not_mem_nil
      · have more := List.length_pos_iff.mpr last
        have next : (bufPtr + 1).toNat = bufPtr.toNat + 1 := toNat_add_one (by omega)
        obtain ⟨capacity, index⟩ := ih (by omega) later
        rw [store_capacity] at capacity
        exact ⟨capacity, by omega⟩

theorem storeAll_stores (codes : List UInt16) (bufPtr : UInt32) {i : Nat}
    (stored : i < codes.length) :
    ⟨bufPtr + .ofNat i, s.capacity⟩ ∈ (s.storeAll bufPtr codes).2 := by
  induction codes generalizing s bufPtr i with
  | nil => exact absurd stored (Nat.not_lt_zero _)
  | cons code rest ih =>
    cases i with
    | zero => simp [Driver.storeAll]
    | succ i =>
      have later := ih (s := s.store bufPtr code) (bufPtr + 1) (Nat.lt_of_succ_lt_succ stored)
      rw [store_capacity, UInt32.add_assoc, ← UInt32.ofNat_one, ← UInt32.ofNat_add,
        Nat.add_comm 1 i] at later
      exact List.mem_cons_of_mem _ later

end Storing

inductive Act
  | display (rgb : Rgb) (malloc : Bool)
  | destroy
  | timer3B

/-- `display` is not let in while a transfer is in progress. -/
def neopix : System Driver Act (List Store) where
  step s
    | .display rgb malloc =>
      if s.inprogress then none
      else some ((s.display rgb malloc).1, some (s.display rgb malloc).2)
    | .destroy => some (s.destroy, none)
    | .timer3B => some (s.timer3B, none)

end TildaMk4.Neopix
