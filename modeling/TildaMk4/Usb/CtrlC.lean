import TildaMk4.Usb.SendData

/-!
# Ctrl-C from the USB console

`handleRx` of `CDCD.c` passes the ring of received bytes to `usb_ctrlc_handler` of
`mpmain-emf.c`, which scans it in the interrupt. Pointers are addresses.
-/

namespace TildaMk4.Usb.CtrlC

open Cdcd (UsbEvent)

/-- What the callback does, in its order. -/
inductive Effect
  | post_rxAvail
  | read (address : Nat)
  | post_sleep_sem
  | keyboard_interrupt
  deriving DecidableEq

/-- The globals: `mp_interrupt_char`, and whether `machine_sleep_sem` exists. -/
structure Globals where
  interruptChar : Int
  sleepSem : Bool

/-- `if (machine_sleep_sem) Semaphore_post(machine_sleep_sem); mp_keyboard_interrupt();` -/
def Globals.raise (g : Globals) : List Effect :=
  (if g.sleepSem then [.post_sleep_sem] else []) ++ [.keyboard_interrupt]

/-- `rbuf++`, back to the start at the end of the ring. -/
def advance (baseBuf size rbuf : Nat) : Nat :=
  if rbuf + 1 ≥ baseBuf + size then baseBuf else rbuf + 1

/-- The loop, with the rounds that are left. -/
def scan (g : Globals) (memory : Nat → UInt8) (baseBuf size : Nat) : Nat → Nat → List Effect
  | 0, _ => []
  | left + 1, rbuf =>
    .read rbuf ::
      if ((memory rbuf).toNat : Int) = g.interruptChar then g.raise
      else scan g memory baseBuf size left (advance baseBuf size rbuf)

def usb_ctrlc_handler (g : Globals) (memory : Nat → UInt8) (baseBuf curBuf : Nat)
    (avail size : UInt32) : List Effect :=
  if g.interruptChar = -1 then [] else scan g memory baseBuf size.toNat avail.toNat curBuf

/-- `handleRx`, where `notifyFxn` is the handler or `NULL`. -/
def handleRx (g : Globals) (memory : Nat → UInt8) (notify : Bool) (baseBuf curBuf : Nat)
    (param bufSize : UInt32) (event : UsbEvent) : List Effect :=
  if event = .rxAvailable then
    .post_rxAvail ::
      if notify then usb_ctrlc_handler g memory baseBuf curBuf param bufSize else []
  else []

/-- The driver raises the interrupt only through the handler, when data has come. -/
theorem interrupt_mem_handleRx (g : Globals) (memory : Nat → UInt8) (notify : Bool)
    (baseBuf curBuf : Nat) (param bufSize : UInt32) (event : UsbEvent) :
    .keyboard_interrupt ∈ handleRx g memory notify baseBuf curBuf param bufSize event ↔
      event = .rxAvailable ∧ notify = true ∧
        .keyboard_interrupt ∈ usb_ctrlc_handler g memory baseBuf curBuf param bufSize := by
  rw [handleRx]
  split
  next available =>
    cases notify with
    | true => simp [available]
    | false => simp
  next other => simp [other]

/-- The address of the byte `i` places after the start, round the ring. -/
def ringAt (baseBuf size start i : Nat) : Nat := baseBuf + (start + i) % size

theorem ringAt_inside {size : Nat} (some_ : 0 < size) (baseBuf start i : Nat) :
    baseBuf ≤ ringAt baseBuf size start i ∧ ringAt baseBuf size start i < baseBuf + size :=
  ⟨Nat.le_add_right .., Nat.add_lt_add_left (Nat.mod_lt _ some_) _⟩

theorem advance_ringAt {size : Nat} (some_ : 0 < size) (baseBuf start i : Nat) :
    advance baseBuf size (ringAt baseBuf size start i) = ringAt baseBuf size start (i + 1) := by
  have low := Nat.mod_lt (start + i) some_
  have next : (start + (i + 1)) % size = ((start + i) % size + 1) % size := by
    rw [Nat.mod_add_mod, Nat.add_assoc]
  rw [ringAt, ringAt, advance, next]
  split
  next wraps =>
    have last : (start + i) % size + 1 = size := by omega
    rw [last, Nat.mod_self, Nat.add_zero]
  next before =>
    have inside : (start + i) % size + 1 < size := by omega
    rw [Nat.mod_eq_of_lt inside, Nat.add_assoc]

section Scan

variable {g : Globals} {memory : Nat → UInt8} {baseBuf size start : Nat}

@[simp] theorem interrupt_mem_raise (g : Globals) : .keyboard_interrupt ∈ g.raise := by
  simp [Globals.raise]

@[simp] theorem count_raise (g : Globals) : g.raise.count .keyboard_interrupt = 1 := by
  cases g with
  | mk char sleepSem => cases sleepSem <;> rfl

theorem read_notMem_raise (g : Globals) (address : Nat) : .read address ∉ g.raise := by
  cases g with
  | mk char sleepSem => cases sleepSem <;> simp [Globals.raise]

/-- The scan finds the character among the bytes that are left. -/
theorem interrupt_mem_scan (g : Globals) (memory : Nat → UInt8) (baseBuf start : Nat)
    (some_ : 0 < size) : ∀ left i,
    .keyboard_interrupt ∈ scan g memory baseBuf size left (ringAt baseBuf size start i) ↔
      ∃ j < left, ((memory (ringAt baseBuf size start (i + j))).toNat : Int) = g.interruptChar := by
  intro left
  induction left with
  | zero => simp [scan]
  | succ left inductionHypothesis =>
    intro i
    rw [scan]
    split
    next found =>
      simp only [List.mem_cons, interrupt_mem_raise, or_true, true_iff]
      exact ⟨0, Nat.succ_pos left, found⟩
    next other =>
      rw [advance_ringAt some_]
      simp only [List.mem_cons, reduceCtorEq, false_or, inductionHypothesis (i + 1)]
      constructor
      · rintro ⟨j, before, found⟩
        exact ⟨j + 1, Nat.succ_lt_succ before, by rwa [Nat.add_comm j, ← Nat.add_assoc]⟩
      · rintro ⟨j, before, found⟩
        cases j with
        | zero => exact absurd found other
        | succ j =>
          rw [Nat.add_comm j, ← Nat.add_assoc] at found
          exact ⟨j, Nat.lt_of_succ_lt_succ before, found⟩

theorem count_scan_le : ∀ left rbuf,
    (scan g memory baseBuf size left rbuf).count .keyboard_interrupt ≤ 1 := by
  intro left
  induction left with
  | zero => exact fun _ => Nat.zero_le _
  | succ left inductionHypothesis =>
    intro rbuf
    rw [scan, List.count_cons_of_ne (by simp)]
    split
    next => rw [count_raise]
    next => exact inductionHypothesis _

theorem read_mem_scan (some_ : 0 < size) {address : Nat} : ∀ left i,
    .read address ∈ scan g memory baseBuf size left (ringAt baseBuf size start i) →
      baseBuf ≤ address ∧ address < baseBuf + size := by
  intro left
  induction left with
  | zero => exact fun _ member => absurd member List.not_mem_nil
  | succ left inductionHypothesis =>
    intro i member
    rw [scan] at member
    rcases List.mem_cons.mp member with here | later
    · cases here
      exact ringAt_inside some_ baseBuf start i
    split at later
    next => exact absurd later (read_notMem_raise g address)
    next =>
      rw [advance_ringAt some_] at later
      exact inductionHypothesis (i + 1) later

end Scan

/-- The interrupt is raised, once, exactly when the character is one of the available bytes,
and nothing outside the ring is read. -/
theorem ctrlc_seen (g : Globals) (memory : Nat → UInt8) {baseBuf curBuf : Nat}
    (avail : UInt32) {size : UInt32} (low : baseBuf ≤ curBuf)
    (high : curBuf < baseBuf + size.toNat) :
    (.keyboard_interrupt ∈ usb_ctrlc_handler g memory baseBuf curBuf avail size ↔
      g.interruptChar ≠ -1 ∧ ∃ i < avail.toNat,
        ((memory (ringAt baseBuf size.toNat (curBuf - baseBuf) i)).toNat : Int) =
          g.interruptChar) ∧
    (usb_ctrlc_handler g memory baseBuf curBuf avail size).count .keyboard_interrupt ≤ 1 ∧
    ∀ address, .read address ∈ usb_ctrlc_handler g memory baseBuf curBuf avail size →
      baseBuf ≤ address ∧ address < baseBuf + size.toNat := by
  have some_ : 0 < size.toNat := by omega
  have first : curBuf = ringAt baseBuf size.toNat (curBuf - baseBuf) 0 := by
    rw [ringAt, Nat.add_zero, Nat.mod_eq_of_lt (by omega)]
    omega
  unfold usb_ctrlc_handler
  split
  next off => exact ⟨by simp [off], Nat.zero_le _, fun _ member => absurd member List.not_mem_nil⟩
  next on =>
    refine ⟨?_, count_scan_le _ _, fun address member => ?_⟩
    · have found := interrupt_mem_scan g memory baseBuf (curBuf - baseBuf) some_ avail.toNat 0
      rw [← first] at found
      simpa [on] using found
    · rw [first] at member
      exact read_mem_scan some_ _ 0 member

/-- The last byte of a ring of four and the first two behind the wrap. -/
theorem ctrlc_seen_wrapped :
    .keyboard_interrupt ∈
      usb_ctrlc_handler ⟨3, true⟩ (fun address => if address = 101 then 3 else 0) 100 103 3 4 :=
  (ctrlc_seen ⟨3, true⟩ _ 3 (by decide) (by decide)).1.mpr ⟨by decide, 2, by decide, by decide⟩

end TildaMk4.Usb.CtrlC
