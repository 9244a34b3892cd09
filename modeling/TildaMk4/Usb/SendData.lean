import TildaMk4.Lib.Bytes
import TildaMk4.Lib.Transition

/-!
# Output to the USB console

`CDCD.c`: a call of `CDCD_sendData` among the callbacks of the USB library. The thread
takes one step at a time; what the library and the timer answer is in the label.
-/

namespace TildaMk4.Usb.Cdcd

open Memory Transition

/-- `CDCD_STATE_UNCONFIGURED` and `CDCD_STATE_IDLE`. -/
inductive DriverState
  | unconfigured
  | idle
  deriving DecidableEq

/-- The events that the callbacks tell apart. -/
inductive UsbEvent
  | connected
  | disconnected
  | txComplete
  | rxAvailable
  | other
  deriving DecidableEq

/-- What sending uses of the driver; a binary semaphore is the token that it may hold. -/
structure Object where
  state : DriverState
  connected : Bool
  txComplete : Bool

/-- `USBBufferInit` changes only how much space is free. -/
def handleCDC (cdcd : Object) : UsbEvent → Object
  | .connected => { cdcd with state := .idle, connected := true }
  | .disconnected => { cdcd with state := .unconfigured, connected := false }
  | _ => cdcd

def handleTx (cdcd : Object) : UsbEvent → Object
  | .txComplete => { cdcd with txComplete := true }
  | _ => cdcd

/-- Where a thread in `CDCD_sendData` is. -/
inductive Control
  | sendData
  | waitForConnect
  | pendConnected
  | txData
  | write (sendCount : UInt32)
  | pendTxComplete
  | returned (status : UInt32)
  deriving DecidableEq

structure State where
  cdcd : Object
  control : Control
  bufferedCount : UInt32

/-- What the thread is answered: nothing, the free space, the bytes taken, a token of the
semaphore or the end of the time. -/
inductive Answer
  | none
  | space (buffAvailSize : UInt32)
  | accepted (count : UInt32)
  | token
  | timeout

inductive Act
  | handleCDC (event : UsbEvent)
  | handleTx (event : UsbEvent)
  | thread (answer : Answer)

/-- A call of `USBBufferWrite`, at an offset into the buffer, with the bytes taken; or a
pend that timed out. -/
inductive Obs
  | wrote (at_ sendCount : UInt32) (bytes : List UInt8)
  | timedOut
  deriving DecidableEq

/-- How much is offered next. -/
def sendCount (length bufferedCount buffAvailSize : UInt32) : UInt32 :=
  if length - bufferedCount > buffAvailSize then buffAvailSize else length - bufferedCount

/-- One step of the thread. A pend without a token waits; `USBBufferWrite` takes no more
than it is offered. -/
def threadStep (buf : Nat → UInt8) (length : UInt32) (s : State) (answer : Answer) :
    Option (State × Option Obs) :=
  match s.control, answer with
  | .sendData, .none =>
    some ({ s with control := if s.cdcd.state = .idle then .txData else .waitForConnect }, none)
  | .waitForConnect, .none =>
    -- the state is read again: a callback may have come in between
    some ({ s with
      control := if s.cdcd.state = .unconfigured then .pendConnected else .txData }, none)
  | .pendConnected, .token =>
    if s.cdcd.connected then
      some ({ s with cdcd := { s.cdcd with connected := false }, control := .txData }, none)
    else none
  | .pendConnected, .timeout =>
    if s.cdcd.connected then none else some ({ s with control := .returned 0 }, some .timedOut)
  | .txData, .none =>
    if s.bufferedCount = length then some ({ s with control := .returned s.bufferedCount }, none)
    else none
  | .txData, .space buffAvailSize =>
    if s.bufferedCount = length then none
    else some ({ s with control := .write (sendCount length s.bufferedCount buffAvailSize) }, none)
  | .write offered, .accepted count =>
    if count ≤ offered then
      some ({ s with control := .pendTxComplete, bufferedCount := s.bufferedCount + count },
        some (.wrote s.bufferedCount offered
          (loadBytes buf s.bufferedCount.toNat count.toNat)))
    else none
  | .pendTxComplete, .token =>
    if s.cdcd.txComplete then
      some ({ s with cdcd := { s.cdcd with txComplete := false }, control := .txData }, none)
    else none
  | .pendTxComplete, .timeout =>
    if s.cdcd.txComplete then none
    else some ({ s with control := .returned s.bufferedCount }, some .timedOut)
  | _, _ => none

/-- A call of `CDCD_sendData`, with the callbacks at any time. -/
def system (buf : Nat → UInt8) (length : UInt32) : System State Act Obs where
  step s
    | .handleCDC event => some ({ s with cdcd := handleCDC s.cdcd event }, none)
    | .handleTx event => some ({ s with cdcd := handleTx s.cdcd event }, none)
    | .thread answer => threadStep buf length s answer

/-- The call begins, whatever earlier transfers have left. -/
def begin_ (cdcd : Object) : State := ⟨cdcd, .sendData, 0⟩

/-- The bytes that a step puts into the ring. -/
def Obs.bytes : Obs → List UInt8
  | .wrote _ _ bytes => bytes
  | .timedOut => []

/-- All bytes put into the ring, in their order. -/
def enqueued (history : List Obs) : List UInt8 := history.flatMap Obs.bytes

/-- Not yet in the loop. -/
def Control.Connecting : Control → Prop
  | .sendData => True
  | .waitForConnect => True
  | .pendConnected => True
  | _ => False

theorem sendCount_fits {length bufferedCount : UInt32} (within : bufferedCount ≤ length)
    (buffAvailSize : UInt32) :
    bufferedCount.toNat + (sendCount length bufferedCount buffAvailSize).toNat ≤ length.toNat := by
  have inside := UInt32.le_iff_toNat_le.mp within
  have left := UInt32.toNat_sub_of_le _ _ within
  rw [sendCount]
  split
  next more =>
    have := UInt32.lt_iff_toNat_lt.mp more
    omega
  next => omega

/-- Cursor, count and bytes agree. -/
structure Agrees (buf : Nat → UInt8) (length : UInt32) (history : List Obs) (s : State) : Prop where
  bytes : enqueued history = loadBytes buf 0 s.bufferedCount.toNat
  within : s.bufferedCount ≤ length
  inside : ∀ at_ sendCount bytes, .wrote at_ sendCount bytes ∈ history →
    at_.toNat + sendCount.toNat ≤ length.toNat
  nothing : s.control.Connecting → s.bufferedCount = 0
  offered : ∀ n, s.control = .write n → s.bufferedCount.toNat + n.toNat ≤ length.toNat
  status : ∀ ret, s.control = .returned ret →
    ret = s.bufferedCount ∧ (.timedOut ∉ history → ret = length)

section Steps

variable {buf : Nat → UInt8} {length : UInt32} {history : List Obs} {s : State}

/-- A step that writes nothing and does not return. -/
theorem Agrees.move (agrees : Agrees buf length history s) {cdcd : Object} {control : Control}
    (nothing : control.Connecting → s.bufferedCount = 0)
    (offered : ∀ n, control = .write n → s.bufferedCount.toNat + n.toNat ≤ length.toNat)
    (status : ∀ ret, control = .returned ret →
      ret = s.bufferedCount ∧ (.timedOut ∉ history → ret = length)) :
    Agrees buf length (history ++ []) { s with cdcd := cdcd, control := control } := by
  rw [List.append_nil]
  exact ⟨agrees.bytes, agrees.within, agrees.inside, nothing, offered, status⟩

/-- Leaving on a timeout, with the bytes counted so far. -/
theorem Agrees.leave (agrees : Agrees buf length history s) :
    Agrees buf length (history ++ [.timedOut])
      { s with control := .returned s.bufferedCount } := by
  refine ⟨?_, agrees.within, ?_, nofun, nofun, ?_⟩
  · simpa [enqueued, Obs.bytes] using agrees.bytes
  · intro at_ sendCount bytes member
    rcases List.mem_append.mp member with earlier | last
    · exact agrees.inside _ _ _ earlier
    · cases List.mem_singleton.mp last
  · rintro ret same
    cases same
    exact ⟨rfl, fun absent => absurd (by simp) absent⟩

theorem Agrees.write (agrees : Agrees buf length history s) {offered count : UInt32}
    (atWrite : s.control = .write offered) (fits : count ≤ offered) :
    Agrees buf length
      (history ++ [.wrote s.bufferedCount offered
        (loadBytes buf s.bufferedCount.toNat count.toNat)])
      { s with control := .pendTxComplete, bufferedCount := s.bufferedCount + count } := by
  have inside := agrees.offered _ atWrite
  have taken := UInt32.le_iff_toNat_le.mp fits
  have limit := length.toNat_lt
  have sum : (s.bufferedCount + count).toNat = s.bufferedCount.toNat + count.toNat := by
    rw [UInt32.toNat_add]
    omega
  refine ⟨?_, ?_, ?_, nofun, nofun, nofun⟩
  · have earlier := agrees.bytes
    rw [enqueued] at earlier
    simp only [enqueued, List.flatMap_append, List.flatMap_singleton, Obs.bytes, earlier, sum]
    rw [loadBytes_add, Nat.zero_add]
  · rw [UInt32.le_iff_toNat_le, sum]
    omega
  · intro at_ sendCount bytes member
    rcases List.mem_append.mp member with earlier | last
    · exact agrees.inside _ _ _ earlier
    · cases List.mem_singleton.mp last
      exact inside

theorem Agrees.thread (agrees : Agrees buf length history s) {answer : Answer} {s' : State}
    {emitted : Option Obs} (stepped : threadStep buf length s answer = some (s', emitted)) :
    Agrees buf length (history ++ emitted.toList) s' := by
  have nothing (connecting : s.control.Connecting) := agrees.nothing connecting
  unfold threadStep at stepped
  split at stepped
  next atStart =>
    cases stepped
    refine agrees.move (fun _ => nothing (by rw [atStart]; trivial)) ?_ ?_ <;> split <;> nofun
  next atWait =>
    cases stepped
    refine agrees.move (fun _ => nothing (by rw [atWait]; trivial)) ?_ ?_ <;> split <;> nofun
  next =>
    split at stepped
    · cases stepped
      exact agrees.move nofun nofun nofun
    · cases stepped
  next atPend =>
    split at stepped
    · cases stepped
    · cases stepped
      have zero := nothing (by rw [atPend]; trivial)
      rw [← zero]
      exact agrees.leave
  next =>
    split at stepped
    next done =>
      cases stepped
      refine agrees.move nofun nofun ?_
      rintro ret same
      cases same
      exact ⟨rfl, fun _ => done⟩
    next => cases stepped
  next buffAvailSize _ =>
    split at stepped
    · cases stepped
    · cases stepped
      refine agrees.move nofun ?_ nofun
      rintro n same
      cases same
      exact sendCount_fits agrees.within buffAvailSize
  next atWrite =>
    split at stepped
    next fits =>
      cases stepped
      exact agrees.write atWrite fits
    next => cases stepped
  next =>
    split at stepped
    · cases stepped
      exact agrees.move nofun nofun nofun
    · cases stepped
  next =>
    split at stepped
    · cases stepped
    · cases stepped
      exact agrees.leave
  next => cases stepped

theorem agrees_run {cdcd : Object}
    (run : (system buf length).Run (fun _ _ => True) (begin_ cdcd) history s) :
    Agrees buf length history s := by
  refine run.invariant (Agrees buf length) ?_ ?_
  · exact ⟨rfl, UInt32.le_iff_toNat_le.mpr (Nat.zero_le _), fun _ _ _ member =>
      absurd member List.not_mem_nil, fun _ => rfl, nofun, nofun⟩
  · intro history s act s' emitted agrees _ stepped
    cases act with
    | handleCDC event =>
      cases stepped
      exact agrees.move agrees.nothing agrees.offered agrees.status
    | handleTx event =>
      cases stepped
      exact agrees.move agrees.nothing agrees.offered agrees.status
    | thread answer => exact agrees.thread stepped

/-- The thread is stopped only by a semaphore without a token, and there its time can end. -/
theorem thread_ready (buf : Nat → UInt8) (length : UInt32) (s : State) :
    (∃ ret, s.control = .returned ret) ∨ ∃ answer, (threadStep buf length s answer).isSome := by
  cases at_ : s.control with
  | sendData => exact .inr ⟨.none, by simp [threadStep, at_]⟩
  | waitForConnect => exact .inr ⟨.none, by simp [threadStep, at_]⟩
  | pendConnected =>
    cases held : s.cdcd.connected with
    | true => exact .inr ⟨.token, by simp [threadStep, at_, held]⟩
    | false => exact .inr ⟨.timeout, by simp [threadStep, at_, held]⟩
  | txData =>
    rcases Decidable.em (s.bufferedCount = length) with done | more
    · exact .inr ⟨.none, by simp [threadStep, at_, done]⟩
    · exact .inr ⟨.space 0, by simp [threadStep, at_, more]⟩
  | write offered => exact .inr ⟨.accepted offered, by simp [threadStep, at_]⟩
  | pendTxComplete =>
    cases held : s.cdcd.txComplete with
    | true => exact .inr ⟨.token, by simp [threadStep, at_, held]⟩
    | false => exact .inr ⟨.timeout, by simp [threadStep, at_, held]⟩
  | returned status => exact .inl ⟨status, rfl⟩

/-- A write that takes something. -/
def Obs.Takes (o : Obs) : Prop := o.bytes ≠ []

instance : DecidablePred Obs.Takes := fun o => inferInstanceAs (Decidable (o.bytes ≠ []))

theorem countP_takes_le (history : List Obs) :
    history.countP (fun o => decide o.Takes) ≤ (enqueued history).length := by
  induction history with
  | nil => exact Nat.zero_le _
  | cons o rest inductionHypothesis =>
    rw [List.countP_cons, enqueued, List.flatMap_cons, List.length_append, ← enqueued]
    split
    next takes =>
      have some_ := List.length_pos_of_ne_nil (of_decide_eq_true takes : o.bytes ≠ [])
      omega
    next => omega

end Steps

/-- The bytes in the ring are a prefix of the buffer at every moment, no offer reaches beyond
the buffer, and the call returns the length of the prefix, which is all of the buffer if no
pend has timed out; no more rounds than bytes take something. -/
theorem sendData_sent (buf : Nat → UInt8) (length : UInt32) (cdcd : Object) {history : List Obs}
    {s : State} (run : (system buf length).Run (fun _ _ => True) (begin_ cdcd) history s) :
    enqueued history = loadBytes buf 0 s.bufferedCount.toNat ∧ s.bufferedCount ≤ length ∧
    (∀ at_ sendCount bytes, .wrote at_ sendCount bytes ∈ history →
      at_.toNat + sendCount.toNat ≤ length.toNat) ∧
    (∀ ret, s.control = .returned ret → enqueued history = loadBytes buf 0 ret.toNat ∧
      ret ≤ length ∧ (.timedOut ∉ history → ret = length)) ∧
    ((∃ ret, s.control = .returned ret) ∨ ∃ answer, (threadStep buf length s answer).isSome) ∧
    history.countP (fun o => decide o.Takes) ≤ length.toNat := by
  have agrees := agrees_run run
  have within := UInt32.le_iff_toNat_le.mp agrees.within
  refine ⟨agrees.bytes, agrees.within, agrees.inside, ?_, thread_ready buf length s, ?_⟩
  · intro ret returned
    obtain ⟨rfl, whole⟩ := agrees.status ret returned
    exact ⟨agrees.bytes, agrees.within, whole⟩
  · have takes := countP_takes_le history
    rw [agrees.bytes, loadBytes_length] at takes
    exact Nat.le_trans takes within

/-- Three bytes in two rounds: a stale token lets the first go on, and a post comes before
the second has waited. -/
def twoRounds : List Act :=
  [.thread .none, .thread (.space 2), .thread (.accepted 1), .thread .token,
    .thread (.space 9), .thread (.accepted 2), .handleTx .txComplete, .thread .token,
    .thread .none]

theorem sendData_sent_twoRounds : ∃ history s,
    (system (fun i => .ofNat i) 3).Run (fun _ _ => True) (begin_ ⟨.idle, false, true⟩) history s ∧
    s.control = .returned 3 ∧ enqueued history = [0, 1, 2] := by
  obtain ⟨history, s, run, checked⟩ := System.exists_run_of_exec (system (fun i => .ofNat i) 3)
    (fun _ _ => True) (begin_ ⟨.idle, false, true⟩) twoRounds
    (fun result => decide (result.2.control = .returned 3)) (by decide)
  have returned := of_decide_eq_true checked
  have sent := sendData_sent (fun i => .ofNat i) 3 ⟨.idle, false, true⟩ run
  exact ⟨history, s, run, returned, (sent.2.2.2.1 3 returned).1⟩

end TildaMk4.Usb.Cdcd
