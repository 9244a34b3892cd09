import TildaMk4.Console.Cooked
import TildaMk4.Lib.Fifo
import TildaMk4.Usb.SendData

/-!
# Output to the console

What a program prints, on its way through `CDCD_sendData` to the host and through the UART. The
callbacks of the USB library and the host come between any two steps of the thread.
-/

namespace TildaMk4.Console.Transmit

open Fifo Memory Transition
open Usb.Cdcd (Answer UsbEvent)

/-- A call of `mp_hal_stdout_tx_strn`, or of `mp_hal_stdout_tx_strn_cooked`, with the memory
that it finds. -/
structure Print where
  cooked : Bool
  memory : Nat → UInt8
  str : Nat
  len : UInt32

def Print.bytes (p : Print) : List UInt8 := loadBytes p.memory p.str p.len.toNat

/-- The string, its newlines cooked where that is asked for. -/
def Print.text (p : Print) : List UInt8 := if p.cooked then p.bytes.flatMap cook else p.bytes

/-- What is passed to `mp_hal_stdout_tx_strn`. -/
def Print.pieces (p : Print) : List (List UInt8) :=
  if p.cooked then
    Console.pieces p.memory (mp_hal_stdout_tx_strn_cooked p.memory p.str p.len.toNat)
  else [p.bytes]

/-- The call of `CDCD_sendData`, the ring `txBuf` and the pieces to come. The first of them is
the one that is being sent. -/
structure State where
  send : Usb.Cdcd.State
  txBuf : List UInt8
  pieces : List (List UInt8)

inductive Act
  | handleCDC (event : UsbEvent)
  | handleTx (event : UsbEvent)
  | hostTake
  | thread (answer : Answer)

/-- `USBBufferWrite`, a pend that timed out, `USBBufferInit`, a byte that the host reads, and
`UART_write`. -/
inductive Obs
  | wrote (bytes : List UInt8)
  | timedOut
  | initialised
  | host (byte : UInt8)
  | uart (bytes : List UInt8)
  deriving DecidableEq

def Obs.ofSend : Usb.Cdcd.Obs → Obs
  | .wrote _ _ bytes => .wrote bytes
  | .timedOut => .timedOut

def handleCDC (s : State) (event : UsbEvent) : List Obs × State :=
  let send := { s.send with cdcd := Usb.Cdcd.handleCDC s.send.cdcd event }
  if event = .connected then ([.initialised], { s with send, txBuf := [] })
  else ([], { s with send })

def handleTx (s : State) (event : UsbEvent) : List Obs × State :=
  ([], { s with send := { s.send with cdcd := Usb.Cdcd.handleTx s.send.cdcd event } })

def hostTake (s : State) : List Obs × State :=
  match s.txBuf with
  | [] => ([], s)
  | byte :: rest => ([.host byte], { s with txBuf := rest })

/-- The memory that a piece stands in, from 0 on. -/
def pieceBuf (piece : List UInt8) : Nat → UInt8 := storeBytes (fun _ => 0) 0 piece

/-- One step of `mp_hal_stdout_tx_strn`: a step of `CDCD_sendData`, whose status is not looked
at, or `UART_write` after it. An answer that does not fit is no step. -/
def threadStep (s : State) (answer : Answer) : List Obs × State :=
  match s.pieces with
  | [] => ([], s)
  | piece :: rest =>
    match s.send.control with
    | .returned _ =>
      ([.uart piece], { s with send := Usb.Cdcd.begin_ s.send.cdcd, pieces := rest })
    | _ =>
      match Usb.Cdcd.threadStep (pieceBuf piece) (.ofNat piece.length) s.send answer with
      | none => ([], s)
      | some (send, none) => ([], { s with send })
      | some (send, some o) => ([Obs.ofSend o], { s with send, txBuf := s.txBuf ++ o.bytes })

def machine : Machine State Act (List Obs) where
  perform s
    | .handleCDC event => handleCDC s event
    | .handleTx event => handleTx s event
    | .hostTake => hostTake s
    | .thread answer => threadStep s answer

/-- The prints begin with an empty ring. -/
def start (cdcd : Usb.Cdcd.Object) (prints : List Print) : State :=
  ⟨Usb.Cdcd.begin_ cdcd, [], prints.flatMap Print.pieces⟩

/-! ## What is observed -/

/-- What an observation does to the ring. -/
def Obs.events : Obs → List (Event UInt8)
  | .wrote bytes => [.put bytes]
  | .initialised => [.reset]
  | .host byte => [.take byte]
  | .timedOut | .uart _ => []

def trace (sent : List Obs) : List (Event UInt8) := sent.flatMap Obs.events

/-- What the host has read. -/
def hostText (sent : List Obs) : List UInt8 := takes (trace sent)

def Obs.uartBytes : Obs → List UInt8
  | .uart bytes => bytes
  | _ => []

/-- What the UART has sent. -/
def uartText (sent : List Obs) : List UInt8 := sent.flatMap Obs.uartBytes

/-- What is observed while pieces are sent one after the other. A beginning of each is put into
the ring, which is all of it unless a pend for it times out, and then `UART_write` gets it. -/
inductive Passed : List (List UInt8) → List Obs → Prop
  | start : Passed [] []
  | piece {done : List (List UInt8)} {before : List Obs} (passed : Passed done before)
    {piece : List UInt8} {during : List Obs} (silent : uartText during = [])
    (beginning : puts (trace during) <+: piece)
    (whole : .timedOut ∉ during → puts (trace during) = piece) :
    Passed (done ++ [piece]) (before ++ during ++ [.uart piece])

/-! ## The pieces -/

theorem length_bytes (p : Print) : p.bytes.length < 2 ^ 32 := by
  rw [Print.bytes, loadBytes_length]
  exact p.len.toNat_lt

theorem length_cooked {p : Print} {piece : List UInt8} (member : piece ∈ Console.pieces p.memory
    (mp_hal_stdout_tx_strn_cooked p.memory p.str p.len.toNat)) : piece.length < 2 ^ 32 := by
  obtain ⟨passed, effect, rfl⟩ := List.mem_map.mp member
  obtain ⟨e, made, isPiece⟩ := List.mem_filterMap.mp effect
  cases e with
  | read address => cases isPiece
  | tx_strn passed =>
    cases isPiece
    cases passed with
    | crlf => exact show 2 < 2 ^ 32 by decide
    | segment last count =>
      have reads := (faithful_cooked p.memory p.str p.len.toNat).reads
      have inside (address : Nat) (low : last ≤ address) (high : address < last + count) :
          p.str ≤ address ∧ address < p.str + p.len.toNat :=
        reads address (List.mem_flatMap.mpr ⟨_, made, List.mem_range'_1.mpr ⟨low, high⟩⟩)
      have bound := p.len.toNat_lt
      rw [Piece.bytes, loadBytes_length]
      rcases Nat.eq_zero_or_pos count with rfl | some_
      · decide
      · have first := inside last (Nat.le_refl _) (by omega)
        have final := inside (last + count - 1) (by omega) (by omega)
        omega

theorem length_pieces {p : Print} {piece : List UInt8} (member : piece ∈ p.pieces) :
    piece.length < 2 ^ 32 := by
  rw [Print.pieces] at member
  split at member
  · exact length_cooked member
  · cases List.mem_singleton.mp member
    exact length_bytes p

theorem flatten_pieces (p : Print) : p.pieces.flatten = p.text := by
  rw [Print.pieces, Print.text]
  split
  · exact (faithful_cooked p.memory p.str p.len.toNat).text
  · exact List.flatten_singleton

theorem flatten_flatMap_pieces (prints : List Print) :
    (prints.flatMap Print.pieces).flatten = prints.flatMap Print.text := by
  induction prints with
  | nil => rfl
  | cons p rest ih =>
    rw [List.flatMap_cons, List.flatten_append, flatten_pieces, ih, List.flatMap_cons]

/-- A part of a buffer from its start is a beginning of the piece in it. -/
theorem loadBytes_prefix {piece : List UInt8} {n : Nat} (within : n ≤ piece.length) :
    loadBytes (pieceBuf piece) 0 n <+: piece := by
  obtain ⟨more, whole⟩ := Nat.exists_eq_add_of_le within
  have stored := loadBytes_storeBytes (fun _ => 0) 0 piece
  rw [whole, loadBytes_add] at stored
  exact ⟨_, stored⟩

/-! ## The sending -/

/-- The piece under way agrees with what its call has put into the ring. -/
def Sending (s : State) (history : List Usb.Cdcd.Obs) : Prop :=
  match s.pieces with
  | [] => history = []
  | piece :: _ => Usb.Cdcd.Agrees (pieceBuf piece) (.ofNat piece.length) history s.send

/-- Up to now the pieces before those to come have been passed on, and the call under way has put
into the ring what its history says. -/
structure Sent (pieces : List (List UInt8)) (sent : List Obs) (s : State) : Prop where
  ring : followAll [] (trace sent) = some s.txBuf
  pieces : ∃ done before during history, pieces = done ++ s.pieces ∧ sent = before ++ during ∧
    Passed done before ∧ uartText during = [] ∧
    puts (trace during) = Usb.Cdcd.enqueued history ∧
    (.timedOut ∈ history → .timedOut ∈ during) ∧ Sending s history

section Steps

variable {pieces : List (List UInt8)} {sent : List Obs} {s : State}

@[simp] theorem trace_append (sent more : List Obs) :
    trace (sent ++ more) = trace sent ++ trace more :=
  List.flatMap_append

@[simp] theorem uartText_append (sent more : List Obs) :
    uartText (sent ++ more) = uartText sent ++ uartText more := List.flatMap_append

/-- What a callback changes of the driver is nothing to the sending. -/
theorem Sending.driver {history : List Usb.Cdcd.Obs} (sending : Sending s history)
    (cdcd : Usb.Cdcd.Object) (txBuf : List UInt8) :
    Sending { s with send := { s.send with cdcd := cdcd }, txBuf := txBuf } history := by
  unfold Sending at *
  split at sending
  next nothing => simpa only [nothing] using sending
  next piece rest under =>
    simp only [under]
    have moved : Usb.Cdcd.Agrees _ _ (history ++ []) { s.send with cdcd := cdcd } :=
      sending.move sending.nothing sending.offered sending.status
    rwa [List.append_nil] at moved

theorem sending_begin (piece : List UInt8) (cdcd : Usb.Cdcd.Object) :
    Usb.Cdcd.Agrees (pieceBuf piece) (.ofNat piece.length) [] (Usb.Cdcd.begin_ cdcd) :=
  Usb.Cdcd.agrees_run .start

/-- What a call has put into the ring when it returns. -/
theorem enqueued_beginning {piece : List UInt8} {history : List Usb.Cdcd.Obs} {send : Usb.Cdcd.State}
    (fits : piece.length < 2 ^ 32)
    (agrees : Usb.Cdcd.Agrees (pieceBuf piece) (.ofNat piece.length) history send) :
    Usb.Cdcd.enqueued history <+: piece ∧ ∀ ret, send.control = .returned ret →
      .timedOut ∉ history → Usb.Cdcd.enqueued history = piece := by
  have size : (UInt32.ofNat piece.length).toNat = piece.length := by
    rw [UInt32.toNat_ofNat', Nat.mod_eq_of_lt fits]
  have within := UInt32.le_iff_toNat_le.mp agrees.within
  rw [size] at within
  constructor
  · rw [agrees.bytes]
    exact loadBytes_prefix within
  · intro ret returned punctual
    obtain ⟨rfl, whole⟩ := agrees.status ret returned
    rw [agrees.bytes, whole punctual, size]
    exact loadBytes_storeBytes (fun _ => 0) 0 piece

/-- The ring is what the observations make of it. -/
theorem ring_perform (s : State) (act : Act) :
    followAll s.txBuf (trace (machine.perform s act).1) = some (machine.perform s act).2.txBuf := by
  cases act with
  | handleCDC event =>
    change followAll s.txBuf (trace (handleCDC s event).1) = some (handleCDC s event).2.txBuf
    unfold handleCDC
    dsimp only
    split <;> rfl
  | handleTx event => rfl
  | hostTake =>
    change followAll s.txBuf (trace (hostTake s).1) = some (hostTake s).2.txBuf
    unfold hostTake
    cases held : s.txBuf with
    | nil => simp [held, followAll, trace]
    | cons byte rest => simp [trace, Obs.events, followAll, follow]
  | thread answer =>
    change followAll s.txBuf (trace (threadStep s answer).1) = some (threadStep s answer).2.txBuf
    unfold threadStep
    split
    next => rfl
    next =>
      split
      next => rfl
      next =>
        split
        next => rfl
        next => rfl
        next send o stepped =>
          cases o with
          | wrote at_ sendCount bytes => rfl
          | timedOut =>
            change some s.txBuf = some (s.txBuf ++ [])
            rw [List.append_nil]

theorem Sent.ring_append (holds : Sent pieces sent s) {new : List Obs} {txBuf : List UInt8}
    (ring : followAll s.txBuf (trace new) = some txBuf) :
    followAll [] (trace (sent ++ new)) = some txBuf := by
  have earlier := holds.ring
  rw [followAll] at earlier ring ⊢
  rw [trace_append, List.foldlM_append, earlier]
  exact ring

/-- A step that neither puts anything into the ring nor gives anything to the UART. -/
theorem Sent.quiet (holds : Sent pieces sent s) {s' : State} {new : List Obs}
    (ring : followAll s.txBuf (trace new) = some s'.txBuf) (silent : uartText new = [])
    (nothing : puts (trace new) = []) (same : s'.pieces = s.pieces)
    (sending : ∀ history, Sending s history → Sending s' history) :
    Sent pieces (sent ++ new) s' := by
  obtain ⟨done, before, during, history, split, rfl, passed, mute, written, late, under⟩ :=
    holds.pieces
  refine ⟨holds.ring_append ring, done, before, during ++ new, history, ?_, ?_, passed, ?_, ?_, ?_,
    sending history under⟩
  · rw [same, split]
  · rw [List.append_assoc]
  · rw [uartText_append, mute, silent, List.append_nil]
  · rw [trace_append, puts_append, nothing, List.append_nil, written]
  · exact fun member => List.mem_append_left new (late member)

/-- `UART_write` ends a piece: what its call has put into the ring is a beginning of it. -/
theorem Sent.finish (fits : ∀ piece ∈ pieces, piece.length < 2 ^ 32) (holds : Sent pieces sent s)
    {piece : List UInt8} {rest : List (List UInt8)} (under : s.pieces = piece :: rest)
    {ret : UInt32} (returned : s.send.control = .returned ret) :
    Sent pieces (sent ++ [.uart piece])
      { s with send := Usb.Cdcd.begin_ s.send.cdcd, pieces := rest } := by
  have ring : followAll [] (trace (sent ++ [.uart piece])) = some s.txBuf := holds.ring_append rfl
  obtain ⟨done, before, during, history, split, rfl, passed, mute, written, late, sending⟩ :=
    holds.pieces
  rw [Sending, under] at sending
  rw [under] at split
  have member : piece ∈ pieces := by
    rw [split]
    exact List.mem_append_right done List.mem_cons_self
  obtain ⟨beginning, whole⟩ := enqueued_beginning (fits piece member) sending
  rw [← written] at beginning whole
  have one : Passed (done ++ [piece]) (before ++ during ++ [.uart piece]) :=
    passed.piece mute beginning fun punctual => whole ret returned fun member =>
      punctual (late member)
  refine ⟨ring, _, _, [], [], ?_, (List.append_nil _).symm, one, rfl, rfl, fun member => ?_, ?_⟩
  · rw [split, List.append_cons]
  · cases member
  · unfold Sending
    cases rest with
    | nil => rfl
    | cons next later => exact sending_begin next s.send.cdcd

theorem Sent.step (holds : Sent pieces sent s) {piece : List UInt8} {rest : List (List UInt8)}
    (under : s.pieces = piece :: rest) {answer : Answer} {send : Usb.Cdcd.State}
    {o : Usb.Cdcd.Obs}
    (ring : followAll s.txBuf (trace [Obs.ofSend o]) = some (s.txBuf ++ o.bytes))
    (stepped : Usb.Cdcd.threadStep (pieceBuf piece) (.ofNat piece.length) s.send answer =
      some (send, some o)) :
    Sent pieces (sent ++ [Obs.ofSend o]) { s with send := send, txBuf := s.txBuf ++ o.bytes } := by
  have together := holds.ring_append ring
  obtain ⟨done, before, during, history, split, rfl, passed, mute, written, late, sending⟩ :=
    holds.pieces
  rw [Sending, under] at sending
  have put : puts (trace [Obs.ofSend o]) = o.bytes := by
    cases o with
    | wrote at_ sendCount bytes => exact List.append_nil bytes
    | timedOut => rfl
  refine ⟨together, done, before, during ++ [Obs.ofSend o], history ++ [o], split, ?_, passed, ?_,
    ?_, ?_, ?_⟩
  · rw [List.append_assoc]
  · rw [uartText_append, mute]
    cases o <;> rfl
  · rw [trace_append, puts_append, written, put]
    simp [Usb.Cdcd.enqueued]
  · intro member
    rcases List.mem_append.mp member with earlier | last
    · exact List.mem_append_left _ (late earlier)
    · cases List.mem_singleton.mp last
      exact List.mem_append_right _ List.mem_cons_self
  · rw [Sending]
    simp only [under]
    exact sending.thread stepped

theorem Sent.perform (fits : ∀ piece ∈ pieces, piece.length < 2 ^ 32) (holds : Sent pieces sent s)
    (act : Act) : Sent pieces (sent ++ (machine.perform s act).1) (machine.perform s act).2 := by
  have ring := ring_perform s act
  have stay : Sent pieces (sent ++ []) s := holds.quiet rfl rfl rfl rfl fun _ sending => sending
  cases act with
  | handleCDC event =>
    change Sent pieces (sent ++ (handleCDC s event).1) (handleCDC s event).2
    change followAll s.txBuf (trace (handleCDC s event).1) =
      some (handleCDC s event).2.txBuf at ring
    unfold handleCDC at ring ⊢
    dsimp only at ring ⊢
    split at ring
    next connected =>
      rw [if_pos connected]
      exact holds.quiet ring rfl rfl rfl fun history sending => sending.driver _ _
    next other =>
      rw [if_neg other]
      exact holds.quiet ring rfl rfl rfl fun history sending => sending.driver _ s.txBuf
  | handleTx event =>
    exact holds.quiet ring rfl rfl rfl fun history sending => sending.driver _ s.txBuf
  | hostTake =>
    change Sent pieces (sent ++ (hostTake s).1) (hostTake s).2
    change followAll s.txBuf (trace (hostTake s).1) = some (hostTake s).2.txBuf at ring
    unfold hostTake at ring ⊢
    cases held : s.txBuf with
    | nil =>
      exact stay
    | cons byte rest =>
      rw [held] at ring
      refine holds.quiet (by rwa [held]) rfl rfl rfl fun _ sending => ?_
      exact sending.driver s.send.cdcd rest
  | thread answer =>
    change Sent pieces (sent ++ (threadStep s answer).1) (threadStep s answer).2
    change followAll s.txBuf (trace (threadStep s answer).1) =
      some (threadStep s answer).2.txBuf at ring
    unfold threadStep at ring ⊢
    split at ring
    next nothing => exact stay
    next piece rest under =>
      split at ring
      next ret returned => exact holds.finish fits under returned
      next =>
        split at ring
        next refused => exact stay
        next send stepped =>
          refine holds.quiet ring rfl rfl rfl fun history sending => ?_
          rw [Sending, under] at sending
          have moved := sending.thread stepped
          rw [Option.toList_none, List.append_nil] at moved
          rw [Sending]
          simp only [under]
          exact moved
        next send o stepped => exact holds.step under ring stepped

end Steps

section Whole

variable {done pieces : List (List UInt8)} {sent : List Obs} {s : State}

theorem Passed.uart (passed : Passed done sent) : uartText sent = done.flatten := by
  induction passed with
  | start => rfl
  | piece passed silent beginning whole ih =>
    rw [uartText_append, uartText_append, ih, silent, List.append_nil, List.flatten_append,
      List.flatten_singleton]
    exact congrArg (_ ++ ·) (List.append_nil _)

/-- Without a timeout all pieces are put into the ring. -/
theorem Passed.whole (passed : Passed done sent) (punctual : .timedOut ∉ sent) :
    puts (trace sent) = done.flatten := by
  induction passed with
  | start => rfl
  | piece passed silent beginning whole ih =>
    rw [List.append_assoc] at punctual
    have before := ih fun member => punctual (List.mem_append_left _ member)
    have during := whole fun member =>
      punctual (List.mem_append_right _ (List.mem_append_left _ member))
    rw [trace_append, trace_append, puts_append, puts_append, before, during, List.flatten_append,
      List.flatten_singleton]
    exact List.append_nil _

/-- The call under way has put a beginning of its piece into the ring. -/
theorem Sending.beginning {history : List Usb.Cdcd.Obs} (sending : Sending s history)
    (fits : ∀ piece ∈ s.pieces, piece.length < 2 ^ 32) :
    Usb.Cdcd.enqueued history <+: s.pieces.headD [] := by
  unfold Sending at sending
  split at sending
  next none_left =>
    subst sending
    exact List.nil_prefix
  next piece rest under =>
    rw [under] at fits ⊢
    exact (enqueued_beginning (fits piece List.mem_cons_self) sending).1

end Whole

/-- The calls of `mp_hal_stdout_tx_strn`, as far as they have come: pieces that were passed on,
and a beginning of the one that is being sent. -/
def Pieces (pieces : List (List UInt8)) (s : State) (sent : List Obs) : Prop :=
  ∃ done before during, pieces = done ++ s.pieces ∧ sent = before ++ during ∧
    Passed done before ∧ uartText during = [] ∧ puts (trace during) <+: s.pieces.headD []

/-- After the prints, as far as they have come. The UART has sent the text. A beginning of each
piece was put into the ring, the whole if no pend for it timed out; of this the host reads all
in its order, but for what waits in the ring when the port is connected anew. Where neither
happens, the host is not behind the UART. -/
structure InOrder (prints : List Print) (s : State) (sent : List Obs) : Prop where
  uart : uartText sent ++ s.pieces.flatten = prints.flatMap Print.text
  usb : Pieces (prints.flatMap Print.pieces) s sent
  host : Interleaves (hostText sent ++ s.txBuf) (dropped [] (trace sent)) (puts (trace sent))
  host_whole : .timedOut ∉ sent → .initialised ∉ sent →
    uartText sent <+: hostText sent ++ s.txBuf ∧
      hostText sent ++ s.txBuf <+: prints.flatMap Print.text

theorem reset_not_mem_trace {sent : List Obs} (steady : .initialised ∉ sent) :
    .reset ∉ trace sent := by
  intro lost
  obtain ⟨o, member, reset⟩ := List.mem_flatMap.mp lost
  cases o with
  | initialised => exact steady member
  | wrote bytes => cases List.mem_singleton.mp reset
  | host byte => cases List.mem_singleton.mp reset
  | timedOut => cases reset
  | uart bytes => cases reset

theorem Sent.inOrder {prints : List Print} {sent : List Obs} {s : State}
    (holds : Sent (prints.flatMap Print.pieces) sent s) : InOrder prints s sent := by
  have ring := holds.ring
  obtain ⟨done, before, during, history, split, rfl, passed, mute, written, late, sending⟩ :=
    holds.pieces
  have fits : ∀ piece ∈ s.pieces, piece.length < 2 ^ 32 := by
    intro piece member
    obtain ⟨p, _, among⟩ := List.mem_flatMap.mp (split ▸ List.mem_append_right done member)
    exact length_pieces among
  have beginning : puts (trace during) <+: s.pieces.headD [] := by
    rw [written]
    exact sending.beginning fits
  have uart : uartText (before ++ during) = done.flatten := by
    rw [uartText_append, passed.uart, mute, List.append_nil]
  have text : done.flatten ++ s.pieces.flatten = prints.flatMap Print.text := by
    rw [← List.flatten_append, ← split, flatten_flatMap_pieces]
  exact {
    uart := by rw [uart, text]
    usb := ⟨done, before, during, split, rfl, passed, mute, beginning⟩
    host := takes_interleaves _ ring
    host_whole := by
      intro punctual steady
      have whole := takes_whole _ ring (reset_not_mem_trace steady)
      have earlier := passed.whole fun member => punctual (List.mem_append_left _ member)
      rw [trace_append, puts_append, earlier, List.nil_append] at whole
      have first : s.pieces.headD [] <+: s.pieces.flatten := by
        cases s.pieces with
        | nil => exact List.nil_prefix
        | cons piece rest => exact List.prefix_append piece rest.flatten
      rw [hostText, trace_append, whole, uart, ← text]
      exact ⟨List.prefix_append _ _,
        (List.prefix_append_right_inj _).mpr (beginning.trans first)⟩ }

/-- Output is in order across every interleaving of the prints with the callbacks and the host. -/
theorem printed_in_order (cdcd : Usb.Cdcd.Object) (prints : List Print) (acts : List Act) :
    InOrder prints (machine.after (start cdcd prints) acts)
      (machine.answers (start cdcd prints) acts).flatten := by
  have fits : ∀ piece ∈ prints.flatMap Print.pieces, piece.length < 2 ^ 32 := by
    intro piece member
    obtain ⟨p, _, among⟩ := List.mem_flatMap.mp member
    exact length_pieces among
  have begins : Sent (prints.flatMap Print.pieces) [] (start cdcd prints) := by
    refine ⟨rfl, [], [], [], [], rfl, rfl, .start, rfl, rfl, fun late => ?_, ?_⟩
    · cases late
    · unfold Sending
      cases under : (start cdcd prints).pieces with
      | nil => rfl
      | cons piece rest => exact sending_begin piece cdcd
  have kept := machine.outputs_keep (Sent (prints.flatMap Print.pieces))
    (fun act holds => holds.perform fits act) acts begins
  exact kept.inOrder

/-- The string "a\n", cooked, and "b". -/
def twoPrints : List Print :=
  [⟨true, storeBytes (fun _ => 0) 0 [0x61, 0x0a], 0, 2⟩, ⟨false, fun _ => 0x62, 0, 1⟩]

/-- The pend for the newline times out after one byte of it. -/
example : (machine.answers (start ⟨.idle, false, true⟩ twoPrints)
    [.thread .none, .thread (.space 127), .thread (.accepted 1), .thread .token, .thread .none,
      .thread .none, .thread .none, .thread (.space 1), .thread (.accepted 1), .thread .timeout,
      .thread .none, .hostTake, .hostTake]).flatten =
    [.wrote [0x61], .uart [0x61], .wrote [0x0d], .timedOut, .uart [0x0d, 0x0a], .host 0x61,
      .host 0x0d] := by decide

end TildaMk4.Console.Transmit
