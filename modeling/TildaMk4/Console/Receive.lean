import TildaMk4.Lib.Fifo
import TildaMk4.Usb.SendData

/-!
# Input from the console

`mp_hal_stdin_rx_chr` of `mpmain-emf.c`, which polls the USB port and the UART, and the
receiving side of `CDCD.c`. The thread takes one step at a time; the callbacks of the USB
library and the bytes of the UART come between any two of them.
-/

namespace TildaMk4.Console.Receive

open Fifo Transition
open Usb.Cdcd (DriverState UsbEvent)

/-- What receiving uses of the driver. `USBBufferInit` empties `rxBuf`. -/
structure Object where
  state : DriverState
  rxBuf : List UInt8
  connected : Bool
  rxAvail : Bool

def handleCDC (cdcd : Object) : UsbEvent → Object
  | .connected => { cdcd with state := .idle, rxBuf := [], connected := true }
  | .disconnected => { cdcd with state := .unconfigured, connected := false }
  | _ => cdcd

/-- A packet is in the buffer, as far as there was room for it, when `handleRx` runs. -/
def handleRx (cdcd : Object) (packet : List UInt8) : Object :=
  { cdcd with rxBuf := cdcd.rxBuf ++ packet, rxAvail := true }

/-- Where the thread is. -/
inductive Control
  | receiveData
  | waitForConnect
  | pendConnected
  | rxData
  | pendRxAvail
  | bufferRead
  | uartControl
  | uartRead
  | pollHook
  deriving DecidableEq

structure State where
  cdcd : Object
  uart : List UInt8
  control : Control

inductive Source
  | usb
  | uart
  deriving DecidableEq

inductive Act
  | handleCDC (event : UsbEvent)
  | handleRx (packet : List UInt8)
  | uartByte (byte : UInt8)
  | thread
  deriving DecidableEq

/-- A call of `mp_hal_stdin_rx_chr` ends. -/
inductive Obs
  | returned (source : Source) (byte : UInt8)
  deriving DecidableEq

def State.at_ (s : State) (control : Control) : List Obs × State :=
  ([], { s with control := control })

/-- One step of the thread; no pend has any time to wait. After a byte is returned, and after
whatever `mp_handle_pending` raises, the next step is the first one of a call. -/
def threadStep (s : State) : List Obs × State :=
  match s.control with
  | .receiveData => s.at_ (if s.cdcd.state = .idle then .rxData else .waitForConnect)
  | .waitForConnect => s.at_ (if s.cdcd.state = .unconfigured then .pendConnected else .rxData)
  | .pendConnected =>
    if s.cdcd.connected then { s with cdcd := { s.cdcd with connected := false } }.at_ .rxData
    else s.at_ .uartControl
  | .rxData => s.at_ (if s.cdcd.rxBuf ≠ [] then .bufferRead else .pendRxAvail)
  | .pendRxAvail =>
    if s.cdcd.rxAvail then { s with cdcd := { s.cdcd with rxAvail := false } }.at_ .bufferRead
    else s.at_ .uartControl
  | .bufferRead =>
    -- the semaphore may be left from bytes that have been read since
    match s.cdcd.rxBuf with
    | [] => s.at_ .uartControl
    | byte :: rest =>
      ([.returned .usb byte],
        { s with cdcd := { s.cdcd with rxBuf := rest }, control := .receiveData })
  | .uartControl => s.at_ (if 0 < s.uart.length then .uartRead else .pollHook)
  | .uartRead =>
    match s.uart with
    | [] => s.at_ .uartRead
    | byte :: rest => ([.returned .uart byte], { s with uart := rest, control := .receiveData })
  | .pollHook => s.at_ .receiveData

def machine : Machine State Act (List Obs) where
  perform s
    | .handleCDC event => ([], { s with cdcd := handleCDC s.cdcd event })
    | .handleRx packet => ([], { s with cdcd := handleRx s.cdcd packet })
    | .uartByte byte => ([], { s with uart := s.uart ++ [byte] })
    | .thread => threadStep s

def Obs.bytes (source : Source) : Obs → List UInt8
  | .returned source' byte => if source' = source then [byte] else []

/-- The ring of the USB port. Only a new connection empties it. -/
def usbPort : Fifo.Port State Act Obs UInt8 where
  queue s := s.cdcd.rxBuf
  inputs
    | .handleCDC .connected => [.reset]
    | .handleRx packet => [.put packet]
    | _ => []
  outputs := Obs.bytes .usb

def uartPort : Fifo.Port State Act Obs UInt8 where
  queue := State.uart
  inputs
    | .uartByte byte => [.put [byte]]
    | _ => []
  outputs := Obs.bytes .uart

/-- The thread leaves the two buffers as they are, but for a byte that it returns. -/
theorem thread_cases (s : State) :
    ((threadStep s).1 = [] ∧ (threadStep s).2.cdcd.rxBuf = s.cdcd.rxBuf ∧
      (threadStep s).2.uart = s.uart) ∨
    (∃ byte, (threadStep s).1 = [.returned .usb byte] ∧
      s.cdcd.rxBuf = byte :: (threadStep s).2.cdcd.rxBuf ∧ (threadStep s).2.uart = s.uart) ∨
    ∃ byte, (threadStep s).1 = [.returned .uart byte] ∧
      (threadStep s).2.cdcd.rxBuf = s.cdcd.rxBuf ∧ s.uart = byte :: (threadStep s).2.uart := by
  unfold threadStep
  split
  case h_6 =>
    split
    next empty => exact .inl ⟨rfl, rfl, rfl⟩
    next byte rest held => exact .inr (.inl ⟨byte, rfl, held, rfl⟩)
  case h_8 =>
    split
    next empty => exact .inl ⟨rfl, rfl, rfl⟩
    next byte rest held => exact .inr (.inr ⟨byte, rfl, rfl, held⟩)
  case h_3 => split <;> exact .inl ⟨rfl, rfl, rfl⟩
  case h_5 => split <;> exact .inl ⟨rfl, rfl, rfl⟩
  all_goals exact .inl ⟨rfl, rfl, rfl⟩

theorem usbPort_faithful : usbPort.Faithful machine where
  outside act := by
    cases act with
    | handleCDC event => cases event <;> rfl
    | handleRx packet => rfl
    | uartByte byte => rfl
    | thread => rfl
  step s act := by
    cases act with
    | handleCDC event => cases event <;> rfl
    | handleRx packet => rfl
    | uartByte byte => rfl
    | thread =>
      change followAll s.cdcd.rxBuf ((usbPort.departures (threadStep s).1).map .take) =
        some (threadStep s).2.cdcd.rxBuf
      obtain ⟨silent, same, _⟩ | ⟨byte, read, held, _⟩ | ⟨byte, read, same, _⟩ := thread_cases s
      · rw [silent, same]
        rfl
      · rw [read, held]
        simp [Fifo.Port.departures, usbPort, Obs.bytes, followAll, follow]
      · rw [read, same]
        rfl

theorem uartPort_faithful : uartPort.Faithful machine where
  outside act := by cases act <;> rfl
  step s act := by
    cases act with
    | handleCDC event => rfl
    | handleRx packet => rfl
    | uartByte byte => rfl
    | thread =>
      change followAll s.uart ((uartPort.departures (threadStep s).1).map .take) =
        some (threadStep s).2.uart
      obtain ⟨silent, _, same⟩ | ⟨byte, read, _, same⟩ | ⟨byte, read, _, held⟩ := thread_cases s
      · rw [silent, same]
        rfl
      · rw [read, same]
        rfl
      · rw [read, held]
        simp [Fifo.Port.departures, uartPort, Obs.bytes, followAll, follow]

/-- The bytes of a source that calls have returned. -/
def returned (source : Source) (sent : List Obs) : List UInt8 := sent.flatMap (Obs.bytes source)

/-- What waits in `rxBuf` whenever the port is connected anew. -/
def dropped (s : State) : List Act → List UInt8
  | [] => []
  | act :: rest =>
    (if act = .handleCDC .connected then s.cdcd.rxBuf else []) ++
      dropped (machine.perform s act).2 rest

theorem dropped_eq (acts : List Act) : ∀ s, usbPort.dropped machine s acts = dropped s acts := by
  induction acts with
  | nil => exact fun _ => rfl
  | cons act rest ih =>
    intro s
    rw [Fifo.Port.dropped, dropped, ih]
    refine congrArg (· ++ _) ?_
    cases act with
    | handleCDC event =>
      cases event with
      | connected => exact List.append_nil s.cdcd.rxBuf
      | disconnected => rfl
      | txComplete => rfl
      | rxAvailable => rfl
      | other => rfl
    | handleRx packet => rfl
    | uartByte byte => rfl
    | thread => exact Fifo.dropped_takes _ s.cdcd.rxBuf

/-- From `s` to `s'`, calls return what arrives at each port in its order and at most once; a
new connection drops what waits at the USB port, and nothing else is lost. -/
structure InOrder (s s' : State) (acts : List Act) (sent : List Obs) : Prop where
  usb : Interleaves (returned .usb sent ++ s'.cdcd.rxBuf) (dropped s acts)
    (s.cdcd.rxBuf ++ usbPort.arrivals acts)
  usb_whole : .handleCDC .connected ∉ acts →
    returned .usb sent ++ s'.cdcd.rxBuf = s.cdcd.rxBuf ++ usbPort.arrivals acts
  uart_whole : returned .uart sent ++ s'.uart = s.uart ++ uartPort.arrivals acts

/-- Input is in order across every interleaving of the thread with the two ports. -/
theorem received_in_order (s : State) (acts : List Act) :
    InOrder s (machine.after s acts) acts (machine.answers s acts).flatten where
  usb := by
    rw [← dropped_eq]
    exact Fifo.Port.departures_interleaves usbPort_faithful s acts
  usb_whole steady := by
    refine Fifo.Port.departures_whole usbPort_faithful s acts fun act member reset => ?_
    cases act with
    | handleCDC event =>
      cases event with
      | connected => exact steady member
      | disconnected => cases reset
      | txComplete => cases reset
      | rxAvailable => cases reset
      | other => cases reset
    | handleRx packet => cases List.mem_singleton.mp reset
    | uartByte byte => cases reset
    | thread => cases reset
  uart_whole := by
    refine Fifo.Port.departures_whole uartPort_faithful s acts fun act _ reset => ?_
    cases act with
    | handleCDC event => cases reset
    | handleRx packet => cases reset
    | uartByte byte => cases List.mem_singleton.mp reset
    | thread => cases reset

section Progress

/-- A byte can be read from the USB port while it stays connected. -/
def UsbWaits (s : State) : Prop := s.cdcd.state = .idle ∧ s.cdcd.rxBuf ≠ []

def UartWaits (s : State) : Prop := s.uart ≠ []

instance (s : State) : Decidable (UsbWaits s) := inferInstanceAs (Decidable (_ ∧ _))

instance (s : State) : Decidable (UartWaits s) := inferInstanceAs (Decidable (_ ≠ _))

/-- `UART_read` is called only where it does not block. -/
def Unblocked (s : State) : Prop := s.control = .uartRead → s.uart ≠ []

/-- The steps to a byte of the USB port, at most; `uartControl` may find none at the UART. -/
def usbRank : Control → Nat
  | .uartRead => 0
  | .bufferRead => 0
  | .rxData => 1
  | .receiveData => 2
  | .waitForConnect => 2
  | .pollHook => 3
  | .uartControl => 4
  | .pendConnected => 5
  | .pendRxAvail => 5

/-- The steps to a byte of the UART, at most. -/
def uartRank : Control → Nat
  | .uartRead => 0
  | .uartControl => 1
  | .bufferRead => 2
  | .pendRxAvail => 3
  | .rxData => 4
  | .pendConnected => 5
  | .waitForConnect => 6
  | .receiveData => 7
  | .pollHook => 8

/-- The steps to a byte of either port. -/
def rank (s : State) : Nat :=
  min (if UsbWaits s then usbRank s.control else 8) (if UartWaits s then uartRank s.control else 8)

theorem rank_le (s : State) : rank s ≤ 8 := by
  have usb : usbRank s.control ≤ 8 := by cases s.control <;> decide
  unfold rank
  split
  · exact Nat.le_trans (Nat.min_le_left _ _) usb
  · exact Nat.min_le_left _ _

variable {s : State}

theorem thread_unblocked (unblocked : Unblocked s) : Unblocked (threadStep s).2 := by
  unfold Unblocked threadStep at *
  cases control : s.control <;> simp only [control, State.at_] at unblocked ⊢ <;> grind

/-- Without a byte the thread comes nearer to the one of the USB port. -/
theorem usb_nearer (unblocked : Unblocked s) (waits : UsbWaits s)
    (silent : (threadStep s).1 = []) :
    UsbWaits (threadStep s).2 ∧ usbRank (threadStep s).2.control < usbRank s.control := by
  obtain ⟨idle, held⟩ := waits
  cases control : s.control with
  | receiveData => simp [threadStep, control, State.at_, UsbWaits, idle, held, usbRank]
  | waitForConnect => simp [threadStep, control, State.at_, UsbWaits, idle, held, usbRank]
  | pendConnected =>
    cases token : s.cdcd.connected <;>
      simp [threadStep, control, token, State.at_, UsbWaits, idle, held, usbRank]
  | rxData => simp [threadStep, control, State.at_, UsbWaits, idle, held, usbRank]
  | pendRxAvail =>
    cases token : s.cdcd.rxAvail <;>
      simp [threadStep, control, token, State.at_, UsbWaits, idle, held, usbRank]
  | bufferRead =>
    obtain ⟨byte, rest, some_⟩ := List.exists_cons_of_ne_nil held
    simp [threadStep, control, some_] at silent
  | uartControl =>
    by_cases some_ : 0 < s.uart.length <;>
      simp [threadStep, control, some_, State.at_, UsbWaits, idle, held, usbRank]
  | uartRead =>
    obtain ⟨byte, rest, some_⟩ := List.exists_cons_of_ne_nil (unblocked control)
    simp [threadStep, control, some_] at silent
  | pollHook => simp [threadStep, control, State.at_, UsbWaits, idle, held, usbRank]

theorem uart_nearer (waits : UartWaits s) (silent : (threadStep s).1 = []) :
    UartWaits (threadStep s).2 ∧ uartRank (threadStep s).2.control < uartRank s.control := by
  obtain ⟨byte, rest, held⟩ := List.exists_cons_of_ne_nil waits
  cases control : s.control with
  | receiveData =>
    cases state : s.cdcd.state <;>
      simp [threadStep, control, state, State.at_, UartWaits, held, uartRank]
  | waitForConnect =>
    cases state : s.cdcd.state <;>
      simp [threadStep, control, state, State.at_, UartWaits, held, uartRank]
  | pendConnected =>
    cases token : s.cdcd.connected <;>
      simp [threadStep, control, token, State.at_, UartWaits, held, uartRank]
  | rxData =>
    cases buffer : s.cdcd.rxBuf <;>
      simp [threadStep, control, buffer, State.at_, UartWaits, held, uartRank]
  | pendRxAvail =>
    cases token : s.cdcd.rxAvail <;>
      simp [threadStep, control, token, State.at_, UartWaits, held, uartRank]
  | bufferRead =>
    cases buffer : s.cdcd.rxBuf with
    | nil => simp [threadStep, control, buffer, State.at_, UartWaits, held, uartRank]
    | cons byte rest => simp [threadStep, control, buffer] at silent
  | uartControl => simp [threadStep, control, State.at_, UartWaits, held, uartRank]
  | uartRead => simp [threadStep, control, held] at silent
  | pollHook => simp [threadStep, control, State.at_, UartWaits, held, uartRank]

/-- A byte of one of the ports can be read. -/
structure Waits (s : State) : Prop where
  unblocked : Unblocked s
  byte : UsbWaits s ∨ UartWaits s

/-- What waits at each port still does, and the thread is not further from it; `less` is how
much nearer it is. -/
theorem rank_add_le (s' : State) (waits : Waits s) (less : Nat)
    (usb : UsbWaits s → UsbWaits s' ∧ usbRank s'.control + less ≤ usbRank s.control)
    (uart : UartWaits s → UartWaits s' ∧ uartRank s'.control + less ≤ uartRank s.control) :
    (UsbWaits s' ∨ UartWaits s') ∧ rank s' + less ≤ rank s := by
  refine ⟨waits.byte.imp (fun here => (usb here).1) fun here => (uart here).1, ?_⟩
  have bound : usbRank s.control ≤ 5 := by cases s.control <;> decide
  unfold rank
  by_cases usbWaits : UsbWaits s
  · obtain ⟨usb', usbRank'⟩ := usb usbWaits
    by_cases uartWaits : UartWaits s
    · obtain ⟨uart', uartRank'⟩ := uart uartWaits
      simp only [if_pos usbWaits, if_pos usb', if_pos uartWaits, if_pos uart']
      omega
    · simp only [if_pos usbWaits, if_pos usb', if_neg uartWaits]
      omega
  · have uartWaits := waits.byte.resolve_left usbWaits
    obtain ⟨uart', uartRank'⟩ := uart uartWaits
    have bound' : uartRank s.control ≤ 8 := by cases s.control <;> decide
    simp only [if_neg usbWaits, if_pos uartWaits, if_pos uart']
    omega

/-- The USB port stays as it is, connected or not. -/
def Steady (act : Act) : Prop := act ≠ .handleCDC .connected ∧ act ≠ .handleCDC .disconnected

instance (act : Act) : Decidable (Steady act) := inferInstanceAs (Decidable (_ ∧ _))

theorem handleCDC_steady {event : UsbEvent} (steady : Steady (.handleCDC event)) (cdcd : Object) :
    handleCDC cdcd event = cdcd := by
  cases event with
  | connected => exact absurd rfl steady.1
  | disconnected => exact absurd rfl steady.2
  | txComplete => rfl
  | rxAvailable => rfl
  | other => rfl

/-- Without a byte returned, one still waits, and the thread has come nearer to it by each of
its steps. -/
theorem waits_on (waits : Waits s) {act : Act} (steady : Steady act)
    (silent : (machine.perform s act).1 = []) :
    Waits (machine.perform s act).2 ∧
      rank (machine.perform s act).2 + (if act = .thread then 1 else 0) ≤ rank s := by
  cases act with
  | handleCDC event =>
    have same : (machine.perform s (.handleCDC event)).2 = s := by
      simp [machine, handleCDC_steady steady]
    rw [same]
    exact ⟨waits, Nat.le_refl _⟩
  | handleRx packet =>
    obtain ⟨byte, lower⟩ := rank_add_le (machine.perform s (.handleRx packet)).2 waits 0
      (fun usb => ⟨⟨usb.1, List.append_ne_nil_of_left_ne_nil usb.2 _⟩, Nat.le_refl _⟩)
      fun uart => ⟨uart, Nat.le_refl _⟩
    exact ⟨⟨waits.unblocked, byte⟩, lower⟩
  | uartByte new =>
    have some_ : s.uart ++ [new] ≠ [] := List.append_ne_nil_of_right_ne_nil _ (by simp)
    obtain ⟨byte, lower⟩ := rank_add_le (machine.perform s (.uartByte new)).2 waits 0
      (fun usb => ⟨usb, Nat.le_refl _⟩) fun _ => ⟨some_, Nat.le_refl _⟩
    exact ⟨⟨fun _ => some_, byte⟩, lower⟩
  | thread =>
    obtain ⟨byte, lower⟩ := rank_add_le (threadStep s).2 waits 1
      (fun usb => usb_nearer waits.unblocked usb silent) fun uart => uart_nearer uart silent
    exact ⟨⟨thread_unblocked waits.unblocked, byte⟩, lower⟩

/-- Whatever the ports do, but for connecting and disconnecting, a byte that can be read makes a
call return one within nine steps of the thread. -/
theorem returns_within (waits : Waits s) (acts : List Act) (steady : ∀ act ∈ acts, Steady act)
    (many : 9 ≤ acts.count .thread) : (machine.answers s acts).flatten ≠ [] := by
  have soon : rank s < acts.countP (· == .thread) := Nat.lt_of_le_of_lt (rank_le s) many
  have progress {s : State} (act : Act) (waits : Waits s) (steady : Steady act)
      (silent : ∀ o ∈ (machine.perform s act).1, ¬True) :
      Waits (machine.perform s act).2 ∧ rank (machine.perform s act).2 ≤ rank s ∧
        ((act == .thread) = true → rank (machine.perform s act).2 < rank s) := by
    have quiet : (machine.perform s act).1 = [] :=
      List.eq_nil_iff_forall_not_mem.mpr fun o member => silent o member trivial
    obtain ⟨still, lower⟩ := waits_on waits steady quiet
    refine ⟨still, Nat.le_of_add_right_le lower, fun serves => ?_⟩
    rw [if_pos (by simpa using serves)] at lower
    exact lower
  obtain ⟨o, member, _⟩ := Machine.response_within machine Waits rank (· == .thread) Steady
    (fun _ => True) progress acts steady waits soon
  exact List.ne_nil_of_mem member

theorem returns_within_stale :
    (machine.answers ⟨⟨.unconfigured, [], false, true⟩, [0x61], .pollHook⟩
      (.handleRx [0x62] :: List.replicate 9 .thread)).flatten ≠ [] :=
  returns_within ⟨fun reading => absurd reading (by decide), .inr (by decide)⟩ _ (by decide)
    (by decide)

end Progress

end TildaMk4.Console.Receive
