import TildaMk4.Lib.Mailbox
import TildaMk4.Usb.StatusWrappers

/-!
# Interrupts handled by the mass-storage daemon

At the end of `usbdmsc.c` every callback of the USB stack posts an `IsrMsg` from the interrupt,
and `mscDaemon` handles them one by one in its task. The status bits travel in the message;
what a pointer leads to, the DMA channels and the packet are as the daemon finds them.
-/

namespace TildaMk4.Usb

open Storage Transition Requests

/-- The requests on endpoint 0 that `HandleRequests` tells apart. -/
inductive ControlRequest
  | getMaxLun
  | bulkOnlyReset
  | unknown
  deriving DecidableEq

inductive Ep0Event
  | dataAck
  | sendData (data : List UInt8)
  | stall
  deriving DecidableEq

/-- The bulk-only reset is acknowledged and does not touch the SCSI state. -/
def handleRequests : ControlRequest → List Ep0Event
  | .getMaxLun => [.dataAck, .sendData [0]]
  | .bulkOnlyReset => [.dataAck, .sendData []]
  | .unknown => [.stall]

/-- `IsrMsg`, by its `type`. -/
inductive IsrMsg
  | requests
  | endpoints (inStatus outStatus : Bool)
  | device
  | disconnect
  | config
  deriving DecidableEq

/-- What the daemon finds when it comes to a message. -/
structure Found where
  request : ControlRequest
  inDmaComplete : Bool
  txPktRdy : Bool
  outDmaComplete : Bool
  received : Bytes
  packet : Option Cbw

/-- The handlers that the daemon calls. `HandleDevice` moves the endpoints and their DMA
channels, which are not part of `Msc`. -/
inductive Handling
  | requests (request : ControlRequest)
  | device
  | mass (act : MscAct)

structure Handled where
  ep0 : List Ep0Event
  events : List MscEvent
  wire : List Wire

def handlers : Machine Msc Handling Handled where
  perform s
    | .requests request => (⟨handleRequests request, [], []⟩, s)
    | .device => (⟨[], [], []⟩, s)
    | .mass act => (⟨[], (s.perform act).1, s.wire act⟩, (s.perform act).2)

/-- The `switch` of `mscDaemon`. -/
def IsrMsg.deliver (msg : IsrMsg) (found : Found) : Handling :=
  match msg with
  | .requests => .requests found.request
  | .endpoints inStatus outStatus =>
    .mass (.endpoints
      { inStatus, outStatus, inDmaComplete := found.inDmaComplete, txPktRdy := found.txPktRdy,
        outDmaComplete := found.outDmaComplete, received := found.received,
        packet := found.packet })
  | .device => .device
  | .disconnect => .mass .disconnect
  | .config => .mass .configChange

/-- `NUMMSGS`. -/
def numMsgs : Nat := 4

def mscDaemon : Mailbox.Daemon Msc Handling Handled IsrMsg Found where
  machine := handlers
  deliver := IsrMsg.deliver
  capacity := numMsgs

/-- What the device has put on the wire. -/
def wireHistory (history : List (Mailbox.Obs Handling Handled IsrMsg Found)) : List Wire :=
  (mscDaemon.performed history).flatMap fun done => done.2.wire

theorem followAll_handlers {s : Msc} (sizes : s.BlockSizes) (op : Handling) :
    followAll s.owed (handlers.perform s op).1.wire = some (handlers.perform s op).2.owed := by
  cases op with
  | requests => rfl
  | device => rfl
  | mass act => exact Msc.followAll_wire sizes act

theorem blockSizes_handlers {s : Msc} (sizes : s.BlockSizes) (op : Handling) :
    (handlers.perform s op).2.BlockSizes := by
  cases op with
  | requests => exact sizes
  | device => exact sizes
  | mass act => exact sizes.perform act

/-- However the interrupts, the daemon and the other threads interleave, every message is
handled once and in its turn, at most `NUMMSGS` wait, only one more stops the firmware, and the
device answers each command on the wire as it does without the mailbox. -/
theorem mscDaemon_faithful (flash : Bytes)
    {history : List (Mailbox.Obs Handling Handled IsrMsg Found)} {world : Mailbox.World Msc IsrMsg}
    (run : mscDaemon.system.Run (fun _ _ => True) (Mailbox.Daemon.start (Msc.boot flash)) history
      world) :
    mscDaemon.Faithful (Msc.boot flash) history world ∧
      followAll none (wireHistory history) = some world.state.owed := by
  have faithful := mscDaemon.faithful_of_run run
  refine ⟨faithful, ?_⟩
  have orderly := followAll_outputs (handlers.mapOut Handled.wire) Msc.BlockSizes Msc.owed
    (fun op sizes => blockSizes_handlers sizes op) (fun op sizes => followAll_handlers sizes op)
    ((mscDaemon.performed history).map Prod.fst) (Msc.blockSizes_boot flash)
  have outs : (mscDaemon.performed history).map Prod.snd =
    handlers.answers (Msc.boot flash) ((mscDaemon.performed history).map Prod.fst) :=
    faithful.outs_eq
  have state : world.state =
    handlers.after (Msc.boot flash) ((mscDaemon.performed history).map Prod.fst) :=
    faithful.state_eq
  rw [Machine.answers_mapOut, Machine.after_mapOut, ← outs, ← state, List.map_map] at orderly
  exact orderly

/-- Three interrupts come before the daemon has its first turn. -/
def burst : List (Mailbox.Act Handling IsrMsg Found) :=
  [.post .config, .post (.endpoints false true), .post .requests,
    .pend ⟨.unknown, false, false, false, fun _ => 0, none⟩]

theorem mscDaemon_faithful_burst : ∃ history world,
    (mscDaemon.Faithful (Msc.boot fun _ => 0) history world ∧
      followAll none (wireHistory history) = some world.state.owed) ∧ world.waiting.length = 2 := by
  obtain ⟨history, world, run, waits⟩ :=
    System.exists_run_of_exec mscDaemon.system (fun _ _ => True)
      (Mailbox.Daemon.start (Msc.boot fun _ => 0)) burst
      (fun result => result.2.waiting.length == 2) rfl
  exact ⟨history, world, mscDaemon_faithful _ run, eq_of_beq waits⟩

end TildaMk4.Usb
