import TildaMk4.Lib.Requests
import TildaMk4.Usb.BlockTransfers

/-!
# The status wrappers of the mass-storage device

The bulk-only transport as the device speaks it. `due` says which status wrapper a
command is owed, in the state in which the device takes it; the data phase in between,
the other threads and the cable have no say in it.
-/

namespace TildaMk4.Usb

open Storage Transition Requests

abbrev Wire := Message Cbw Csw

def MscEvent.wire : MscEvent → List Wire
  | .csw wrapper => [.reply wrapper]
  | _ => []

/-- The status wrappers among what a handler has done. -/
def wireOf (events : List MscEvent) : List Wire := events.flatMap MscEvent.wire

@[simp] theorem wireOf_append (events more : List MscEvent) :
    wireOf (events ++ more) = wireOf events ++ wireOf more := List.flatMap_append

theorem wireOf_eq_nil {events : List MscEvent} (none_ : ∀ csw, .csw csw ∉ events) :
    wireOf events = [] := by
  refine List.flatMap_eq_nil_iff.mpr fun event member => ?_
  cases event with
  | csw wrapper => exact absurd member (none_ wrapper)
  | _ => rfl

namespace Msc

variable (s : Msc)

/-- What the device finds out of the media for a command, before any data moves. -/
def succeeds : ScsiCommand → Bool
  | .inquiry | .requestSense => true
  | .testUnitReady =>
    s.pvMedia || decide (s.iMediaStatus ≠ .notPresent) && s.adapter.usbEnabled
  | .startStopUnit false true => s.pvMedia && s.flagAllowRemoval
  | .startStopUnit true true => s.pvMedia && s.adapter.usbEnabled
  | .unsupported => false
  | _ => s.pvMedia

/-- The residue: two commands do not send what the host asked for. -/
def residue (cbw : Cbw) : Nat :=
  match cbw.command with
  | .modeSense6 =>
    if s.pvMedia then (uint32Size + cbw.dCBWDataTransferLength - 4) % uint32Size else 0
  | .unsupported => cbw.dCBWDataTransferLength
  | _ => 0

end Msc

/-- The commands that leave the SCSI state idle, and so never get a status wrapper. -/
def Cbw.unanswered (cbw : Cbw) : Bool :=
  (cbw.command = .testUnitReady || cbw.command = .unsupported) && cbw.dCBWDataTransferLength != 0

namespace Msc

variable (s : Msc)

def verdict (cbw : Cbw) : Csw :=
  ⟨cbw.dCBWTag, s.residue cbw, if s.succeeds cbw.command then 0 else 1⟩

/-- The status wrapper due to a command that the device takes in `s`. -/
def due (cbw : Cbw) : Option Csw := if cbw.unanswered then none else some (s.verdict cbw)

/-- The status wrapper that the device still has to send. -/
def owed : Option Csw :=
  match s.ui8SCSIState with
  | .idle | .sentStatus => none
  | .sendBlocks | .receiveBlocks => some ⟨s.sScsiCsw.dCSWTag, 0, 0⟩
  | .sendStatus => some s.sScsiCsw

/-- The command that the OUT half of the handler takes. -/
def taken (irq : EndpointIrq) : Option Cbw :=
  if (irq.outStatus || s.flagDmaOut && irq.outDmaComplete) && s.ui8SCSIState = .idle then irq.packet
  else none

/-- What the OUT half puts on the wire: the command that it takes, then its answers. -/
def wireOut (irq : EndpointIrq) : List Wire :=
  (s.taken irq).toList.map (fun cbw => .request cbw (s.due cbw)) ++ wireOf (s.handleOut irq).1

def wire : MscAct → List Wire
  | .endpoints irq => wireOf (s.handleIn irq).1 ++ (s.handleIn irq).2.wireOut irq
  | _ => []

/-- The mass-storage device, with what it puts on the wire as its output. -/
def transport : Machine Msc MscAct (List Wire) where
  perform s act := (s.wire act, (s.perform act).2)

theorem transport_after (acts : List MscAct) :
    ∀ s, transport.after s acts = machine.after s acts := by
  induction acts with
  | nil => exact fun _ => rfl
  | cons act rest ih => exact fun s => ih (s.perform act).2

theorem openMedia_pvMedia : s.openMedia.pvMedia = s.adapter.usbEnabled := by
  cases enabled : s.adapter.usbEnabled <;>
    simp [openMedia, Adapter.scmscOpen, Adapter.storageOpenUsb, enabled]

/-- What a branch of the `switch` of `USBDSCSICommand` has to leave: no wrapper is sent, and
the one that is due is set up. -/
structure Prepares (cbw : Cbw) (result : List MscEvent × Msc) : Prop where
  silent : wireOf result.1 = []
  owes : cbw.dCBWDataTransferLength ≠ 0 → result.2.owed = s.due cbw
  ready : cbw.dCBWDataTransferLength = 0 → some result.2.sScsiCsw = s.due cbw

namespace Prepares

variable {s : Msc} {cbw : Cbw} {result : List MscEvent × Msc}

theorem due_of_answered (answered : cbw.unanswered = false) : s.due cbw = some (s.verdict cbw) := by
  rw [due, answered]
  rfl

theorem of_status (answered : cbw.unanswered = false) (silent : wireOf result.1 = [])
    (state : result.2.ui8SCSIState = .sendStatus) (csw : result.2.sScsiCsw = s.verdict cbw) :
    s.Prepares cbw result where
  silent := silent
  owes _ := by rw [owed, state, due_of_answered answered, csw]
  ready _ := by rw [due_of_answered answered, csw]

theorem of_blocks (answered : cbw.unanswered = false) (silent : wireOf result.1 = [])
    (state : result.2.ui8SCSIState = .sendBlocks ∨ result.2.ui8SCSIState = .receiveBlocks)
    (csw : result.2.sScsiCsw = s.verdict cbw) (clean : s.verdict cbw = ⟨cbw.dCBWTag, 0, 0⟩) :
    s.Prepares cbw result where
  silent := silent
  owes _ := by
    rw [owed, due_of_answered answered, csw, clean]
    rcases state with state | state <;> rw [state]
  ready _ := by rw [due_of_answered answered, csw]

theorem failNoMedia (answered : cbw.unanswered = false) (tagged : s.sScsiCsw = ⟨cbw.dCBWTag, 0, 0⟩)
    (fails : s.succeeds cbw.command = false) (nothing : s.residue cbw = 0) (endpoint : Endpoint) :
    s.Prepares cbw (s.failNoMedia endpoint) := by
  refine of_status answered rfl rfl ?_
  simp only [Msc.failNoMedia, setState, setSense, setStatus, verdict, fails, nothing, tagged]
  rfl

/-- A command that only wants the media to be there. -/
theorem of_media {ok : List MscEvent × Msc} (answered : cbw.unanswered = false)
    (tagged : s.sScsiCsw = ⟨cbw.dCBWTag, 0, 0⟩) (decides : s.succeeds cbw.command = s.pvMedia)
    (nothing : s.pvMedia = false → s.residue cbw = 0) (endpoint : Endpoint)
    (works : s.pvMedia = true → s.Prepares cbw ok) :
    s.Prepares cbw (if s.pvMedia then ok else s.failNoMedia endpoint) := by
  cases media : s.pvMedia with
  | true => exact works media
  | false => exact failNoMedia answered tagged (decides.trans media) (nothing media) endpoint

/-- The end of `USBDSCSIRead10`, once `t` is the state after its first block. -/
theorem sends (answered : cbw.unanswered = false) (t : Msc) {events : List MscEvent}
    (none_ : ∀ csw, .csw csw ∉ events) {numBlocks : Nat} (csw : t.sScsiCsw = s.verdict cbw)
    (clean : s.verdict cbw = ⟨cbw.dCBWTag, 0, 0⟩) :
    s.Prepares cbw (events, ((t.setFlagDmaIn true).schedule numBlocks).setState .sendBlocks) :=
  of_blocks answered (wireOf_eq_nil none_) (.inl rfl) csw clean

/-- A command that moves blocks: with media its wrapper is already the one it has at its end. -/
theorem blocks (op : BlockOp) (answered : cbw.unanswered = false) {cbwcb : Vector UInt8 16}
    (sizes : s.BlockSizes) (tagged : s.sScsiCsw = ⟨cbw.dCBWTag, 0, 0⟩)
    (command : cbw.command = op.command cbwcb) : s.Prepares cbw (s.dispatch cbw) := by
  have clean : s.residue cbw = 0 := by
    rw [residue, command]
    cases op <;> rfl
  have decides : s.succeeds cbw.command = s.pvMedia := by
    rw [command]
    cases op <;> rfl
  cases media : s.pvMedia with
  | true =>
    have good : s.verdict cbw = ⟨cbw.dCBWTag, 0, 0⟩ := by
      rw [verdict, clean, decides, media]
      rfl
    cases op with
    | read =>
      rw [dispatch_read10 sizes media command]
      refine sends answered _ (BlockOp.read.csw_not_mem_transfers _ _) ?_ good
      rw [blockRead_sScsiCsw, setCurrentLBA_sScsiCsw, tagged, good]
    | write =>
      rw [dispatch_write10 media command]
      exact of_blocks answered rfl (.inr rfl) (tagged.trans good.symm) good
  | false =>
    have refused := failNoMedia answered tagged (decides.trans media) clean
    cases op with
    | read =>
      simpa [dispatch, command, BlockOp.command, usbdScsiRead10, media] using refused .inEndpoint
    | write =>
      simpa [dispatch, command, BlockOp.command, usbdScsiWrite10, media] using refused .outEndpoint

theorem startStopUnit (answered : cbw.unanswered = false) {start loej : Bool}
    (tagged : s.sScsiCsw = ⟨cbw.dCBWTag, 0, 0⟩)
    (command : cbw.command = .startStopUnit start loej) :
    s.Prepares cbw (s.usbdScsiStartStopUnit start loej) := by
  have clean : s.residue cbw = 0 := by rw [residue, command]
  cases media : s.pvMedia with
  | false =>
    have fails : s.succeeds cbw.command = false := by
      rw [command]
      cases start <;> cases loej <;> simp [succeeds, media]
    simpa [usbdScsiStartStopUnit, media] using failNoMedia answered tagged fails clean .inEndpoint
  | true =>
    have result : (s.startStop start loej).1 = if s.succeeds cbw.command then 0 else 1 := by
      rw [command]
      cases start <;> cases loej <;>
        simp only [startStop, succeeds, media, openMedia_pvMedia, Bool.true_and] <;> try rfl
      · cases s.flagAllowRemoval <;> rfl
      · cases s.adapter.usbEnabled <;> rfl
    have kept : (s.startStop start loej).2.sScsiCsw = s.sScsiCsw := by
      cases start <;> cases loej <;> simp only [startStop] <;> try rfl
      all_goals split <;> rfl
    simp only [usbdScsiStartStopUnit, media, if_true]
    refine of_status answered rfl rfl ?_
    simp only [setState, setStatus, verdict, clean, result, kept, tagged]

/-- The branches that stay idle unless the command wants no data. -/
theorem of_idle (kind : cbw.command = .testUnitReady ∨ cbw.command = .unsupported)
    (silent : wireOf result.1 = [])
    (idle : cbw.dCBWDataTransferLength ≠ 0 → result.2.ui8SCSIState = .idle)
    (csw : cbw.dCBWDataTransferLength = 0 → result.2.sScsiCsw = s.verdict cbw) :
    s.Prepares cbw result where
  silent := silent
  owes data := by
    have unanswered : cbw.unanswered = true := by
      rcases kind with kind | kind <;> simp [Cbw.unanswered, kind, data]
    rw [owed, idle data, due, unanswered]
    rfl
  ready nothing := by
    have answered : cbw.unanswered = false := by simp [Cbw.unanswered, nothing]
    rw [due_of_answered answered, csw nothing]

theorem testUnitReady (idle : s.ui8SCSIState = .idle) (tagged : s.sScsiCsw = ⟨cbw.dCBWTag, 0, 0⟩)
    (command : cbw.command = .testUnitReady) : s.Prepares cbw s.testUnitReady := by
  have clean : s.residue cbw = 0 := by rw [residue, command]
  have opened : s.openMedia.sScsiCsw = s.sScsiCsw := rfl
  refine of_idle (.inl command) ?_ (fun _ => ?_) fun _ => ?_
  all_goals
    unfold Msc.testUnitReady
    split
  · rfl
  · split
    · rfl
    · split <;> rfl
  · exact idle
  · split
    · exact idle
    · split <;> exact idle
  next media => simp only [setStatus, tagged, verdict, clean, command, succeeds, media]; rfl
  next absent =>
    have noMedia : s.pvMedia = false := Bool.eq_false_iff.mpr absent
    simp only [verdict, clean, command, succeeds, noMedia, Bool.false_or]
    split
    next gone => simp [setStatus, setSense, tagged, gone]
    next there =>
      rw [openMedia_pvMedia]
      cases enabled : s.adapter.usbEnabled <;> simp [setStatus, opened, tagged, there]

theorem unsupported (idle : s.ui8SCSIState = .idle) (tagged : s.sScsiCsw = ⟨cbw.dCBWTag, 0, 0⟩)
    (command : cbw.command = .unsupported) : s.Prepares cbw (s.unsupported cbw) := by
  unfold Msc.unsupported
  split
  next data =>
    exact of_idle (.inr command) rfl (fun _ => rfl) fun nothing => absurd nothing data
  next nothing =>
    refine of_idle (.inr command) rfl (fun _ => idle) fun _ => ?_
    simp only [setSense, setStatus, verdict, residue, command, succeeds, tagged]
    rfl

theorem readCapacity (answered : cbw.unanswered = false)
    (tagged : s.sScsiCsw = ⟨cbw.dCBWTag, 0, 0⟩) (command : cbw.command = .readCapacity) :
    s.Prepares cbw s.usbdScsiReadCapacity := by
  have clean : s.residue cbw = 0 := by rw [residue, command]
  cases media : s.pvMedia with
  | true =>
    simp only [usbdScsiReadCapacity, media, if_true]
    refine of_status answered rfl rfl ?_
    simp only [setState, setStatus, queryBlockSize, verdict, clean, command, succeeds, media,
      tagged]
    rfl
  | false =>
    have fails : s.queryBlockSize.succeeds cbw.command = false := by rw [command]; exact media
    have refused := failNoMedia (s := s.queryBlockSize) answered tagged fails clean .inEndpoint
    simp only [usbdScsiReadCapacity, media, Bool.false_eq_true, if_false]
    exact ⟨refused.silent, refused.owes, refused.ready⟩

theorem dispatch (sizes : s.BlockSizes) (idle : s.ui8SCSIState = .idle)
    (tagged : s.sScsiCsw = ⟨cbw.dCBWTag, 0, 0⟩) : s.Prepares cbw (s.dispatch cbw) := by
  have answered : cbw.command ≠ .testUnitReady → cbw.command ≠ .unsupported →
      cbw.unanswered = false := by
    intro notReady known
    simp [Cbw.unanswered, notReady, known]
  cases command : cbw.command with
  | read10 cbwcb =>
    exact blocks .read (answered (by simp [command]) (by simp [command])) sizes tagged command
  | write10 cbwcb =>
    exact blocks .write (answered (by simp [command]) (by simp [command])) sizes tagged command
  | testUnitReady =>
    rw [Msc.dispatch, command]
    exact testUnitReady idle tagged command
  | unsupported =>
    rw [Msc.dispatch, command]
    exact unsupported idle tagged command
  | startStopUnit start loej =>
    rw [Msc.dispatch, command]
    exact startStopUnit (answered (by simp [command]) (by simp [command])) tagged command
  | readCapacity =>
    rw [Msc.dispatch, command]
    exact readCapacity (answered (by simp [command]) (by simp [command])) tagged command
  | inquiry =>
    rw [Msc.dispatch, command]
    refine of_status (answered (by simp [command]) (by simp [command])) rfl rfl ?_
    simp only [usbdScsiInquiry, setState, setStatus, verdict, residue, command, succeeds, tagged]
    rfl
  | requestSense =>
    rw [Msc.dispatch, command]
    refine of_status (answered (by simp [command]) (by simp [command])) rfl rfl ?_
    simp only [usbdScsiRequestSense, setState, setStatus, verdict, residue, command, succeeds,
      tagged]
    rfl
  | readCapacities =>
    rw [Msc.dispatch, command]
    have quick := answered (by simp [command]) (by simp [command])
    refine of_media quick tagged (by rw [command]; rfl) (fun _ => by rw [residue, command]) _
      fun media => of_status quick rfl rfl ?_
    simp only [setState, setStatus, queryBlockSize, verdict, residue, command, succeeds, media,
      tagged]
    rfl
  | modeSense6 =>
    rw [Msc.dispatch, command]
    have quick := answered (by simp [command]) (by simp [command])
    refine of_media quick tagged (by rw [command]; rfl) (fun absent => ?_) _
      fun media => of_status quick rfl rfl ?_
    · simp [residue, command, absent]
    · simp only [setState, setStatus, verdict, residue, command, succeeds, media, tagged]
      rfl
  | mediumRemoval allow =>
    rw [Msc.dispatch, command]
    have quick := answered (by simp [command]) (by simp [command])
    refine of_media quick tagged (by rw [command]; rfl) (fun _ => by rw [residue, command]) _
      fun media => of_status quick rfl rfl ?_
    simp only [setState, setStatus, verdict, residue, command, succeeds, media, tagged]
    rfl

end Prepares

section Orderly

variable {s : Msc}

theorem followAll_sendStatus {due : Csw} (csw : s.sScsiCsw = due) :
    followAll (some due) (wireOf s.usbdScsiSendStatus.1) = some s.usbdScsiSendStatus.2.owed := by
  rw [← csw]
  exact followAll_reply s.sScsiCsw []

theorem owed_sendBlocks (state : s.ui8SCSIState = .sendBlocks) :
    s.owed = some ⟨s.sScsiCsw.dCSWTag, 0, 0⟩ := by rw [owed, state]

theorem owed_receiveBlocks (state : s.ui8SCSIState = .receiveBlocks) :
    s.owed = some ⟨s.sScsiCsw.dCSWTag, 0, 0⟩ := by rw [owed, state]

theorem owed_sendStatus (state : s.ui8SCSIState = .sendStatus) : s.owed = some s.sScsiCsw := by
  rw [owed, state]

theorem owed_idle (state : s.ui8SCSIState = .idle) : s.owed = none := by rw [owed, state]

theorem followAll_sendBlock (irq : EndpointIrq) (state : s.ui8SCSIState = .sendBlocks) :
    followAll s.owed (wireOf (s.sendBlock irq).1) = some (s.sendBlock irq).2.owed := by
  rw [owed_sendBlocks state]
  unfold sendBlock
  split
  next =>
    split
    next => rfl
    next => exact followAll_sendStatus rfl
  next =>
    have moved : s.countBlock.nextBlock.blockRead.2.2.ui8SCSIState = .sendBlocks := state
    rw [andThen, owed_sendBlocks moved]
    rfl

theorem followAll_receiveBlock (irq : EndpointIrq) (state : s.ui8SCSIState = .receiveBlocks) :
    followAll s.owed (wireOf (s.receiveBlock irq).1) = some (s.receiveBlock irq).2.owed := by
  rw [owed_receiveBlocks state]
  simp only [receiveBlock, andThen]
  split
  next => exact followAll_sendStatus rfl
  next =>
    have moved : (s.countBlock.setBuffer irq.received).blockWrite.2.2.nextBlock.ui8SCSIState =
      .receiveBlocks := state
    rw [owed_receiveBlocks moved]
    rfl

theorem followAll_handleIn (irq : EndpointIrq) :
    followAll s.owed (wireOf (s.handleIn irq).1) = some (s.handleIn irq).2.owed := by
  unfold handleIn
  split
  next =>
    split
    next state => exact followAll_sendBlock irq state
    next state =>
      rw [owed_sendStatus state]
      exact followAll_sendStatus rfl
    next state =>
      rw [owed, state]
      rfl
    next => rfl
  next => rfl

theorem followAll_usbdScsiCommand (sizes : s.BlockSizes) (idle : s.ui8SCSIState = .idle)
    {cbw : Cbw} (tagged : s.sScsiCsw = ⟨cbw.dCBWTag, 0, 0⟩) :
    followAll (s.due cbw) (wireOf (s.usbdScsiCommand cbw).1) =
      some (s.usbdScsiCommand cbw).2.owed := by
  have prepared : s.Prepares cbw (s.dispatch cbw) := .dispatch sizes idle tagged
  unfold usbdScsiCommand
  split
  next nothing =>
    rw [← prepared.ready nothing, andThen, wireOf_append, prepared.silent]
    exact followAll_sendStatus rfl
  next data => rw [prepared.silent, prepared.owes data, followAll_nil]

theorem followAll_wireOut (sizes : s.BlockSizes) (irq : EndpointIrq) :
    followAll s.owed (s.wireOut irq) = some (s.handleOut irq).2.owed := by
  unfold wireOut taken handleOut
  cases (irq.outStatus || s.flagDmaOut && irq.outDmaComplete) with
  | false => rfl
  | true =>
    rw [Bool.true_and, if_pos rfl]
    cases state : s.ui8SCSIState with
    | receiveBlocks => exact followAll_receiveBlock irq state
    | idle =>
      rw [owed_idle state]
      simp only [receiveCommand, decide_true, if_true]
      cases irq.packet with
      | none => rfl
      | some cbw =>
        have tagged : { s with sScsiCsw := ⟨cbw.dCBWTag, 0, 0⟩ }.BlockSizes := sizes.of_same
        exact followAll_usbdScsiCommand tagged state rfl
    | _ => rfl

theorem followAll_wire (sizes : s.BlockSizes) (act : MscAct) :
    followAll s.owed (s.wire act) = some (s.perform act).2.owed := by
  cases act with
  | endpoints irq =>
    have first := followAll_handleIn (s := s) irq
    exact followAll_trans first (followAll_wireOut (sizes.handleIn irq) irq)
  | disconnect =>
    simp only [wire, perform, handleDisconnect, followAll_nil]
    split <;> rfl
  | _ => rfl

end Orderly

/-- In every run from boot the status wrappers that have been sent, with the one that is
owed, are those due to the commands that have been taken: each once, in their order, as fixed
when its command was taken, and none is taken while one is owed. -/
theorem transport_orderly (flash : Bytes) (acts : List MscAct) :
    let trace := (transport.answers (boot flash) acts).flatten
    let owes := (machine.after (boot flash) acts).owed
    followAll none trace = some owes ∧ replies trace ++ owes.toList = dues trace := by
  have orderly := followAll_outputs transport BlockSizes owed
    (fun act sizes => BlockSizes.perform sizes act) (fun act sizes => followAll_wire sizes act) acts
    (blockSizes_boot flash)
  rw [transport_after] at orderly
  exact ⟨orderly, replies_owed _ orderly⟩

end Msc

end TildaMk4.Usb
