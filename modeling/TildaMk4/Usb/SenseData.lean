import TildaMk4.Usb.StatusWrappers

/-!
# The sense data of the mass-storage device

A command that fails may leave its reason for a later REQUEST SENSE. `failure` says which
commands do; a TEST UNIT READY or a START STOP UNIT that cannot open the media does not.
-/

namespace TildaMk4.Usb

open Storage Transition

inductive SenseEvent
  | failed (senseKey : SenseKey) (addSenseCode : AddSenseCode)
  | asked (errorCode : ErrorCode) (senseKey : SenseKey) (addSenseCode : AddSenseCode)
  deriving DecidableEq

namespace SenseEvent

def failure : SenseEvent → Option (SenseKey × AddSenseCode)
  | failed senseKey addSenseCode => some (senseKey, addSenseCode)
  | asked .. => none

/-- The reason of the last failure; before any, what the device starts with. -/
def lastFailure (history : List SenseEvent) : SenseKey × AddSenseCode :=
  (history.filterMap failure).getLast?.getD (.notReady, .medNotPrsnt)

/-- Nobody has asked since the last failure. -/
def Fresh (history : List SenseEvent) : Prop :=
  ∃ earlier senseKey addSenseCode, history = earlier ++ [failed senseKey addSenseCode]

/-- An answer names the last failure, and says that it is new exactly if it is. -/
def Reports (history : List SenseEvent) : SenseEvent → Prop
  | failed .. => True
  | asked errorCode senseKey addSenseCode =>
    (errorCode = .validCurErrors ↔ Fresh history) ∧ (senseKey, addSenseCode) = lastFailure history

theorem lastFailure_failed (history : List SenseEvent) (senseKey : SenseKey)
    (addSenseCode : AddSenseCode) :
    lastFailure (history ++ [failed senseKey addSenseCode]) = (senseKey, addSenseCode) := by
  simp [lastFailure, failure]

theorem lastFailure_asked (history : List SenseEvent) (errorCode : ErrorCode)
    (senseKey : SenseKey) (addSenseCode : AddSenseCode) :
    lastFailure (history ++ [asked errorCode senseKey addSenseCode]) = lastFailure history := by
  simp [lastFailure, failure]

theorem fresh_failed (history : List SenseEvent) (senseKey : SenseKey)
    (addSenseCode : AddSenseCode) : Fresh (history ++ [failed senseKey addSenseCode]) :=
  ⟨history, senseKey, addSenseCode, rfl⟩

theorem not_fresh_asked (history : List SenseEvent) (errorCode : ErrorCode)
    (senseKey : SenseKey) (addSenseCode : AddSenseCode) :
    ¬Fresh (history ++ [asked errorCode senseKey addSenseCode]) := by
  rintro ⟨earlier, key, code, same⟩
  have last := congrArg List.getLast? same
  rw [List.getLast?_concat, List.getLast?_concat] at last
  cases last

theorem not_fresh_nil : ¬Fresh [] := by
  rintro ⟨earlier, key, code, same⟩
  exact List.append_ne_nil_of_right_ne_nil earlier (List.cons_ne_nil _ _) same.symm

end SenseEvent

def MscEvent.sense : MscEvent → List SenseEvent
  | .dataIn (.requestSense errorCode senseKey addSenseCode) =>
    [.asked errorCode senseKey addSenseCode]
  | _ => []

def senseOf (events : List MscEvent) : List SenseEvent := events.flatMap MscEvent.sense

@[simp] theorem senseOf_append (events more : List MscEvent) :
    senseOf (events ++ more) = senseOf events ++ senseOf more := List.flatMap_append

namespace Msc

variable (s : Msc)

/-- The reason that a command leaves, in the state in which the device takes it. -/
def failure : ScsiCommand → Option (SenseKey × AddSenseCode)
  | .inquiry | .requestSense => none
  | .unsupported => some (.ilglRqst, .pvInvalid)
  | .testUnitReady =>
    if !s.pvMedia && s.iMediaStatus = .notPresent then some (.notReady, .medNotPrsnt) else none
  | _ => if s.pvMedia then none else some (.notReady, .medNotPrsnt)

def failed (cbw : Cbw) : List SenseEvent :=
  (s.failure cbw.command).toList.map fun reason => .failed reason.1 reason.2

/-- The failures of the commands that are taken, and what REQUEST SENSE answers. -/
def sense : MscAct → List SenseEvent
  | .endpoints irq =>
    ((s.handleIn irq).2.taken irq).toList.flatMap (s.handleIn irq).2.failed ++
      senseOf (s.handleEndpoints irq).1
  | _ => []

def senses : Machine Msc MscAct (List SenseEvent) where
  perform s act := (s.sense act, (s.perform act).2)

def senseData : ErrorCode × SenseKey × AddSenseCode :=
  (s.ui8ErrorCode, s.ui8SenseKey, s.ui16AddSenseCode)

@[simp] theorem setCurrentLBA_senseData (lba : Nat) :
    (s.setCurrentLBA lba).senseData = s.senseData := rfl

@[simp] theorem countBlock_senseData : s.countBlock.senseData = s.senseData := rfl

@[simp] theorem nextBlock_senseData : s.nextBlock.senseData = s.senseData := rfl

@[simp] theorem blockRead_senseData : s.blockRead.2.2.senseData = s.senseData := rfl

@[simp] theorem blockWrite_senseData : s.blockWrite.2.2.senseData = s.senseData := rfl

@[simp] theorem setBuffer_senseData (buffer : Bytes) :
    (s.setBuffer buffer).senseData = s.senseData := rfl

@[simp] theorem setStatus_senseData (status residue : Nat) :
    (s.setStatus status residue).senseData = s.senseData := rfl

@[simp] theorem setFlagDmaOut_senseData (flag : Bool) :
    (s.setFlagDmaOut flag).senseData = s.senseData := rfl

@[simp] theorem usbdScsiSendStatus_senseData :
    s.usbdScsiSendStatus.2.senseData = s.senseData := rfl

/-- What an operation does to the sense data: nothing, a failure, or an answer. -/
inductive Senses (sense : List SenseEvent) (t : Msc) : Prop
  | quiet (silent : sense = []) (kept : t.senseData = s.senseData)
  | failed (senseKey : SenseKey) (addSenseCode : AddSenseCode)
    (records : sense = [.failed senseKey addSenseCode])
    (data : t.senseData = (.validCurErrors, senseKey, addSenseCode))
  | asked (answers : sense = [.asked s.senseData.1 s.senseData.2.1 s.senseData.2.2])
    (data : t.senseData = (.curErrors, s.senseData.2))

variable {s}

theorem failed_of_some {cbw : Cbw} {reason : SenseKey × AddSenseCode}
    (fails : s.failure cbw.command = some reason) : s.failed cbw = [.failed reason.1 reason.2] := by
  rw [failed, fails]
  rfl

theorem failed_of_none {cbw : Cbw} (works : s.failure cbw.command = none) : s.failed cbw = [] := by
  rw [failed, works]
  rfl

namespace Senses

variable {cbw : Cbw} {result : List MscEvent × Msc}

/-- A command that works and does not touch the sense data. -/
theorem works (fine : s.failure cbw.command = none) (silent : senseOf result.1 = [])
    (kept : result.2.senseData = s.senseData) :
    s.Senses (s.failed cbw ++ senseOf result.1) result.2 :=
  .quiet (by rw [failed_of_none fine, silent]; rfl) kept

theorem fails {senseKey : SenseKey} {addSenseCode : AddSenseCode}
    (reason : s.failure cbw.command = some (senseKey, addSenseCode))
    (silent : senseOf result.1 = [])
    (data : result.2.senseData = (.validCurErrors, senseKey, addSenseCode)) :
    s.Senses (s.failed cbw ++ senseOf result.1) result.2 :=
  .failed senseKey addSenseCode (by rw [failed_of_some reason, silent]; rfl) data

theorem of_media {ok : List MscEvent × Msc} {t : Msc}
    (decides : s.failure cbw.command = if s.pvMedia then none else some (.notReady, .medNotPrsnt))
    (endpoint : Endpoint)
    (fine : s.pvMedia = true → senseOf ok.1 = [] ∧ ok.2.senseData = s.senseData)
    (branch : result = if s.pvMedia then ok else t.failNoMedia endpoint) :
    s.Senses (s.failed cbw ++ senseOf result.1) result.2 := by
  cases media : s.pvMedia with
  | true =>
    rw [media, if_pos rfl] at decides branch
    rw [branch]
    exact works decides (fine media).1 (fine media).2
  | false =>
    rw [media, if_neg Bool.false_ne_true] at decides branch
    rw [branch]
    exact fails decides rfl rfl

theorem startStop (start loej : Bool) : (s.startStop start loej).2.senseData = s.senseData := by
  cases start <;> cases loej <;> simp only [Msc.startStop] <;> try rfl
  all_goals split <;> rfl

theorem testUnitReady (command : cbw.command = .testUnitReady) :
    s.Senses (s.failed cbw ++ senseOf s.testUnitReady.1) s.testUnitReady.2 := by
  unfold Msc.testUnitReady
  split
  next media => exact works (by simp [failure, command, media]) rfl rfl
  next absent =>
    have noMedia : s.pvMedia = false := Bool.eq_false_iff.mpr absent
    split
    next gone =>
      have reason : s.failure cbw.command = some (.notReady, .medNotPrsnt) := by
        simp [failure, command, noMedia, gone]
      exact fails reason rfl rfl
    next there =>
      split <;> exact works (by simp [failure, command, there]) rfl rfl

theorem unsupported (command : cbw.command = .unsupported) :
    s.Senses (s.failed cbw ++ senseOf (s.unsupported cbw).1) (s.unsupported cbw).2 := by
  have reason : s.failure cbw.command = some (.ilglRqst, .pvInvalid) := by
    rw [command]
    rfl
  unfold Msc.unsupported
  split <;> exact fails reason rfl rfl

/-- The branch of READ(10) after its first block, in which only the media have been used. -/
theorem sends (fine : s.failure cbw.command = none) (t : Msc) {events : List MscEvent}
    (silent : senseOf events = []) (numBlocks : Nat) (kept : t.senseData = s.senseData) :
    s.Senses (s.failed cbw ++ senseOf events)
      (((t.setFlagDmaIn true).schedule numBlocks).setState .sendBlocks) :=
  .quiet (by rw [failed_of_none fine, silent]; rfl) kept

theorem read10 (sizes : s.BlockSizes) {cbwcb : Vector UInt8 16}
    (command : cbw.command = .read10 cbwcb) :
    s.Senses (s.failed cbw ++ senseOf (s.dispatch cbw).1) (s.dispatch cbw).2 := by
  cases media : s.pvMedia with
  | true =>
    rw [dispatch_read10 sizes media command]
    refine sends (by simp [failure, command, media]) _ rfl _ ?_
    rw [blockRead_senseData, setCurrentLBA_senseData]
  | false =>
    have reason : s.failure cbw.command = some (.notReady, .medNotPrsnt) := by
      simp [failure, command, media]
    simp only [Msc.dispatch, command, usbdScsiRead10, media, Bool.false_eq_true, if_false]
    exact fails reason rfl rfl

theorem dispatch (sizes : s.BlockSizes) :
    s.Senses (s.failed cbw ++ senseOf (s.dispatch cbw).1) (s.dispatch cbw).2 := by
  cases command : cbw.command with
  | inquiry =>
    exact works (by rw [command]; rfl) (by rw [Msc.dispatch, command]; rfl)
      (by rw [Msc.dispatch, command]; rfl)
  | testUnitReady =>
    rw [Msc.dispatch, command]
    exact testUnitReady command
  | requestSense =>
    rw [Msc.dispatch, command, failed_of_none (by rw [command]; rfl)]
    exact .asked rfl rfl
  | unsupported =>
    rw [Msc.dispatch, command]
    exact unsupported command
  | readCapacities =>
    exact of_media (t := s) (by rw [command]; rfl) .inEndpoint (fun _ => ⟨rfl, rfl⟩)
      (by rw [Msc.dispatch, command]; rfl)
  | readCapacity =>
    exact of_media (t := s.queryBlockSize) (by rw [command]; rfl) .inEndpoint (fun _ => ⟨rfl, rfl⟩)
      (by rw [Msc.dispatch, command]; rfl)
  | write10 cbwcb =>
    exact of_media (t := s) (by rw [command]; rfl) .outEndpoint (fun _ => ⟨rfl, rfl⟩)
      (by rw [Msc.dispatch, command]; rfl)
  | modeSense6 =>
    exact of_media (t := s) (by rw [command]; rfl) .inEndpoint (fun _ => ⟨rfl, rfl⟩)
      (by rw [Msc.dispatch, command]; rfl)
  | mediumRemoval allow =>
    exact of_media (t := s) (by rw [command]; rfl) .inEndpoint (fun _ => ⟨rfl, rfl⟩)
      (by rw [Msc.dispatch, command]; rfl)
  | startStopUnit start loej =>
    exact of_media (t := s) (by rw [command]; rfl) .inEndpoint
      (fun _ => ⟨rfl, startStop start loej⟩)
      (by rw [Msc.dispatch, command]; rfl)
  | read10 cbwcb => exact read10 sizes command

theorem of_same {t u : Msc} {sense : List SenseEvent} (senses : t.Senses sense u)
    (same : t.senseData = s.senseData) {v : Msc} (after : v.senseData = u.senseData) :
    s.Senses sense v := by
  cases senses with
  | quiet silent kept => exact .quiet silent (after.trans (kept.trans same))
  | failed senseKey addSenseCode records data => exact .failed _ _ records (after.trans data)
  | asked answers data =>
    rw [same] at answers data
    exact .asked answers (after.trans data)

theorem handleIn (irq : EndpointIrq) :
    senseOf (s.handleIn irq).1 = [] ∧ (s.handleIn irq).2.senseData = s.senseData := by
  unfold Msc.handleIn
  split
  next =>
    split
    next =>
      unfold sendBlock
      split
      next => split <;> exact ⟨rfl, rfl⟩
      next =>
        refine ⟨rfl, ?_⟩
        rw [andThen, blockRead_senseData, nextBlock_senseData, countBlock_senseData]
    next => exact ⟨rfl, rfl⟩
    next => exact ⟨rfl, rfl⟩
    next => exact ⟨rfl, rfl⟩
  next => exact ⟨rfl, rfl⟩

theorem receiveBlock (irq : EndpointIrq) :
    senseOf (s.receiveBlock irq).1 = [] ∧ (s.receiveBlock irq).2.senseData = s.senseData := by
  simp only [Msc.receiveBlock, andThen]
  split
  next => exact ⟨rfl, by simp⟩
  next => exact ⟨rfl, by simp⟩

theorem usbdScsiCommand (sizes : s.BlockSizes) (cbw : Cbw) :
    s.Senses (s.failed cbw ++ senseOf (s.usbdScsiCommand cbw).1) (s.usbdScsiCommand cbw).2 := by
  have senses : s.Senses (s.failed cbw ++ senseOf (s.dispatch cbw).1) (s.dispatch cbw).2 :=
    dispatch sizes
  unfold Msc.usbdScsiCommand
  split
  next =>
    have nothing : senseOf (s.dispatch cbw).2.usbdScsiSendStatus.1 = [] := rfl
    rw [andThen, senseOf_append, nothing, List.append_nil]
    exact of_same senses rfl rfl
  next => exact senses

theorem handleOut (sizes : s.BlockSizes) (irq : EndpointIrq) :
    s.Senses ((s.taken irq).toList.flatMap s.failed ++ senseOf (s.handleOut irq).1)
      (s.handleOut irq).2 := by
  unfold taken Msc.handleOut
  cases (irq.outStatus || s.flagDmaOut && irq.outDmaComplete) with
  | false => exact .quiet rfl rfl
  | true =>
    rw [Bool.true_and, if_pos rfl]
    cases s.ui8SCSIState with
    | receiveBlocks => exact .quiet (receiveBlock irq).1 (receiveBlock irq).2
    | idle =>
      simp only [receiveCommand, decide_true, if_true]
      cases irq.packet with
      | none => exact .quiet rfl rfl
      | some cbw =>
        have tagged : { s with sScsiCsw := ⟨cbw.dCBWTag, 0, 0⟩ }.BlockSizes := sizes.of_same
        simp only [Option.toList_some, List.flatMap_singleton]
        exact of_same (s := s) (usbdScsiCommand tagged cbw) rfl rfl
    | _ => exact .quiet rfl rfl

theorem perform (sizes : s.BlockSizes) (act : MscAct) :
    s.Senses (s.sense act) (s.perform act).2 := by
  cases act with
  | endpoints irq =>
    have quiet := handleIn (s := s) irq
    have senses := of_same (handleOut (sizes.handleIn irq) irq) quiet.2 rfl
    have both : senseOf (s.handleEndpoints irq).1 =
        senseOf ((s.handleIn irq).2.handleOut irq).1 := by
      rw [handleEndpoints, andThen, senseOf_append, quiet.1, List.nil_append]
    rw [sense, both]
    exact senses
  | disconnect =>
    refine .quiet rfl ?_
    simp only [Msc.perform, handleDisconnect]
    split <;> rfl
  | _ => exact .quiet rfl rfl

end Senses

theorem senses_after (acts : List MscAct) : ∀ s, senses.after s acts = machine.after s acts := by
  induction acts with
  | nil => exact fun _ => rfl
  | cons act rest ih => exact fun s => ih (s.perform act).2

/-- How the sense data stand to the failures and questions so far. -/
structure Remembers (history : List SenseEvent) (s : Msc) : Prop where
  sizes : s.BlockSizes
  along : Along SenseEvent.Reports history
  fresh : s.senseData.1 = .validCurErrors ↔ SenseEvent.Fresh history
  last : s.senseData.2 = SenseEvent.lastFailure history

theorem remembers_boot (flash : Bytes) : Remembers [] (boot flash) where
  sizes := blockSizes_boot flash
  along := along_nil _
  fresh := iff_of_false ErrorCode.noConfusion SenseEvent.not_fresh_nil
  last := rfl

theorem Remembers.perform {history : List SenseEvent} (remembers : Remembers history s)
    (act : MscAct) : Remembers (history ++ s.sense act) (s.perform act).2 := by
  have sizes := remembers.sizes.perform act
  have along := remembers.along
  cases Senses.perform remembers.sizes act with
  | quiet silent kept =>
    rw [silent, List.append_nil]
    exact ⟨sizes, along, kept ▸ remembers.fresh, kept ▸ remembers.last⟩
  | failed senseKey addSenseCode records data =>
    rw [records]
    refine ⟨sizes, along.concat ?_, ?_, ?_⟩
    · trivial
    · rw [data]
      exact iff_of_true rfl (SenseEvent.fresh_failed ..)
    · rw [data, SenseEvent.lastFailure_failed]
  | asked answers data =>
    rw [answers]
    refine ⟨sizes, along.concat ?_, ?_, ?_⟩
    · exact ⟨remembers.fresh, remembers.last⟩
    · rw [data]
      exact iff_of_false ErrorCode.noConfusion (SenseEvent.not_fresh_asked history _ _ _)
    · rw [data, SenseEvent.lastFailure_asked, ← remembers.last]

end Msc

end TildaMk4.Usb
