import Mathlib.Tactic.SplitIfs
import TildaMk4.Lib.Transition

/-!
# `WLAN.active`

`network_stalan_active` of `network_stalan.c` and the network processor that it starts
and stops. What SimpleLink answers is in the label of a call.
-/

namespace TildaMk4.Wifi.Active

open Transition

/-- `ROLE_STA` of SimpleLink. -/
def roleSta : Int16 := 0

/-- The role that the processor runs in; `none` while it is not started. -/
structure Processor where
  role : Option Int16
  deriving DecidableEq

/-- `sl_Start` answers the role that the processor has come up in, or an error. -/
def Processor.slStart (p : Processor) (answer : Int16) : Processor :=
  if answer < 0 then p else ⟨some answer⟩

def Processor.slStop (p : Processor) (answer : Int16) : Processor :=
  if answer < 0 then p else ⟨none⟩

/-- What the SimpleLink calls answer, those that are made. -/
structure Answers where
  deviceGet : Int16
  deviceGetAgain : Int16
  start : Int16
  wlanSetMode : Int16
  stop : Int16
  restart : Int16

/-- `sl_DeviceGet` answers 0 exactly while the processor is started. -/
def Answers.Fit (a : Answers) (p : Processor) : Prop :=
  (a.deviceGet = 0 ↔ p.role.isSome) ∧ (a.deviceGetAgain = 0 ↔ p.role.isSome)

instance (a : Answers) (p : Processor) : Decidable (a.Fit p) :=
  inferInstanceAs (Decidable (_ ∧ _))

/-- A line that is printed, with the number in it. -/
structure Line where
  text : String
  status : Int16
  deriving DecidableEq

/-- How a call ends; `none` is the result variable unassigned. -/
structure Outcome where
  result : Option Bool
  printed : List Line
  processor : Processor
  deriving DecidableEq

/-- `active()` or `active(activate)`. -/
inductive Request
  | query
  | set (activate : Bool)
  deriving DecidableEq

def roleChange : Line := ⟨"network_stalan_active sl_stop for role change: %d\n", 0⟩

/-- The branch of `activate && status != 0`. -/
def activate (p : Processor) (a : Answers) : Outcome :=
  let started := p.slStart a.start
  if a.start < 0 then
    ⟨some false, [⟨"network_stalan_active error sl_start: %d\n", a.start⟩], started⟩
  else if a.start ≠ roleSta then
    if a.wlanSetMode < 0 then
      ⟨some false, [⟨"network_stalan_active error sl_wlansetmode error: %d\n", a.wlanSetMode⟩],
        started⟩
    else
      let stopped := started.slStop a.stop
      if a.stop < 0 then ⟨some false, [roleChange, ⟨"stop: %d\n", a.stop⟩], stopped⟩
      else
        let restarted := stopped.slStart a.restart
        if a.restart ≠ roleSta then
          ⟨some false, [roleChange, ⟨"start: %d\n", a.restart⟩], restarted⟩
        else ⟨some true, [roleChange], restarted⟩
  else ⟨some true, [], started⟩

def networkStalanActive (p : Processor) (a : Answers) : Request → Outcome
  | .query => ⟨some (a.deviceGetAgain = 0), [], p⟩
  | .set true => if a.deviceGet ≠ 0 then activate p a else ⟨none, [], p⟩
  | .set false =>
    -- the answer of `sl_Stop` is not looked at
    ⟨some false, [⟨"network_stalan_active sl_stop deactivate: %d\n", 0⟩], p.slStop a.stop⟩

/-- A call that has returned. -/
structure Report where
  request : Request
  outcome : Outcome
  deriving DecidableEq

/-- What the answer is to say of the processor as the call leaves it. -/
def Request.Asks (p : Processor) : Request → Prop
  | .set true => p.role = some roleSta
  | .query | .set false => p.role.isSome = true

/-- The answer is `True` or `False`, and true. -/
def Report.Truthful (report : Report) : Prop :=
  ∃ answer, report.outcome.result = some answer ∧
    (answer = true ↔ report.request.Asks report.outcome.processor)

/-- Calls one after the other, with answers that fit. -/
def system : System Processor (Request × Answers) Report where
  step p call :=
    if call.2.Fit p then
      let outcome := networkStalanActive p call.2 call.1
      some (outcome.processor, some ⟨call.1, outcome⟩)
    else none

/-- `active(True)` is called only while the processor is not started, and where
`active(False)` is called while it is, `sl_Stop` succeeds. -/
def Admits (p : Processor) : Request × Answers → Prop
  | (.query, _) => True
  | (.set true, _) => p.role = none
  | (.set false, a) => p.role = none ∨ ¬a.stop < 0

instance (p : Processor) (call : Request × Answers) : Decidable (Admits p call) := by
  unfold Admits
  split <;> infer_instance

section Activate

variable {p : Processor} {a : Answers} {answer : Int16}

theorem slStart_failed (failed : answer < 0) : p.slStart answer = p := if_pos failed

theorem slStart_done (done : ¬answer < 0) : p.slStart answer = ⟨some answer⟩ := if_neg done

theorem slStop_failed (failed : answer < 0) : p.slStop answer = p := if_pos failed

theorem slStop_done (done : ¬answer < 0) : p.slStop answer = ⟨none⟩ := if_neg done

theorem roleSta_nonneg : ¬roleSta < 0 := by decide

/-- Starting a processor that is stopped answers whether it runs as a station then. -/
theorem activate_result (stopped : p.role = none) :
    ∃ answer, (activate p a).result = some answer ∧
      (answer = true ↔ (activate p a).processor.role = some roleSta) := by
  unfold activate
  dsimp only
  split
  next failed => exact ⟨false, rfl, by simp [slStart_failed failed, stopped]⟩
  next started =>
    rw [slStart_done started]
    split
    next otherRole =>
      split
      next => exact ⟨false, rfl, by simp [otherRole]⟩
      next =>
        split
        next failed => exact ⟨false, rfl, by simp [slStop_failed failed, otherRole]⟩
        next done =>
          rw [slStop_done done]
          split
          next otherAgain =>
            refine ⟨false, rfl, ?_⟩
            by_cases failed : a.restart < 0
            · simp [slStart_failed failed]
            · simp [slStart_done failed, otherAgain]
          next station =>
            have same : a.restart = roleSta := Classical.not_not.mp station
            exact ⟨true, rfl, by simp [same, slStart_done roleSta_nonneg]⟩
    next station =>
      have same : a.start = roleSta := Classical.not_not.mp station
      exact ⟨true, rfl, by simp [same]⟩

/-- An activation that answers `False` has printed which call failed. -/
theorem activate_printed (refused : (activate p a).result = some false) :
    (activate p a).printed ≠ [] := by
  unfold activate at refused ⊢
  dsimp only at refused ⊢
  split_ifs at refused ⊢
  any_goals exact List.cons_ne_nil _ _
  all_goals cases refused

end Activate

/-- A call answers the truth exactly if it is admitted. -/
theorem truthful_iff {p : Processor} {a : Answers} (fit : a.Fit p) (request : Request) :
    Report.Truthful ⟨request, networkStalanActive p a request⟩ ↔ Admits p (request, a) := by
  cases request with
  | query =>
    refine iff_of_true ⟨_, rfl, ?_⟩ trivial
    exact decide_eq_true_iff.trans fit.2
  | set activate_ =>
    cases activate_ with
    | true =>
      simp only [Report.Truthful, networkStalanActive, Admits, Request.Asks]
      split
      next stopped =>
        have none_ : p.role = none := Option.not_isSome_iff_eq_none.mp (mt fit.1.mpr stopped)
        exact iff_of_true (activate_result none_) none_
      next started =>
        have some_ := fit.1.mp (Classical.not_not.mp started)
        refine iff_of_false (fun ⟨_, unassigned, _⟩ => nomatch unassigned) fun none_ => ?_
        rw [none_] at some_
        cases some_
    | false =>
      simp only [Report.Truthful, networkStalanActive, Admits, Request.Asks]
      by_cases failed : a.stop < 0
      · simp [slStop_failed failed, failed, Option.isSome_iff_ne_none]
      · simp [slStop_done failed, failed]

/-- In the runs of admitted calls every answer is `True` or `False`, and true; and wherever
a run of any calls has come to, the next answer is so exactly if the call is admitted. -/
theorem active_truthful_iff (start : Processor) :
    system.Characterises start Admits Report.Truthful := by
  refine System.characterises_of_invariant (fun _ => True) trivial (fun _ _ => trivial) ?_
  rintro p ⟨request, a⟩ p' emitted - stepped
  simp only [system] at stepped
  split at stepped
  next fit =>
    cases stepped
    exact ⟨fun all => (truthful_iff fit request).mp (all _ rfl), fun admitted o same => by
      cases same
      exact (truthful_iff fit request).mpr admitted⟩
  next => cases stepped

theorem Report.not_truthful_of_unassigned {report : Report}
    (unassigned : report.outcome.result = none) : ¬report.Truthful := by
  rintro ⟨answer, assigned, _⟩
  rw [unassigned] at assigned
  cases assigned

/-- The processor comes up as a station; a second `active(True)` then assigns no result. -/
theorem active_unassigned : ∃ history s,
    system.Run (fun _ _ => True) ⟨none⟩ history s ∧ ∃ report ∈ history, ¬report.Truthful := by
  obtain ⟨history, s, run, found⟩ := System.exists_run_of_exec system (fun _ _ => True) ⟨none⟩
    [(.set true, ⟨-2014, -2014, 0, 0, 0, 0⟩), (.set true, ⟨0, 0, 0, 0, 0, 0⟩)]
    (fun reached => ∃ report ∈ reached.1, report.outcome.result = none) (by decide)
  obtain ⟨report, member, unassigned⟩ := of_decide_eq_true found
  exact ⟨history, s, run, report, member, Report.not_truthful_of_unassigned unassigned⟩

end TildaMk4.Wifi.Active
