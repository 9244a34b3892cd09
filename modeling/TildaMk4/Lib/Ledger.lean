import Mathlib.Data.List.Induction
import Mathlib.Logic.Function.Basic
import TildaMk4.Lib.Transition

/-!
# Resources that are issued and released

A ledger numbers what is issued (allocations, handles) in the order of issue, and
knows which numbers are still held. A number is never issued twice, so one that has
been released stays released. A trace is lawful if it uses and releases only what is
held; a ledger that is kept along a trace decides it, and so does each step of a system
that keeps one.
-/

namespace TildaMk4.Resources

open Transition

universe u v w

/-- What is held under each number. -/
structure Ledger (Info : Type u) where
  issued : Nat
  held : Nat → Option Info
  fresh : ∀ id, issued ≤ id → held id = none

namespace Ledger

variable {Info : Type u}

def empty : Ledger Info := ⟨0, fun _ => none, fun _ _ => rfl⟩

/-- Issue the next number. -/
def issue (ledger : Ledger Info) (info : Info) : Ledger Info where
  issued := ledger.issued + 1
  held := Function.update ledger.held ledger.issued (some info)
  fresh id later := by
    rw [Function.update_of_ne (Nat.ne_of_gt later)]
    exact ledger.fresh id (Nat.le_of_succ_le later)

def release (ledger : Ledger Info) (id : Nat) : Ledger Info where
  issued := ledger.issued
  held := Function.update ledger.held id none
  fresh other later := by
    by_cases same : other = id
    · rw [same, Function.update_self]
    · rw [Function.update_of_ne same]
      exact ledger.fresh other later

variable {ledger : Ledger Info} {info : Info} {id other : Nat}

@[simp] theorem held_issue_self : (ledger.issue info).held ledger.issued = some info :=
  Function.update_self ..

@[simp] theorem held_release_self : (ledger.release id).held id = none :=
  Function.update_self ..

theorem held_release_of_ne (other_ : other ≠ id) :
    (ledger.release id).held other = ledger.held other :=
  Function.update_of_ne other_ ..

theorem lt_of_held (held : ledger.held id = some info) : id < ledger.issued := by
  by_contra later
  rw [ledger.fresh id (Nat.le_of_not_lt later)] at held
  nomatch held

theorem held_issue_of_held {new : Info} (held : ledger.held id = some info) :
    (ledger.issue new).held id = some info := by
  rw [← held]
  exact Function.update_of_ne (Nat.ne_of_lt (lt_of_held held)) ..

end Ledger

/-! ## Traces -/

inductive Event (Info : Type u)
  | issued (id : Nat) (info : Info)
  | used (id : Option Nat)
  | released (id : Option Nat)
  deriving DecidableEq

variable {Info : Type u}

/-- `id` has been issued, and not been released since. -/
def HeldAfter (trace : List (Event Info)) (id : Option Nat) : Prop :=
  ∃ n info, id = some n ∧ .issued n info ∈ trace ∧ .released (some n) ∉ trace

/-- Only what is held is used and released: nothing is released twice or used
afterwards, and `none` is neither. -/
def Lawful (trace : List (Event Info)) : Prop :=
  Along (fun before event =>
    match event with
    | .issued _ _ => True
    | .used id | .released id => HeldAfter before id) trace

namespace Ledger

/-- What an event does to the ledger. -/
def record (ledger : Ledger Info) : Event Info → Ledger Info
  | .issued _ info => ledger.issue info
  | .used _ => ledger
  | .released none => ledger
  | .released (some id) => ledger.release id

def recordAll (ledger : Ledger Info) (trace : List (Event Info)) : Ledger Info :=
  trace.foldl record ledger

/-- An event that is lawful where the ledger stands. -/
def Allows (ledger : Ledger Info) : Event Info → Prop
  | .issued id _ => id = ledger.issued
  | .used id | .released id => ∃ n info, id = some n ∧ ledger.held n = some info

def AllowsAll (ledger : Ledger Info) : List (Event Info) → Prop
  | [] => True
  | event :: rest => ledger.Allows event ∧ (ledger.record event).AllowsAll rest

variable {ledger : Ledger Info}

@[simp] theorem record_used (id : Option Nat) : ledger.record (.used id) = ledger := rfl

@[simp] theorem recordAll_cons (event : Event Info) (rest : List (Event Info)) :
    ledger.recordAll (event :: rest) = (ledger.record event).recordAll rest := rfl

theorem recordAll_append (first second : List (Event Info)) :
    ledger.recordAll (first ++ second) = (ledger.recordAll first).recordAll second :=
  List.foldl_append ..

theorem allowsAll_append (first second : List (Event Info)) :
    ledger.AllowsAll (first ++ second) ↔
      ledger.AllowsAll first ∧ (ledger.recordAll first).AllowsAll second := by
  induction first generalizing ledger with
  | nil => exact (iff_of_eq (true_and _)).symm
  | cons event rest ih =>
    rw [List.cons_append, AllowsAll, AllowsAll, ih, recordAll_cons, and_assoc]

theorem allowsAll_singleton (event : Event Info) :
    ledger.AllowsAll [event] ↔ ledger.Allows event :=
  iff_of_eq (and_true _)

/-- The ledger holds what the trace has left. -/
structure Tracks (ledger : Ledger Info) (trace : List (Event Info)) : Prop where
  held : ∀ n info, ledger.held n = some info ↔
    .issued n info ∈ trace ∧ .released (some n) ∉ trace
  bound : ∀ n, (.released (some n) ∈ trace ∨ ∃ info, .issued n info ∈ trace) → n < ledger.issued

variable {trace : List (Event Info)}

theorem tracks_empty : Tracks (empty : Ledger Info) [] :=
  ⟨fun _ _ => iff_of_false nofun (fun ⟨member, _⟩ => List.not_mem_nil member),
    fun _ before => before.elim (fun member => absurd member List.not_mem_nil)
      fun ⟨_, member⟩ => absurd member List.not_mem_nil⟩

theorem Tracks.heldAfter (tracks : Tracks ledger trace) {id : Option Nat} :
    HeldAfter trace id ↔ ∃ n info, id = some n ∧ ledger.held n = some info :=
  exists_congr fun n => exists_congr fun info => and_congr_right fun _ => (tracks.held n info).symm

theorem Tracks.snoc (tracks : Tracks ledger trace) {event : Event Info}
    (allowed : ledger.Allows event) : Tracks (ledger.record event) (trace ++ [event]) := by
  cases event with
  | issued id info =>
    obtain rfl : id = ledger.issued := allowed
    refine ⟨fun n other => ?_, fun n before => ?_⟩
    · have kept : .released (some n) ∉ trace ++ [.issued ledger.issued info] ↔
          .released (some n) ∉ trace := by
        simp
      rw [kept, List.mem_append, List.mem_singleton]
      by_cases newest : n = ledger.issued
      · have unseen : .released (some n) ∉ trace := fun released =>
          absurd (tracks.bound n (.inl released)) (newest ▸ Nat.lt_irrefl _)
        have fresh : Event.issued n other ∉ trace := fun issued =>
          absurd (tracks.bound n (.inr ⟨other, issued⟩)) (newest ▸ Nat.lt_irrefl _)
        rw [newest] at unseen fresh ⊢
        rw [record, held_issue_self, and_iff_left unseen, or_iff_right fresh]
        exact ⟨fun same => by rw [Option.some.inj same], fun same => by cases same; rfl⟩
      · have elsewhere : ¬Event.issued n other = .issued ledger.issued info := fun same =>
          newest (Event.issued.inj same).1
        rw [or_iff_left elsewhere, ← tracks.held]
        exact Eq.congr_left (Function.update_of_ne newest ..)
    · have earlier : .released (some n) ∈ trace ∨
          (∃ info, .issued n info ∈ trace) ∨ n = ledger.issued := by
        simpa [or_assoc, exists_or] using before
      rcases earlier with released | issued | newest
      · exact Nat.lt_succ_of_lt (tracks.bound n (.inl released))
      · exact Nat.lt_succ_of_lt (tracks.bound n (.inr issued))
      · rw [newest]
        exact Nat.lt_succ_self _
  | used id =>
    refine ⟨fun n info => ?_, fun n before => tracks.bound n ?_⟩
    · simpa using tracks.held n info
    · simpa using before
  | released id =>
    obtain ⟨m, info, rfl, held⟩ := allowed
    have issued_ : m < ledger.issued := lt_of_held held
    refine ⟨fun n other => ?_, fun n before => ?_⟩
    · have issued : .issued n other ∈ trace ++ [.released (some m)] ↔
          .issued n other ∈ trace := by
        simp
      have released : .released (some n) ∉ trace ++ [.released (some m)] ↔
          .released (some n) ∉ trace ∧ n ≠ m := by
        simp
      rw [issued, released, ← and_assoc, ← tracks.held]
      by_cases same : n = m
      · rw [same]
        exact iff_of_false (by rw [record, held_release_self]; nofun) fun kept => kept.2 rfl
      · rw [and_iff_left same, record, held_release_of_ne same]
    · have earlier : (.released (some n) ∈ trace ∨ ∃ info, .issued n info ∈ trace) ∨ n = m := by
        simpa [or_assoc, or_comm, or_left_comm] using before
      rcases earlier with before | rfl
      · exact tracks.bound n before
      · exact issued_

/-- A trace that the ledger allows is lawful, and tracked. -/
theorem lawful_of_allowsAll (allowed : (empty : Ledger Info).AllowsAll trace) :
    Lawful trace ∧ Tracks (empty.recordAll trace) trace := by
  induction trace using List.reverseRecOn with
  | nil => exact ⟨along_nil _, tracks_empty⟩
  | append_singleton trace event ih =>
    obtain ⟨before, last⟩ := (allowsAll_append ..).mp allowed
    obtain ⟨lawful, tracks⟩ := ih before
    rw [allowsAll_singleton] at last
    rw [recordAll_append]
    refine ⟨?_, tracks.snoc last⟩
    show Along _ (trace ++ (some event).toList)
    refine Along.append lawful fun o same => ?_
    obtain rfl := Option.some.inj same
    cases event with
    | issued id info => trivial
    | used id => exact tracks.heldAfter.mpr last
    | released id => exact tracks.heldAfter.mpr last

/-- Where nothing is issued, the ledger allows all that is lawful. -/
theorem allowsAll_of_lawful {events : List (Event Info)} (tracks : Tracks ledger trace)
    (lawful : Lawful (trace ++ events)) (none_ : ∀ id info, .issued id info ∉ events) :
    ledger.AllowsAll events := by
  induction events generalizing ledger trace with
  | nil => trivial
  | cons event rest ih =>
    have holds := lawful trace event rest rfl
    have allowed : ledger.Allows event := by
      cases event with
      | issued id info => exact absurd List.mem_cons_self (none_ id info)
      | used id => exact tracks.heldAfter.mp holds
      | released id => exact tracks.heldAfter.mp holds
    refine ⟨allowed, ih (tracks.snoc allowed) ?_ fun id info member => ?_⟩
    · rwa [List.append_assoc, List.singleton_append]
    · exact none_ id info (List.mem_cons_of_mem _ member)

end Ledger

/-! ## Systems that keep a ledger -/

section Respects

variable {State : Type v} {Act : Type w}

/-- In the runs whose steps are all `ok` the driver is called lawfully and holds nothing
after a step that `clears`; and a next step that is `defined` leaves it so only if it
is `ok`. -/
def Respects (sys : System State Act (List (Event Info))) (start : State)
    (ledger : State → Ledger Info) (clears : Act → Prop) (defined ok : State → Act → Prop) : Prop :=
  ∀ history s, sys.Run ok start history s → Lawful history.flatten ∧
    ∀ act s' events, sys.step s act = some (s', some events) →
      (ok s act → defined s act) ∧ (defined s act →
        ((Lawful (history.flatten ++ events) ∧ (clears act → ∀ id, (ledger s').held id = none)) ↔
          ok s act))

/-- What a step does to the ledger: the events are lawful, and it records them. -/
structure Keeps (before after : Ledger Info) (events : List (Event Info)) : Prop where
  ledger : after = before.recordAll events
  allowed : before.AllowsAll events

theorem Keeps.refl (ledger : Ledger Info) : Keeps ledger ledger [] := ⟨rfl, trivial⟩

theorem Keeps.trans {first second third : Ledger Info} {events later : List (Event Info)}
    (keeps : Keeps first second events) (then_ : Keeps second third later) :
    Keeps first third (events ++ later) := by
  obtain ⟨rfl, allowed⟩ := keeps
  obtain ⟨rfl, allowed'⟩ := then_
  exact ⟨(Ledger.recordAll_append ..).symm, (Ledger.allowsAll_append ..).mpr ⟨allowed, allowed'⟩⟩

theorem Keeps.issue (ledger : Ledger Info) (info : Info) :
    Keeps ledger (ledger.issue info) [.issued ledger.issued info] :=
  ⟨rfl, rfl, trivial⟩

theorem Keeps.use {ledger : Ledger Info} {n : Nat} {info : Info}
    (held : ledger.held n = some info) : Keeps ledger ledger [.used (some n)] :=
  ⟨rfl, ⟨n, info, rfl, held⟩, trivial⟩

theorem Keeps.release {ledger : Ledger Info} {n : Nat} {info : Info}
    (held : ledger.held n = some info) : Keeps ledger (ledger.release n) [.released (some n)] :=
  ⟨rfl, ⟨n, info, rfl, held⟩, trivial⟩

theorem Keeps.uses {ledger : Ledger Info} {n : Nat} {info : Info}
    (held : ledger.held n = some info) (count : Nat) :
    Keeps ledger ledger (List.replicate count (.used (some n))) := by
  induction count with
  | zero => exact .refl ledger
  | succ count ih => exact (Keeps.use held).trans ih

/-- A system whose `ok` steps keep an invariant and their ledger, and whose other
steps break the law, respects it. -/
theorem respects_of_steps {sys : System State Act (List (Event Info))} {start : State}
    {ledger : State → Ledger Info} {clears : Act → Prop} {defined ok : State → Act → Prop}
    (Inv : State → Prop) (base : Inv start) (empty : ledger start = .empty)
    (emits : ∀ {s act s' events}, sys.step s act = some (s', events) → events ≠ none)
    (well : ∀ {s act}, ok s act → defined s act)
    (step : ∀ {s act s' events}, Inv s → sys.step s act = some (s', some events) → ok s act →
      Inv s' ∧ Keeps (ledger s) (ledger s') events ∧
        (clears act → ∀ id, (ledger s').held id = none))
    (exact_ : ∀ {s act s' events trace}, Inv s → Ledger.Tracks (ledger s) trace →
      sys.step s act = some (s', some events) → defined s act →
      Lawful (trace ++ events) → (clears act → ∀ id, (ledger s').held id = none) → ok s act) :
    Respects sys start ledger clears defined ok := by
  intro history s run
  have holds : Inv s ∧ Keeps .empty (ledger s) history.flatten := by
    refine run.invariant (fun history s => Inv s ∧ Keeps .empty (ledger s) history.flatten)
      ⟨base, empty ▸ Keeps.refl _⟩ ?_
    intro history s act s' emitted ⟨inv, keeps⟩ admitted stepped
    cases emitted with
    | none => exact absurd rfl (emits stepped)
    | some events =>
      obtain ⟨inv', keeps', -⟩ := step inv stepped admitted
      rw [List.flatten_append, Option.toList_some, List.flatten_singleton]
      exact ⟨inv', keeps.trans keeps'⟩
  obtain ⟨inv, keeps⟩ := holds
  obtain ⟨lawful, tracks⟩ := Ledger.lawful_of_allowsAll keeps.allowed
  rw [← keeps.ledger] at tracks
  refine ⟨lawful, fun act s' events stepped => ⟨well, fun inside => ?_⟩⟩
  constructor
  · rintro ⟨lawful', cleared⟩
    exact exact_ inv tracks stepped inside lawful' cleared
  · intro admitted
    obtain ⟨-, keeps', cleared⟩ := step inv stepped admitted
    exact ⟨(Ledger.lawful_of_allowsAll (keeps.trans keeps').allowed).1, cleared⟩

end Respects

end TildaMk4.Resources
