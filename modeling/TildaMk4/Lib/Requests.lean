import TildaMk4.Lib.Transition

/-!
# Requests and the replies due to them

A request fixes the reply that is due to it, or that none is. In an orderly
trace a reply is the one that is owed, and no request comes while one is.
-/

namespace TildaMk4.Requests

universe u v w

inductive Message (Req : Type u) (Due : Type v)
  | request (what : Req) (due : Option Due)
  | reply (sent : Due)
  deriving DecidableEq

variable {Req : Type u} {Due : Type v}

/-- What is owed after a message; `none` if the message is out of order. -/
def follow [DecidableEq Due] (owed : Option Due) : Message Req Due → Option (Option Due)
  | .request _ due => if owed = none then some due else none
  | .reply sent => if owed = some sent then some none else none

def followAll [DecidableEq Due] (owed : Option Due) :
    List (Message Req Due) → Option (Option Due)
  | [] => some owed
  | message :: rest => (follow owed message).bind fun owed => followAll owed rest

def Message.due : Message Req Due → List Due
  | .request _ due => due.toList
  | .reply _ => []

def Message.sent : Message Req Due → List Due
  | .request _ _ => []
  | .reply sent => [sent]

def dues (trace : List (Message Req Due)) : List Due := trace.flatMap Message.due

def replies (trace : List (Message Req Due)) : List Due := trace.flatMap Message.sent

section Orderly

variable [DecidableEq Due]

@[simp] theorem followAll_nil (owed : Option Due) :
    followAll owed ([] : List (Message Req Due)) = some owed := rfl

@[simp] theorem followAll_reply (sent : Due) (rest : List (Message Req Due)) :
    followAll (some sent) (.reply sent :: rest) = followAll none rest := by
  simp [followAll, follow]

theorem followAll_append (trace rest : List (Message Req Due)) : ∀ owed,
    followAll owed (trace ++ rest) =
      (followAll owed trace).bind fun owed => followAll owed rest := by
  induction trace with
  | nil => exact fun _ => rfl
  | cons message trace ih =>
    intro owed
    rw [List.cons_append, followAll, followAll]
    cases follow owed message with
    | none => rfl
    | some next => exact ih next

theorem followAll_trans {owed next last : Option Due} {trace rest : List (Message Req Due)}
    (first : followAll owed trace = some next) (second : followAll next rest = some last) :
    followAll owed (trace ++ rest) = some last := by
  rw [followAll_append, first]
  exact second

/-- One message in order: a request where nothing is owed, or the reply that is. -/
theorem follow_cases {owed next : Option Due} {message : Message Req Due}
    (inOrder : follow owed message = some next) :
    (∃ what, message = .request what next ∧ owed = none) ∨
      ∃ sent, message = .reply sent ∧ owed = some sent ∧ next = none := by
  cases message with
  | request what due =>
    simp only [follow] at inOrder
    split at inOrder
    next nothing =>
      cases inOrder
      exact .inl ⟨what, rfl, nothing⟩
    next => cases inOrder
  | reply sent =>
    simp only [follow] at inOrder
    split at inOrder
    next owes =>
      cases inOrder
      exact .inr ⟨sent, rfl, owes, rfl⟩
    next => cases inOrder

/-- In an orderly trace the replies, with the one still owed, are those that were due, each
once and in the order of the requests. -/
theorem replies_owed (trace : List (Message Req Due)) : ∀ {owed last : Option Due},
    followAll owed trace = some last →
      replies trace ++ last.toList = owed.toList ++ dues trace := by
  induction trace with
  | nil =>
    intro owed last ended
    cases ended
    exact (List.append_nil _).symm
  | cons message rest ih =>
    intro owed last inOrder
    obtain ⟨next, here, later⟩ := Option.bind_eq_some_iff.mp inOrder
    have remaining := ih later
    obtain ⟨what, rfl, rfl⟩ | ⟨sent, rfl, rfl, rfl⟩ := follow_cases here
    · exact remaining
    · exact congrArg (sent :: ·) remaining

end Orderly

section Machine

open Transition

variable {State : Type u} {Op : Type v} [DecidableEq Due]

/-- A machine whose every operation is orderly, under an invariant, is orderly throughout. -/
theorem followAll_outputs (machine : Machine State Op (List (Message Req Due)))
    (Inv : State → Prop) (owed : State → Option Due)
    (keep : ∀ {s} op, Inv s → Inv (machine.perform s op).2)
    (orderly : ∀ {s} op, Inv s →
      followAll (owed s) (machine.perform s op).1 = some (owed (machine.perform s op).2))
    (ops : List Op) : ∀ {s}, Inv s →
      followAll (owed s) (machine.answers s ops).flatten = some (owed (machine.after s ops)) := by
  induction ops with
  | nil => exact fun _ => rfl
  | cons op rest ih =>
    intro s holds
    exact followAll_trans (orderly op holds) (ih (keep op holds))

/-- While a reply is owed the first message is that reply. -/
theorem reply_of_owed {sent : Due} {last : Option Due} {trace : List (Message Req Due)}
    (inOrder : followAll (some sent) trace = some last) (some_ : trace ≠ []) :
    ∃ rest, trace = .reply sent :: rest := by
  cases trace with
  | nil => exact absurd rfl some_
  | cons message rest =>
    obtain ⟨_, here, _⟩ := Option.bind_eq_some_iff.mp inOrder
    obtain ⟨_, _, nothing⟩ | ⟨_, rfl, same, _⟩ := follow_cases here
    · cases nothing
    · cases same
      exact ⟨rest, rfl⟩

/-- Bounded response: if silence while a reply is owed never raises the rank, and lowers it in
the operations that serve, then one serving operation more than the rank sends the reply. -/
theorem reply_within (machine : Machine State Op (List (Message Req Due)))
    (Inv : State → Prop) (owed : State → Option Due) (rank : State → Nat) (serves : Op → Bool)
    (keep : ∀ {s} op, Inv s → Inv (machine.perform s op).2)
    (orderly : ∀ {s} op, Inv s →
      followAll (owed s) (machine.perform s op).1 = some (owed (machine.perform s op).2))
    (progress : ∀ {s} op, Inv s → owed s ≠ none → (machine.perform s op).1 = [] →
      rank (machine.perform s op).2 ≤ rank s ∧
        (serves op = true → rank (machine.perform s op).2 < rank s))
    (ops : List Op) {sent : Due} : ∀ {s}, Inv s → owed s = some sent →
      rank s < ops.countP serves →
        ∃ rest, (machine.answers s ops).flatten = .reply sent :: rest := by
  induction ops with
  | nil => exact fun _ _ few => absurd few (Nat.not_lt_zero _)
  | cons op rest ih =>
    intro s holds owes many
    by_cases silent : (machine.perform s op).1 = []
    · have still := orderly op holds
      rw [silent, followAll_nil, owes] at still
      have nearer := progress op holds (owes ▸ Option.some_ne_none sent) silent
      have enough : rank (machine.perform s op).2 < rest.countP serves := by
        rw [List.countP_cons] at many
        split at many
        next serving => exact Nat.lt_of_lt_of_le (nearer.2 serving) (Nat.le_of_lt_succ many)
        next => exact Nat.lt_of_le_of_lt nearer.1 many
      obtain ⟨later, answered⟩ := ih (keep op holds) (Option.some.inj still).symm enough
      exact ⟨later, by rw [Machine.answers, List.flatten_cons, silent, answered]; rfl⟩
    · obtain ⟨later, replied⟩ := reply_of_owed (owes ▸ orderly op holds) silent
      exact ⟨_, by rw [Machine.answers, List.flatten_cons, replied]; rfl⟩

end Machine

end TildaMk4.Requests
