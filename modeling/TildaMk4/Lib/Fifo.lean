import TildaMk4.Lib.Transition

/-!
# A queue that can be emptied

What is put into a queue is taken from it in the same order, but for what waits in it at a
reset.
-/

namespace TildaMk4.Fifo

open Transition

universe u v w x

inductive Event (Item : Type u)
  | put (items : List Item)
  | reset
  | take (item : Item)
  deriving DecidableEq

variable {Item : Type u}

/-- The queue after an event; `none` if what is taken does not stand first in it. -/
def follow [DecidableEq Item] (queue : List Item) : Event Item → Option (List Item)
  | .put items => some (queue ++ items)
  | .reset => some []
  | .take item =>
    match queue with
    | [] => none
    | first :: rest => if first = item then some rest else none

def followAll [DecidableEq Item] (queue : List Item) (trace : List (Event Item)) :
    Option (List Item) :=
  trace.foldlM follow queue

def Event.puts : Event Item → List Item
  | .put items => items
  | .reset | .take _ => []

def Event.takes : Event Item → List Item
  | .take item => [item]
  | .put _ | .reset => []

def puts (trace : List (Event Item)) : List Item := trace.flatMap Event.puts

def takes (trace : List (Event Item)) : List Item := trace.flatMap Event.takes

theorem takes_append (trace more : List (Event Item)) :
    takes (trace ++ more) = takes trace ++ takes more := List.flatMap_append

theorem puts_append (trace more : List (Event Item)) :
    puts (trace ++ more) = puts trace ++ puts more := List.flatMap_append

theorem takes_map_take (items : List Item) : takes (items.map .take) = items := by
  induction items with
  | nil => rfl
  | cons item items ih => exact congrArg (item :: ·) ih

theorem puts_map_take (items : List Item) : puts (items.map .take) = [] := by
  induction items with
  | nil => rfl
  | cons item items ih => exact ih

/-- What the resets find in the queue. -/
def dropped : List Item → List (Event Item) → List Item
  | _, [] => []
  | queue, .put items :: trace => dropped (queue ++ items) trace
  | queue, .reset :: trace => queue ++ dropped [] trace
  | queue, .take _ :: trace => dropped queue.tail trace

theorem dropped_nil (trace : List (Event Item)) :
    ∀ queue : List Item, .reset ∉ trace → dropped queue trace = [] := by
  induction trace with
  | nil => exact fun _ _ => rfl
  | cons event trace ih =>
    intro queue steady
    have later : .reset ∉ trace := fun member => steady (List.mem_cons_of_mem _ member)
    cases event with
    | put items => exact ih (queue ++ items) later
    | reset => exact absurd List.mem_cons_self steady
    | take item => exact ih queue.tail later

theorem dropped_takes (items : List Item) : ∀ queue : List Item,
    dropped queue (items.map .take) = [] := by
  induction items with
  | nil => exact fun _ => rfl
  | cons item items ih => exact fun queue => ih queue.tail

/-- The third list consists of the first two, each in its order. -/
inductive Interleaves : List Item → List Item → List Item → Prop
  | nil : Interleaves [] [] []
  | left (item : Item) {first second whole : List Item} (rest : Interleaves first second whole) :
    Interleaves (item :: first) second (item :: whole)
  | right (item : Item) {first second whole : List Item} (rest : Interleaves first second whole) :
    Interleaves first (item :: second) (item :: whole)

namespace Interleaves

variable {first second whole : List Item}

theorem refl (items : List Item) : Interleaves items [] items := by
  induction items with
  | nil => exact .nil
  | cons item items ih => exact .left item ih

theorem append_right (items : List Item) (interleaves : Interleaves first second whole) :
    Interleaves first (items ++ second) (items ++ whole) := by
  induction items with
  | nil => exact interleaves
  | cons item items ih => exact .right item ih

theorem eq_of_nil (interleaves : Interleaves first [] whole) : first = whole := by
  generalize none_ : ([] : List Item) = second at interleaves
  induction interleaves with
  | nil => rfl
  | left item rest ih => rw [ih none_]
  | right item rest ih => cases none_

end Interleaves

section Order

variable [DecidableEq Item]

/-- One event: items arrive, all is lost, or the first item leaves. -/
theorem follow_cases {queue next : List Item} {event : Event Item}
    (followed : follow queue event = some next) :
    (∃ items, event = .put items ∧ next = queue ++ items) ∨ (event = .reset ∧ next = []) ∨
      ∃ item, event = .take item ∧ queue = item :: next := by
  cases event with
  | put items => exact .inl ⟨items, rfl, (Option.some.inj followed).symm⟩
  | reset => exact .inr (.inl ⟨rfl, (Option.some.inj followed).symm⟩)
  | take item =>
    cases queue with
    | nil => cases followed
    | cons first rest =>
      unfold follow at followed
      dsimp only at followed
      split at followed
      next same =>
        cases followed
        exact .inr (.inr ⟨item, rfl, by rw [same]⟩)
      next => cases followed

theorem dropped_append (trace more : List (Event Item)) : ∀ {queue next : List Item},
    followAll queue trace = some next →
      dropped queue (trace ++ more) = dropped queue trace ++ dropped next more := by
  induction trace with
  | nil =>
    intro queue next followed
    cases followed
    rfl
  | cons event trace ih =>
    intro queue next followed
    obtain ⟨middle, here, later⟩ := Option.bind_eq_some_iff.mp followed
    have rest := ih later
    obtain ⟨items, rfl, rfl⟩ | ⟨rfl, rfl⟩ | ⟨item, rfl, rfl⟩ := follow_cases here
    · exact rest
    · rw [List.cons_append, dropped, dropped, rest, List.append_assoc]
    · exact rest

/-- What is taken and what is left stand in the order in which they were put, and the resets
have dropped the others. -/
theorem takes_interleaves (trace : List (Event Item)) : ∀ {queue last : List Item},
    followAll queue trace = some last →
      Interleaves (takes trace ++ last) (dropped queue trace) (queue ++ puts trace) := by
  induction trace with
  | nil =>
    intro queue last followed
    cases followed
    simpa [takes, puts, dropped] using Interleaves.refl queue
  | cons event trace ih =>
    intro queue last followed
    obtain ⟨next, here, later⟩ := Option.bind_eq_some_iff.mp followed
    have rest := ih later
    obtain ⟨items, rfl, rfl⟩ | ⟨rfl, rfl⟩ | ⟨item, rfl, rfl⟩ := follow_cases here
    · simpa [takes, puts, Event.takes, Event.puts, dropped] using rest
    · rw [List.nil_append] at rest
      simpa [takes, puts, Event.takes, Event.puts, dropped] using rest.append_right queue
    · simpa [takes, puts, Event.takes, Event.puts, dropped] using rest.left item

/-- Without a reset nothing is lost. -/
theorem takes_whole (trace : List (Event Item)) {queue last : List Item}
    (followed : followAll queue trace = some last) (steady : .reset ∉ trace) :
    takes trace ++ last = queue ++ puts trace := by
  have interleaves := takes_interleaves trace followed
  rw [dropped_nil trace queue steady] at interleaves
  exact interleaves.eq_of_nil

end Order

section Port

variable {State : Type v} {Op : Type w} {Obs : Type x}

/-- A queue in the state of a machine, with what an operation does to it from outside and what
an observation takes from it. -/
structure Port (State : Type v) (Op : Type w) (Obs : Type x) (Item : Type u) where
  queue : State → List Item
  inputs : Op → List (Event Item)
  outputs : Obs → List Item

namespace Port

variable (port : Port State Op Obs Item) (machine : Machine State Op (List Obs))

def arrivals (ops : List Op) : List Item := ops.flatMap fun op => puts (port.inputs op)

def departures (observed : List Obs) : List Item := observed.flatMap port.outputs

/-- What one operation does to the queue. -/
def events (s : State) (op : Op) : List (Event Item) :=
  port.inputs op ++ (port.departures (machine.perform s op).1).map .take

def trace (s : State) : List Op → List (Event Item)
  | [] => []
  | op :: rest => port.events machine s op ++ trace (machine.perform s op).2 rest

/-- What the resets find in the queue. -/
def dropped (s : State) : List Op → List Item
  | [] => []
  | op :: rest =>
    Fifo.dropped (port.queue s) (port.events machine s op) ++ dropped (machine.perform s op).2 rest

variable {port machine}

theorem puts_trace (ops : List Op) : ∀ s, puts (port.trace machine s ops) = port.arrivals ops := by
  induction ops with
  | nil => exact fun _ => rfl
  | cons op rest ih =>
    intro s
    rw [trace, events, puts_append, puts_append, puts_map_take, ih, List.append_nil]
    rfl

theorem reset_mem_trace (ops : List Op) : ∀ {s}, .reset ∈ port.trace machine s ops →
    ∃ op ∈ ops, .reset ∈ port.inputs op := by
  induction ops with
  | nil => exact fun member => absurd member List.not_mem_nil
  | cons op rest ih =>
    intro s member
    rw [trace, events, List.append_assoc] at member
    rcases List.mem_append.mp member with here | member
    · exact ⟨op, List.mem_cons_self, here⟩
    rcases List.mem_append.mp member with taken | later
    · obtain ⟨item, _, same⟩ := List.mem_map.mp taken
      cases same
    · exact (ih later).imp fun _ found => found.imp_left (List.mem_cons_of_mem _)

variable [DecidableEq Item]

/-- The queue of the state is what the operations and the observations make of it. -/
structure Faithful (port : Port State Op Obs Item) (machine : Machine State Op (List Obs)) :
    Prop where
  outside : ∀ op, takes (port.inputs op) = []
  step : ∀ s op, followAll (port.queue s) (port.events machine s op) =
    some (port.queue (machine.perform s op).2)

theorem followAll_trace (faithful : port.Faithful machine) (ops : List Op) : ∀ s,
    followAll (port.queue s) (port.trace machine s ops) =
      some (port.queue (machine.after s ops)) := by
  induction ops with
  | nil => exact fun _ => rfl
  | cons op rest ih =>
    intro s
    have first := faithful.step s op
    rw [followAll] at first ⊢
    rw [trace, List.foldlM_append, first]
    exact ih (machine.perform s op).2

theorem takes_trace (faithful : port.Faithful machine) (ops : List Op) : ∀ s,
    takes (port.trace machine s ops) = port.departures (machine.answers s ops).flatten := by
  induction ops with
  | nil => exact fun _ => rfl
  | cons op rest ih =>
    intro s
    rw [trace, events, takes_append, takes_append, faithful.outside, takes_map_take, ih,
      List.nil_append, Machine.answers, List.flatten_cons]
    exact List.flatMap_append.symm

theorem dropped_trace (faithful : port.Faithful machine) (ops : List Op) : ∀ s,
    Fifo.dropped (port.queue s) (port.trace machine s ops) = port.dropped machine s ops := by
  induction ops with
  | nil => exact fun _ => rfl
  | cons op rest ih =>
    intro s
    rw [trace, dropped_append _ _ (faithful.step s op), ih, dropped]

/-- Across any operations the queue gives out what it has been given, in that order, but for
what it holds at a reset. -/
theorem departures_interleaves (faithful : port.Faithful machine) (s : State) (ops : List Op) :
    Interleaves
      (port.departures (machine.answers s ops).flatten ++ port.queue (machine.after s ops))
      (port.dropped machine s ops) (port.queue s ++ port.arrivals ops) := by
  have order := takes_interleaves _ (followAll_trace faithful ops s)
  rwa [takes_trace faithful, puts_trace, dropped_trace faithful] at order

/-- Across operations without a reset it gives out all of it. -/
theorem departures_whole (faithful : port.Faithful machine) (s : State) (ops : List Op)
    (kept : ∀ op ∈ ops, .reset ∉ port.inputs op) :
    port.departures (machine.answers s ops).flatten ++ port.queue (machine.after s ops) =
      port.queue s ++ port.arrivals ops := by
  have whole := takes_whole _ (followAll_trace faithful ops s) fun lost => by
    obtain ⟨op, member, reset⟩ := reset_mem_trace ops lost
    exact kept op member reset
  rwa [takes_trace faithful, puts_trace] at whole

end Port

end Port

end TildaMk4.Fifo
