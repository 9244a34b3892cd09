import TildaMk4.Lib.Transition

/-!
# A machine behind a mailbox

Interrupts post messages into a mailbox of fixed capacity, and one daemon takes them out
again and performs an operation of the machine for each. What the daemon finds when it comes
to a message is its environment. A post into a full mailbox halts everything.
-/

namespace TildaMk4.Mailbox

open Transition

universe u v w x y

/-- `deliver` is the operation that the daemon performs for a message. -/
structure Daemon (State : Type u) (Op : Type v) (Out : Type w) (Msg : Type x) (Env : Type y) where
  machine : Machine State Op Out
  deliver : Msg → Env → Op
  capacity : Nat

structure World (State : Type u) (Msg : Type x) where
  waiting : List Msg
  state : State
  aborted : Bool

/-- What may happen next. `other` is an operation that does not come through the mailbox. -/
inductive Act (Op : Type v) (Msg : Type x) (Env : Type y)
  | post (msg : Msg)
  | pend (env : Env)
  | other (op : Op)

inductive Obs (Op : Type v) (Out : Type w) (Msg : Type x) (Env : Type y)
  | posted (msg : Msg)
  | overflow (msg : Msg)
  | handled (msg : Msg) (env : Env) (out : Out)
  | performed (op : Op) (out : Out)
  deriving DecidableEq

variable {State : Type u} {Op : Type v} {Out : Type w} {Msg : Type x} {Env : Type y}

namespace Obs

variable (daemon : Daemon State Op Out Msg Env)

def posts : Obs Op Out Msg Env → List Msg
  | .posted msg => [msg]
  | .overflow _ | .handled .. | .performed .. => []

def handles : Obs Op Out Msg Env → List Msg
  | .handled msg _ _ => [msg]
  | .posted _ | .overflow _ | .performed .. => []

/-- The operation of the machine, with its answer. -/
def performs : Obs Op Out Msg Env → List (Op × Out)
  | .handled msg env out => [(daemon.deliver msg env, out)]
  | .performed op out => [(op, out)]
  | .posted _ | .overflow _ => []

def overflows : Obs Op Out Msg Env → Bool
  | .overflow _ => true
  | _ => false

end Obs

def posted (history : List (Obs Op Out Msg Env)) : List Msg := history.flatMap Obs.posts

def handled (history : List (Obs Op Out Msg Env)) : List Msg := history.flatMap Obs.handles

theorem posted_concat (history : List (Obs Op Out Msg Env)) (obs : Obs Op Out Msg Env) :
    posted (history ++ [obs]) = posted history ++ obs.posts := by
  rw [posted, List.flatMap_append, List.flatMap_singleton]
  rfl

theorem handled_concat (history : List (Obs Op Out Msg Env)) (obs : Obs Op Out Msg Env) :
    handled (history ++ [obs]) = handled history ++ obs.handles := by
  rw [handled, List.flatMap_append, List.flatMap_singleton]
  rfl

namespace Daemon

variable (daemon : Daemon State Op Out Msg Env)

def performed (history : List (Obs Op Out Msg Env)) : List (Op × Out) :=
  history.flatMap (Obs.performs daemon)

theorem performed_concat (history : List (Obs Op Out Msg Env)) (obs : Obs Op Out Msg Env) :
    daemon.performed (history ++ [obs]) = daemon.performed history ++ obs.performs daemon := by
  rw [performed, List.flatMap_append, List.flatMap_singleton]
  rfl

def advance (world : World State Msg) :
    Act Op Msg Env → Option (World State Msg × Option (Obs Op Out Msg Env))
  | .post msg =>
    if world.waiting.length < daemon.capacity then
      some ({ world with waiting := world.waiting ++ [msg] }, some (.posted msg))
    else some ({ world with aborted := true }, some (.overflow msg))
  | .pend env =>
    match world.waiting with
    | [] => none
    | msg :: rest =>
      let done := daemon.machine.perform world.state (daemon.deliver msg env)
      some ({ world with waiting := rest, state := done.2 }, some (.handled msg env done.1))
  | .other op =>
    let done := daemon.machine.perform world.state op
    some ({ world with state := done.2 }, some (.performed op done.1))

def system : System (World State Msg) (Act Op Msg Env) (Obs Op Out Msg Env) where
  step world act := if world.aborted then none else daemon.advance world act

/-- With an empty mailbox. -/
def start (state : State) : World State Msg := ⟨[], state, false⟩

/-- One step by the kind of its observation. -/
inductive Steps (world : World State Msg) : World State Msg → Obs Op Out Msg Env → Prop
  | posted (msg : Msg) (room : world.waiting.length < daemon.capacity) :
    Steps world { world with waiting := world.waiting ++ [msg] } (.posted msg)
  | overflow (msg : Msg) (full : ¬world.waiting.length < daemon.capacity) :
    Steps world { world with aborted := true } (.overflow msg)
  | handled (msg : Msg) (rest : List Msg) (env : Env) (first : world.waiting = msg :: rest) :
    Steps world
      { world with
        waiting := rest
        state := (daemon.machine.perform world.state (daemon.deliver msg env)).2 }
      (.handled msg env (daemon.machine.perform world.state (daemon.deliver msg env)).1)
  | performed (op : Op) :
    Steps world { world with state := (daemon.machine.perform world.state op).2 }
      (.performed op (daemon.machine.perform world.state op).1)

theorem advance_cases {world world' : World State Msg} {act : Act Op Msg Env}
    {emitted : Option (Obs Op Out Msg Env)}
    (stepped : daemon.advance world act = some (world', emitted)) :
    ∃ obs, emitted = some obs ∧ daemon.Steps world world' obs := by
  cases act with
  | post msg =>
    simp only [advance] at stepped
    split at stepped
    next room =>
      cases stepped
      exact ⟨_, rfl, .posted msg room⟩
    next full =>
      cases stepped
      exact ⟨_, rfl, .overflow msg full⟩
  | pend env =>
    simp only [advance] at stepped
    split at stepped
    next => cases stepped
    next msg rest first =>
      cases stepped
      exact ⟨_, rfl, .handled msg rest env first⟩
  | other op =>
    cases stepped
    exact ⟨_, rfl, .performed op⟩

theorem step_cases {world world' : World State Msg} {act : Act Op Msg Env}
    {emitted : Option (Obs Op Out Msg Env)}
    (stepped : daemon.system.step world act = some (world', emitted)) :
    world.aborted = false ∧ ∃ obs, emitted = some obs ∧ daemon.Steps world world' obs := by
  simp only [system] at stepped
  split at stepped
  next => cases stepped
  next running => exact ⟨Bool.eq_false_iff.mpr running, daemon.advance_cases stepped⟩

/-- How a run stands to the machine without the mailbox. -/
structure Faithful (state : State) (history : List (Obs Op Out Msg Env)) (world : World State Msg) :
    Prop where
  fifo : handled history ++ world.waiting = posted history
  bounded : world.waiting.length ≤ daemon.capacity
  state_eq : world.state = daemon.machine.after state ((daemon.performed history).map Prod.fst)
  outs_eq : (daemon.performed history).map Prod.snd =
    daemon.machine.answers state ((daemon.performed history).map Prod.fst)
  aborted_iff : world.aborted = true ↔ ∃ obs ∈ history, obs.overflows = true
  full_of_aborted : world.aborted = true → world.waiting.length = daemon.capacity

namespace Faithful

variable {daemon} {state : State} {history : List (Obs Op Out Msg Env)}
  {world world' : World State Msg}

theorem start : daemon.Faithful state [] (start state) where
  fifo := rfl
  bounded := Nat.zero_le _
  state_eq := rfl
  outs_eq := rfl
  aborted_iff := by simp [Daemon.start]
  full_of_aborted impossible := absurd impossible Bool.false_ne_true

/-- A step that performs one operation of the machine. -/
theorem perform (faithful : daemon.Faithful state history world) (op : Op)
    (obs : Obs Op Out Msg Env)
    (performs : obs.performs daemon = [(op, (daemon.machine.perform world.state op).1)]) :
    (daemon.machine.perform world.state op).2 =
        daemon.machine.after state ((daemon.performed (history ++ [obs])).map Prod.fst) ∧
      (daemon.performed (history ++ [obs])).map Prod.snd =
        daemon.machine.answers state ((daemon.performed (history ++ [obs])).map Prod.fst) := by
  rw [performed_concat, performs, List.map_append, List.map_append, Machine.after_append,
    Machine.answers_append,
    ← faithful.state_eq, ← faithful.outs_eq]
  exact ⟨rfl, rfl⟩

theorem overflow_append (faithful : daemon.Faithful state history world) {obs : Obs Op Out Msg Env}
    (running : world.aborted = false) :
    (∃ seen ∈ history ++ [obs], seen.overflows = true) ↔ obs.overflows = true := by
  have before : ¬∃ seen ∈ history, seen.overflows = true := by
    rw [← faithful.aborted_iff, running]
    exact Bool.false_ne_true
  constructor
  · rintro ⟨seen, member, overflows⟩
    rcases List.mem_append.mp member with earlier | last
    · exact absurd ⟨seen, earlier, overflows⟩ before
    · rwa [← List.mem_singleton.mp last]
  · exact fun overflows => ⟨obs, List.mem_append_right _ (List.mem_singleton_self _), overflows⟩

theorem keep (faithful : daemon.Faithful state history world) (running : world.aborted = false)
    {obs : Obs Op Out Msg Env} (stepped : daemon.Steps world world' obs) :
    daemon.Faithful state (history ++ [obs]) world' := by
  have overflowed : (∃ seen ∈ history ++ [obs], seen.overflows = true) ↔ obs.overflows = true :=
    faithful.overflow_append running
  have fifo := faithful.fifo
  cases stepped with
  | posted msg room =>
    refine ⟨?_, ?_, ?_, ?_, ?_, ?_⟩
    · rw [handled_concat, posted_concat, ← fifo, Obs.handles, Obs.posts, List.append_nil,
        List.append_assoc]
    · rw [List.length_append]
      exact room
    · rw [performed_concat, Obs.performs, List.append_nil]
      exact faithful.state_eq
    · rw [performed_concat, Obs.performs, List.append_nil]
      exact faithful.outs_eq
    · rw [overflowed, running]
      rfl
    · exact fun impossible => absurd (running.symm.trans impossible) Bool.false_ne_true
  | overflow msg full =>
    refine ⟨?_, faithful.bounded, ?_, ?_, ?_, ?_⟩
    · rw [handled_concat, posted_concat, Obs.handles, Obs.posts, List.append_nil, List.append_nil]
      exact fifo
    · rw [performed_concat, Obs.performs, List.append_nil]
      exact faithful.state_eq
    · rw [performed_concat, Obs.performs, List.append_nil]
      exact faithful.outs_eq
    · rw [overflowed]
      rfl
    · exact fun _ => Nat.le_antisymm faithful.bounded (Nat.le_of_not_lt full)
  | handled msg rest env first =>
    have done := faithful.perform (daemon.deliver msg env) (.handled msg env _) rfl
    refine ⟨?_, ?_, done.1, done.2, ?_, ?_⟩
    · rw [handled_concat, posted_concat, ← fifo, first, Obs.handles, Obs.posts, List.append_nil,
        List.append_assoc]
      rfl
    · have fewer := faithful.bounded
      rw [first] at fewer
      exact Nat.le_of_succ_le fewer
    · rw [overflowed, running]
      rfl
    · exact fun impossible => absurd (running.symm.trans impossible) Bool.false_ne_true
  | performed op =>
    have done := faithful.perform op (.performed op _) rfl
    refine ⟨?_, faithful.bounded, done.1, done.2, ?_, ?_⟩
    · rw [handled_concat, posted_concat, Obs.handles, Obs.posts, List.append_nil, List.append_nil]
      exact fifo
    · rw [overflowed, running]
      rfl
    · exact fun impossible => absurd (running.symm.trans impossible) Bool.false_ne_true

end Faithful

/-- Whatever the order of posts and turns of the daemon, the daemon handles the messages in the
order of their posts, each once, and what it does is a run of the machine itself. -/
theorem faithful_of_run {ok : World State Msg → Act Op Msg Env → Prop} {state : State}
    {history : List (Obs Op Out Msg Env)} {world : World State Msg}
    (run : daemon.system.Run ok (start state) history world) :
    daemon.Faithful state history world := by
  refine run.invariant (fun history world => daemon.Faithful state history world) .start ?_
  intro history world act world' emitted faithful _ stepped
  obtain ⟨running, obs, rfl, kind⟩ := daemon.step_cases stepped
  exact faithful.keep running kind

end Daemon

end TildaMk4.Mailbox
