import TildaMk4.Lib.Credit
import TildaMk4.Storage.FailedFlush

/-!
# What the flush thread erases

Each `NVS_write` of `flash_bdev_flush` erases a sector of the flash, a number of times
that is limited. Over any interleaving of any number of clients, and whether or not the
NVS driver succeeds, an erasure is paid for by a client that has set `flash_flag_dirty`
since the erasure before, and each client sets the flag at most once in a call that writes,
and in no other.
-/

namespace TildaMk4.Storage

open Memory Transition Credit

def Event.client {ι : Type} : Event ι → ι
  | .called k _ | .read k _ | .written k _ | .refused k _ | .synced k | .raised k => k

/-- What is seen of a step: a call or return, a client that sets `flash_flag_dirty`, or an
`NVS_write`, which erases before it writes and may fail in either. -/
inductive WearObs (ι : Type)
  | event (event : Event ι)
  | marked (k : ι)
  | erased

namespace WearObs

variable {ι : Type}

def erases : WearObs ι → Bool
  | erased => true
  | _ => false

def marker : WearObs ι → Option ι
  | marked k => some k
  | _ => none

def marks (o : WearObs ι) : Bool := o.marker.isSome

/-- Who calls `flash_bdev_writeblock`. -/
def writer : WearObs ι → Option ι
  | event (.called k (some a)) => if a.write then some k else none
  | _ => none

/-- Who calls anything else, or returns. -/
def leaver : WearObs ι → Option ι
  | event e => if (event e).writer.isSome then none else some e.client
  | _ => none

end WearObs

variable {ι : Type}

def ClientPc.wear (k : ι) (event : Option (Event ι)) : ClientPc → Option (WearObs ι)
  | .setDirty _ => some (.marked k)
  | _ => event.map .event

def Threads.wear (s : Threads ι) (event : Option (Event ι)) : Act ι → Option (WearObs ι)
  | .client k => (s.client k).wear k event
  | .flush => if s.flush = .nvsWrite then some .erased else none
  | .writeFails _ => some .erased
  | .call _ _ | .copy _ _ | .readFails _ _ | .timeout => event.map .event

/-- The same steps, with the erasures observed. -/
def wearSystem (ι : Type) [DecidableEq ι] : System (Threads ι) (Act ι) (WearObs ι) where
  step s act := (s.step act).map fun (s', event) => (s', s.wear event act)

/-- The client may yet come to set `flash_flag_dirty` in the call it is in. -/
def ClientPc.owes : ClientPc → Bool
  | .convert a | .lookup a | .nvsRead a | .setId a | .setStart a | .setSize a => a.write
  | .syncTest caller | .syncPost caller | .syncPend caller => caller.any Access.write
  | .setDirty _ => true
  | .idle | .ledOn _ | .copy _ _ => false

variable {c c' : Cache} {pc pc' : ClientPc} {k : ι} {event : Option (Event ι)}

theorem ClientPc.wear_of_ne (other : ∀ a, pc ≠ .setDirty a) :
    pc.wear k event = event.map .event := by
  unfold ClientPc.wear
  split
  next a => exact absurd rfl (other a)
  next => rfl

/-- At most a call or a return of a client is shown. -/
def Shows (k : ι) (emitted : Option (WearObs ι)) : Prop :=
  ∀ o, emitted = some o → o.marker = none ∧ o.erases = false ∧ ∀ j, o.leaver = some j → j = k

theorem Event.shows {emitted : Option (Event ι)} (own : ∀ e, emitted = some e → e.client = k) :
    Shows k (emitted.map .event) := by
  intro o shown
  obtain ⟨e, rfl, rfl⟩ := Option.map_eq_some_iff.mp shown
  refine ⟨rfl, rfl, fun j left => ?_⟩
  rw [WearObs.leaver] at left
  split at left
  next => cases left
  next =>
    cases left
    exact own e rfl

theorem Shows.none : Shows k (none : Option (WearObs ι)) := fun _ shown => nomatch shown

theorem owes_located (a : Access) : (located a).owes = a.write := by
  unfold located
  cases write : a.write <;> rfl

theorem owes_afterSync (caller : Option Access) :
    (afterSync caller).owes = caller.any Access.write := by
  cases caller <;> rfl

/-- The events of a statement of a client are its own, and it owes nothing behind its return. -/
theorem ClientStep.event_client (step : ClientStep k c pc c' pc' event) :
    ∀ e, event = some e → e.client = k ∧ pc'.owes = false := by
  intro e emitted
  cases step with
  | badBlock =>
    cases emitted
    exact ⟨rfl, rfl⟩
  | @clean caller | @pend caller =>
    cases caller with
    | none =>
      cases emitted
      exact ⟨rfl, rfl⟩
    | some a => cases emitted
  | @return_ a =>
    cases emitted
    unfold accessReturn
    split <;> exact ⟨rfl, rfl⟩
  | _ => cases emitted

/-- Statements other than the setting of the flag owe no more than before and leave the flag. -/
theorem ClientStep.owes (step : ClientStep k c pc c' pc' event) (other : ∀ a, pc ≠ .setDirty a) :
    (pc'.owes = true → pc.owes = true ∧ event = none) ∧
      c'.flashFlagDirty = c.flashFlagDirty := by
  have silent (owes : pc'.owes = true) : event = none := by
    refine Option.eq_none_iff_forall_ne_some.mpr fun e emitted => ?_
    exact Bool.false_ne_true ((step.event_client e emitted).2.symm.trans owes)
  suffices kept : (pc'.owes = true → pc.owes = true) ∧ c'.flashFlagDirty = c.flashFlagDirty from
    ⟨fun owes => ⟨kept.1 owes, silent owes⟩, kept.2⟩
  cases step with
  | badBlock | goodBlock | miss | dirty | post | nvsRead | setId | setStart | ledOn | return_ =>
    exact ⟨by simp [ClientPc.owes], rfl⟩
  | hit | setSize => exact ⟨fun owes => by rwa [owes_located] at owes, rfl⟩
  | clean | pend => exact ⟨fun owes => by rwa [owes_afterSync] at owes, rfl⟩
  | setDirty => exact absurd rfl (other _)

theorem CopyStep.owes {n : Nat} (step : CopyStep n c pc c' pc') :
    pc'.owes = false ∧ c'.flashFlagDirty = c.flashFlagDirty := by
  cases step <;> exact ⟨rfl, rfl⟩

variable [DecidableEq ι]

theorem raised_client {s s' : Threads ι} {garbage : Bytes}
    (stepped : s.step (.readFails k garbage) = some (s', event)) :
    ∀ e, event = some e → e.client = k := by
  simp only [Threads.step] at stepped
  split at stepped
  next a reading =>
    cases stepped
    intro e emitted
    cases emitted
    rfl
  next => cases stepped

/-- Erasures and marks are paid for: an erasure by a mark since the one before, a mark by a call
that writes, is still under way and has not marked before. -/
structure Spared (history : List (WearObs ι)) : Prop where
  erasures : Paid WearObs.marks WearObs.erases (fun _ => false) history
  marks : ∀ k, PaidBy WearObs.writer WearObs.marker WearObs.leaver k history

/-- A client that will set the flag is in a call that writes and has not set it yet. -/
def Owing (history : List (WearObs ι)) (k : ι) (pc : ClientPc) : Prop :=
  pc.owes = true → UnspentBy WearObs.writer WearObs.marker WearObs.leaver k history = true

/-- A flag that the flush thread will act on was set since the last erasure. -/
structure Worn (history : List (WearObs ι)) (c : Cache) (flush : FlushPc) (client : ι → ClientPc) :
    Prop where
  spared : Spared history
  writing : flush = .nvsWrite → c.flashFlagDirty = true
  dirty : c.flashFlagDirty = true → flush ≠ .clearFlags → flush ≠ .ended →
    Unspent WearObs.marks WearObs.erases (fun _ => false) history = true
  owing : ∀ k, Owing history k (client k)

variable {history : List (WearObs ι)} {s s' : Threads ι} {act : Act ι} {flush flush' : FlushPc}
  {client : ι → ClientPc} {flash : Bytes}

theorem Threads.moveClient_forall {P : ι → ClientPc → Prop} (own : P k pc)
    (others : ∀ j, j ≠ k → P j (s.client j)) (j : ι) : P j ((s.moveClient k c pc).client j) := by
  by_cases same : j = k
  · rw [same, moveClient_client_self]
    exact own
  · rw [moveClient_client_of_ne _ _ _ same]
    exact others j same

namespace Worn

theorem kept (worn : Worn history c flush client) {emitted : Option (WearObs ι)}
    (shown : Shows k emitted) {j : ι} (apart : j ≠ k ∨ emitted = none) :
    Owing (history ++ emitted.toList) j (client j) := by
  intro owes
  cases emitted with
  | none => simpa using worn.owing j owes
  | some o =>
    obtain ⟨unmarked, _, own⟩ := shown o rfl
    have stays : o.leaver ≠ some j := fun left => apart.elim (· (own j left)) nofun
    exact unspent_keep (worn.owing j owes) (by simp [unmarked]) (by simpa using stays)

/-- A step of a client that shows at most a call or a return. -/
theorem quiet (worn : Worn history s.cache s.flush s.client) {emitted : Option (WearObs ι)}
    (shown : Shows k emitted) (same : c.flashFlagDirty = s.cache.flashFlagDirty)
    (owing : Owing (history ++ emitted.toList) k pc) :
    Worn (history ++ emitted.toList) c s.flush (s.moveClient k c pc).client := by
  refine ⟨?_, fun writing => same.trans (worn.writing writing), ?_,
    Threads.moveClient_forall owing fun j apart => worn.kept shown (.inl apart)⟩
  · cases emitted with
    | none => simpa using worn.spared
    | some o =>
      obtain ⟨unmarked, unerased, _⟩ := shown o rfl
      exact ⟨worn.spared.erasures.keep unerased,
        fun j => (worn.spared.marks j).keep (by simp [unmarked])⟩
  · intro dirty clearing ended
    have before := worn.dirty (same ▸ dirty) clearing ended
    cases emitted with
    | none => simpa using before
    | some o => exact unspent_keep before (shown o rfl).2.1 rfl

/-- The statement that sets the flag is paid for by the call it belongs to. -/
theorem mark {a : Access} (worn : Worn history s.cache s.flush s.client)
    (here : s.client k = .setDirty a) :
    Worn (history ++ [.marked k]) { s.cache with flashFlagDirty := true } s.flush
      (s.moveClient k { s.cache with flashFlagDirty := true } (.ledOn a)).client := by
  refine ⟨⟨worn.spared.erasures.keep rfl, fun j => ?_⟩, fun _ => rfl, ?_,
    Threads.moveClient_forall (fun impossible => absurd impossible Bool.false_ne_true)
      fun j apart owes => ?_⟩
  · by_cases same : j = k
    · subst same
      exact (worn.spared.marks j).spend (worn.owing j (by rw [here]; rfl))
    · exact (worn.spared.marks j).keep (by simp [WearObs.marker, Ne.symm same])
  · exact fun _ _ _ => unspent_earn rfl rfl rfl
  · exact unspent_keep (worn.owing j owes) (by simp [WearObs.marker, Ne.symm apart]) rfl

/-- An `NVS_write` uses up the flag, whether it succeeds or not. -/
theorem erase (worn : Worn history c .nvsWrite client)
    (used : flush' = .clearFlags ∨ flush' = .ended) :
    Worn (history ++ [.erased]) c' flush' client := by
  have paid := worn.dirty (worn.writing rfl) (by decide) (by decide)
  refine ⟨⟨worn.spared.erasures.spend paid, fun j => (worn.spared.marks j).keep rfl⟩, ?_, ?_,
    fun j owes => unspent_keep (worn.owing j owes) rfl rfl⟩
  · rintro rfl
    exact absurd used (by decide)
  · exact fun _ clearing ended => absurd used (not_or.mpr ⟨clearing, ended⟩)

/-- Any other statement of the flush thread. -/
theorem idle (worn : Worn history c flush client) (step : FlushStep c flush c' flush')
    (other : flush ≠ .nvsWrite) : Worn history c' flush' client := by
  refine ⟨worn.spared, ?_, ?_, worn.owing⟩
  · cases step with
    | dirty set => exact fun _ => set
    | clean | nvsWrite | clearFlags | postClean | ledOff | pend | timeout => exact nofun
  · cases step with
    | nvsWrite => exact absurd rfl other
    | clearFlags => exact fun set => absurd set Bool.false_ne_true
    | dirty | clean | postClean | ledOff | pend | timeout =>
      exact fun set _ _ => worn.dirty set (by decide) (by decide)

theorem step {emitted : Option (WearObs ι)} (worn : Worn history s.cache s.flush s.client)
    (stepped : (wearSystem ι).step s act = some (s', emitted)) :
    Worn (history ++ emitted.toList) s'.cache s'.flush s'.client := by
  obtain ⟨⟨t, event⟩, moved, same⟩ := Option.map_eq_some_iff.mp stepped
  obtain ⟨rfl, rfl⟩ := Prod.mk.inj same
  by_cases succeeds : s.NvsSucceeds act
  · cases Threads.step_cases succeeds moved with
    | @call k op idle =>
      have called : Shows k (Option.map WearObs.event (some (.called k op))) :=
        Event.shows fun e emitted => by
          cases emitted
          rfl
      refine worn.quiet called rfl fun owes => ?_
      cases op with
      | none => cases owes
      | some a =>
        have write : a.write = true := owes
        exact unspent_earn (by simp [WearObs.writer, write]) rfl
          (by simp [WearObs.leaver, WearObs.writer, write])
    | @client k c pc event own =>
      by_cases marking : ∃ a, s.client k = .setDirty a
      · obtain ⟨a, here⟩ := marking
        have shown : s.wear event (.client k) = some (.marked k) := by
          rw [Threads.wear, here, ClientPc.wear]
        rw [here] at own
        cases own
        rw [shown]
        exact worn.mark here
      · have other (a : Access) : s.client k ≠ .setDirty a := fun here => marking ⟨a, here⟩
        have kept := own.owes other
        have shown := Event.shows fun e emitted => (own.event_client e emitted).1
        rw [Threads.wear, ClientPc.wear_of_ne other]
        refine worn.quiet shown kept.2 fun owes => ?_
        obtain ⟨before, rfl⟩ := kept.1 owes
        exact worn.kept shown (.inr rfl) before
    | @copy k n c pc own =>
      exact worn.quiet (k := k) .none own.owes.2 fun owes =>
        absurd (own.owes.1.symm.trans owes) Bool.false_ne_true
    | @flush c flush own =>
      by_cases writing : s.flush = .nvsWrite
      · rw [Threads.wear, if_pos writing]
        rw [writing] at own worn
        cases own
        exact worn.erase (.inl rfl)
      · rw [Threads.wear, if_neg writing, Option.toList_none, List.append_nil]
        exact worn.idle own writing
    | timeout atPend own =>
      rw [Threads.wear, Option.map_none, Option.toList_none, List.append_nil]
      exact worn.idle own (by rw [atPend]; decide)
  · cases act with
    | readFails k garbage =>
      obtain ⟨_, _, rfl⟩ := step_readFails moved
      exact worn.quiet (Event.shows (raised_client moved)) rfl fun impossible =>
        absurd impossible Bool.false_ne_true
    | writeFails garbage =>
      obtain ⟨writing, ended, clients, _⟩ := step_writeFails moved
      rw [writing] at worn
      rw [ended, clients]
      exact worn.erase (.inr rfl)
    | call | client | copy | flush | timeout => exact absurd trivial succeeds

end Worn

theorem Spared.erasures_le (spared : Spared history) :
    history.countP WearObs.erases ≤ (history.filterMap WearObs.writer).length :=
  calc history.countP WearObs.erases
      ≤ history.countP WearObs.marks := Nat.le_of_add_right_le spared.erasures.countP_le
    _ = (history.filterMap WearObs.marker).length := List.length_filterMap_eq_countP.symm
    _ ≤ (history.filterMap WearObs.writer).length := (subperm_of_paid spared.marks).length_le

theorem worn_init : Worn [] (Cache.init flash) .test fun _ : ι => .idle where
  spared := ⟨along_nil _, fun _ => along_nil _⟩
  writing impossible := absurd impossible (by decide)
  dirty impossible := absurd impossible Bool.false_ne_true
  owing _ impossible := absurd impossible Bool.false_ne_true

/-- However the clients and the flush thread interleave, and whatever the NVS driver answers,
no sector is erased without a mark since the erasure before, no client marks twice in a call or
in one that does not write, and so there are at most as many erasures as calls that do. -/
theorem flash_spared (run : (wearSystem ι).Run (fun _ _ => True) (.init ι flash) history s) :
    Spared history ∧ history.countP WearObs.erases ≤ (history.filterMap WearObs.writer).length := by
  have worn := run.invariant (fun history s => Worn history s.cache s.flush s.client) worn_init
    fun worn _ stepped => worn.step stepped
  exact ⟨worn.spared, worn.spared.erasures_le⟩

/-- Two writes to a sector and a sync, and one erasure. -/
theorem flash_spared_coalesced :
    ∃ history s, (wearSystem StorageClient).Run (fun _ _ => True) (.init _ blankFlash) history s ∧
      history.countP WearObs.erases = 1 ∧ (history.filterMap WearObs.writer).length = 2 ∧
      Spared history := by
  obtain ⟨history, s, run, counted⟩ :=
    (wearSystem StorageClient).exists_run_of_exec (fun _ _ => True) (.init _ blankFlash)
      (.flush :: missAccess .usbDaemon (writeOf 0 1) ++ hitAccess .microPython (writeOf 1 2) ++
        .call .microPython none :: clientSteps .microPython 2 ++ flushSteps 6)
      (fun (history, _) => decide (history.countP WearObs.erases = 1 ∧
        (history.filterMap WearObs.writer).length = 2)) rfl
  obtain ⟨once, twice⟩ := of_decide_eq_true counted
  exact ⟨history, s, run, once, twice, (flash_spared run).1⟩

end TildaMk4.Storage
