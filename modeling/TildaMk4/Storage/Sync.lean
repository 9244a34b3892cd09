import TildaMk4.Storage.OneClient

/-!
# Explicit syncs

`storage_flush` is durable in the runs of one client without the three races in
which the wait for `flushFlashBdevClean` does not end on a token that an earlier
flush left behind (`SyncsSaved`).
-/

namespace TildaMk4.Storage

open Memory Transition

variable {ι : Type}

/-- `SemaphoreP_pend` of an explicit sync takes the clean token only when the
buffer is on the flash. -/
def SyncsSaved (s : Threads ι) : Act ι → Prop
  | .client k => (s.client k).atSyncReturn = true → Saved s.cache s.flush
  | _ => True

instance (s : Threads ι) (act : Act ι) : Decidable (SyncsSaved s act) :=
  match act with
  | .client _ => inferInstanceAs (Decidable (_ → _))
  | .call _ _ | .copy _ _ | .readFails _ _ | .flush | .timeout | .writeFails _ => isTrue trivial

section OneClient

variable {flash disk : Bytes} {s s' : Threads Unit} {act : Act Unit} {history : List (Event Unit)}
  {event : Option (Event Unit)} {c c' : Cache} {flush : FlushPc} {pc pc' : ClientPc}

/-- The steps without one of the three races and without a stale token. -/
def SyncsUndisturbed (s : Threads Unit) (act : Act Unit) : Prop :=
  Undisturbed s act ∧ SyncsSaved s act

instance : Decidable (SyncsUndisturbed s act) := inferInstanceAs (Decidable (_ ∧ _))

theorem Coherent.synced_flash (inv : Coherent disk c flush pc)
    (settled : pc = .syncTest none ∨ pc = .syncPend none) (saved : Saved c flush) :
    c.flash = disk := by
  have client : Settled disk c flush := by
    have client := inv.client
    rcases settled with rfl | rfl <;> exact client.2
  exact (Cache.contents_of_agrees (client.agrees saved)).symm.trans client.contents

/-- The explicit sync that returns was called last. -/
def SyncCalled (history : List (Event Unit)) : ClientPc → Prop
  | .syncTest none | .syncPost none | .syncPend none => history.getLast? = some (.called () none)
  | _ => True

/-- The flash holds what was stored when the last sync was called. -/
def SyncDurable (flash : Bytes) (history : List (Event Unit)) (c : Cache) : Prop :=
  ∀ before during, history = before ++ .called () none :: during →
    (∀ op, .called () op ∉ during) → ∀ block < flashMemSeg1NumBlocks, ∀ i < flashBlockSize,
      c.flash (block * flashBlockSize + i) = lastStored flash before block i

theorem syncCalled_located (history : List (Event Unit)) (a : Access) :
    SyncCalled history (located a) := by
  unfold located
  split <;> trivial

theorem SyncCalled.step (called : SyncCalled history (s.client ())) (succeeds : s.NvsSucceeds act)
    (stepped : (Threads.system Unit).step s act = some (s', event)) :
    SyncCalled (history ++ event.toList) (s'.client ()) := by
  cases Threads.step_cases succeeds stepped with
  | @call k op idle =>
    rw [Threads.moveClient_client_self]
    cases op with
    | none => exact List.getLast?_concat
    | some a => trivial
  | @client k c pc event moved =>
    rw [Threads.moveClient_client_self]
    generalize s.client () = old at called moved
    cases moved with
    | @dirty caller | @post caller =>
      rw [Option.toList_none, List.append_nil]
      cases caller with
      | none => exact called
      | some a => trivial
    | @clean caller | @pend caller => cases caller <;> trivial
    | badBlock | goodBlock | miss | nvsRead | setId | setStart | setDirty | ledOn | return_ => trivial
    | hit | setSize => exact syncCalled_located _ _
  | copy moved =>
    rw [Threads.moveClient_client_self]
    generalize s.client () = old at moved
    cases moved <;> trivial
  | flush | timeout =>
    rw [Option.toList_none, List.append_nil]
    exact called

theorem Coherent.synced_step {k : Unit} (inv : Coherent disk c flush pc)
    (waited : pc.atSyncReturn = true → Saved c flush) (step : ClientStep k c pc c' pc' event)
    (returns : event = some (.synced ())) :
    (pc = .syncTest none ∨ pc = .syncPend none) ∧ c'.flash = disk := by
  cases step with
  | @clean caller clean =>
    cases caller with
    | none => exact ⟨.inl rfl, inv.synced_flash (.inl rfl) (.inl clean)⟩
    | some a => cases returns
  | @pend caller =>
    cases caller with
    | none => exact ⟨.inr rfl, inv.synced_flash (.inr rfl) (waited rfl)⟩
    | some a => cases returns
  | @return_ a =>
    simp only [accessReturn, Option.some.injEq] at returns
    split at returns <;> cases returns
  | badBlock | goodBlock | miss | hit | dirty | post | nvsRead | setId | setStart | setSize
  | setDirty | ledOn => cases returns

/-- The data that a sync has to save cannot change while its caller waits. -/
theorem stored_eq_of_syncCalled (last : history.getLast? = some (.called () none))
    {before during : List (Event Unit)} (split : history = before ++ .called () none :: during)
    (quiet : ∀ op, .called () op ∉ during) : stored flash history = stored flash before := by
  have nothing : during = [] := by
    by_contra more
    rw [split, List.getLast?_append_of_ne_nil _ (List.cons_ne_nil _ _),
      List.getLast?_cons_of_ne_nil more] at last
    exact quiet none (List.mem_of_getLast? last)
  rw [split, nothing]
  exact stored_append flash before (some (.called () none))

/-- An explicit sync is durable, in every run without the races and without a
stale token: at each step that returns from it, the flash holds what was stored
when it was called. -/
theorem sync_isDurable
    (run : (Threads.system Unit).Run SyncsUndisturbed (.init Unit flash) history s)
    (undisturbed : SyncsUndisturbed s act)
    (returns : (Threads.system Unit).step s act = some (s', some (.synced ()))) :
    SyncDurable flash history s'.cache := by
  have called : SyncCalled history (s.client ()) :=
    run.invariant (fun history s => SyncCalled history (s.client ()))
      (show SyncCalled [] .idle from trivial)
      (fun called okay stepped => called.step okay.1.1 stepped)
  have inv := coherent_run (run.mono fun _ _ okay => okay.1)
  cases Threads.step_cases undisturbed.1.1 returns with
  | @client k c pc event moved =>
    obtain ⟨waiting, upToDate⟩ := Coherent.synced_step inv undisturbed.2 moved rfl
    have last : history.getLast? = some (.called () none) := by
      rcases waiting with here | here <;> rw [here] at called <;> exact called
    intro before during split quiet block _ i bound
    rw [Threads.moveClient_cache, upToDate, stored_eq_of_syncCalled last split quiet,
      stored_at _ _ _ bound]

/-- Whether an event is the call of a sync. -/
def Event.callsSync : Event Unit → Bool
  | .called _ none => true
  | _ => false

/-- Whether an event is the return of a sync. -/
def Event.returnsSync : Event Unit → Bool
  | .synced _ => true
  | _ => false

theorem Event.callsSync_iff {event : Event Unit} :
    event.callsSync = true ↔ event = .called () none := by
  unfold Event.callsSync
  split <;> simp_all

theorem Event.returnsSync_iff {event : Event Unit} :
    event.returnsSync = true ↔ event = .synced () := by
  unfold Event.returnsSync
  split <;> simp_all

/-- A write and a sync that waits for its own flush. -/
theorem sync_isDurable_afterWrite :
    ∃ history s act s', (Threads.system Unit).Run SyncsUndisturbed (.init Unit blankFlash) history s ∧
      (Threads.system Unit).step s act = some (s', some (.synced ())) ∧
      history.getLast? = some (.called () none) ∧ SyncDurable blankFlash history s'.cache := by
  obtain ⟨history, s, run, checked⟩ :=
    (Threads.system Unit).exists_run_of_exec SyncsUndisturbed (.init Unit blankFlash)
      (.flush :: missAccess () (writeOf 0 1) ++ .call () none :: clientSteps () 2 ++ flushSteps 6)
      (fun result => result.1.getLast?.any Event.callsSync &&
        ((Threads.system Unit).step result.2 (.client ())).any (fun next =>
          next.2.any Event.returnsSync) && decide (SyncsUndisturbed result.2 (.client ())))
      rfl
  simp only [Bool.and_eq_true, Option.any_eq_true, Event.callsSync_iff, Event.returnsSync_iff,
    decide_eq_true_eq] at checked
  obtain ⟨⟨⟨_, last, rfl⟩, ⟨s', _⟩, returns, _, rfl, rfl⟩, undisturbed⟩ := checked
  exact ⟨history, s, .client (), s', run, returns, last, sync_isDurable run undisturbed returns⟩

/-- The token of a timeout flush releases the sync of a later write at once. -/
theorem sync_isDurable_fails :
    ¬ ∀ (flash : Bytes) (history : List (Event Unit)) (s s' : Threads Unit) (act : Act Unit),
      (Threads.system Unit).Run Threads.NvsSucceeds (.init Unit flash) history s →
        s.NvsSucceeds act → (Threads.system Unit).step s act = some (s', some (.synced ())) →
        SyncDurable flash history s'.cache := by
  intro claim
  obtain ⟨history, s, run, stale⟩ :=
    (Threads.system Unit).exists_run_of_exec Threads.NvsSucceeds (.init Unit blankFlash)
      (.flush :: missAccess () (writeOf 0 1) ++ .timeout :: flushSteps 5 ++
        hitAccess () (writeOf 0 2) ++ .call () none :: clientSteps () 2)
      (fun result => result.1.getLast?.any Event.callsSync &&
        ((Threads.system Unit).step result.2 (.client ())).any (fun next =>
          next.2.any Event.returnsSync &&
            next.1.cache.flash 0 != lastStored blankFlash result.1.dropLast 0 0))
      rfl
  simp only [Bool.and_eq_true, Option.any_eq_true, Event.callsSync_iff, Event.returnsSync_iff,
    bne_iff_ne] at stale
  obtain ⟨⟨_, last, rfl⟩, ⟨s', _⟩, returns, ⟨_, rfl, rfl⟩, differs⟩ := stale
  have split := List.dropLast_append_getLast? _ last
  exact differs (claim _ _ _ s' (.client ()) run trivial returns _ [] split.symm
    (fun _ => List.not_mem_nil) 0 (by decide) 0 (by decide))

end OneClient

end TildaMk4.Storage
