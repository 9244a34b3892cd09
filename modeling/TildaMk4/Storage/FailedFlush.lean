import TildaMk4.Storage.WakeUp

/-!
# A flush that fails

The exception of a failed `NVS_write` is raised in the flush thread, which ends. What
the cache holds is not lost, but nobody is left to post the token that a sync waits for.
-/

namespace TildaMk4.Storage

open Memory Transition

variable {ι : Type}

/-- `NVS_write` succeeds; an `NVS_read` may fail. -/
def NvsWriteSucceeds (_ : Threads ι) : Act ι → Prop
  | .writeFails _ => False
  | _ => True

instance (s : Threads ι) (act : Act ι) : Decidable (NvsWriteSucceeds s act) :=
  match act with
  | .writeFails _ => isFalse id
  | .call _ _ | .client _ | .copy _ _ | .readFails _ _ | .flush | .timeout => isTrue trivial

/-- Blocked in `SemaphoreP_pend(flushFlashBdevClean)` with the flush thread dead. -/
def Orphaned (s : Threads ι) (k : ι) : Prop :=
  (s.client k).pending = true ∧ s.cache.flushFlashBdevClean = false ∧ s.flush = .ended

instance (s : Threads ι) (k : ι) : Decidable (Orphaned s k) :=
  inferInstanceAs (Decidable (_ ∧ _ ∧ _))

/-- Only the flash differs: the flags and the cached data are the same. -/
def KeepsCache (c c' : Cache) : Prop := c' = { c with flash := c'.flash }

/-- What is expected of a step: a failing `NVS_write` keeps the cache and the flush
thread, and no client is blocked for want of that thread. -/
structure LosesNothing (s : Threads ι) (act : Act ι) (s' : Threads ι) : Prop where
  failedWrite : ∀ garbage, act = .writeFails garbage →
    KeepsCache s.cache s'.cache ∧ s'.flush ≠ .ended
  nobody : ∀ k, ¬ Orphaned s' k

section Step

variable {c c' : Cache} {flush flush' : FlushPc} {pc pc' : ClientPc} {k : ι}
  {event : Option (Event ι)}

theorem FlushStep.alive (step : FlushStep c flush c' flush') : flush' ≠ .ended := by
  cases step <;> nofun

/-- A client never posts the clean token. -/
theorem ClientStep.noToken (step : ClientStep k c pc c' pc' event)
    (none_ : c.flushFlashBdevClean = false) : c'.flushFlashBdevClean = false := by
  cases step with
  | pend => rfl
  | badBlock | goodBlock | miss | hit | dirty | clean | post | nvsRead | setId | setStart
  | setSize | setDirty | ledOn | return_ => exact none_

/-- A client that pends without a token makes no step. -/
theorem ClientStep.not_pending (step : ClientStep k c pc c' pc' event)
    (none_ : c.flushFlashBdevClean = false) : pc.pending = false := by
  cases step with
  | pend token => exact absurd (none_.symm.trans token) nofun
  | badBlock | goodBlock | miss | hit | dirty | clean | post | nvsRead | setId | setStart
  | setSize | setDirty | ledOn | return_ => rfl

theorem CopyStep.noToken {n : Nat} (step : CopyStep n c pc c' pc')
    (none_ : c.flushFlashBdevClean = false) : c'.flushFlashBdevClean = false := by
  cases step <;> exact none_

theorem CopyStep.not_pending {n : Nat} (step : CopyStep n c pc c' pc') : pc.pending = false := by
  cases step <;> rfl

end Step

variable [DecidableEq ι] {flash : Bytes} {s s' : Threads ι} {act : Act ι}
  {history : List (Event ι)} {event : Option (Event ι)} {k : ι}

theorem step_readFails {k : ι} {garbage : Bytes}
    (stepped : (Threads.system ι).step s (.readFails k garbage) = some (s', event)) :
    ∃ a, s.client k = .nvsRead a ∧ s' = s.moveClient k { s.cache with
      flashCacheMem := blit s.cache.flashCacheMem 0 garbage 0 a.sector.size } .idle := by
  simp only [Threads.system, Threads.step] at stepped
  split at stepped
  next a reading =>
    cases stepped
    exact ⟨a, reading, rfl⟩
  next => cases stepped

theorem step_writeFails {garbage : Bytes}
    (stepped : (Threads.system ι).step s (.writeFails garbage) = some (s', event)) :
    s.flush = .nvsWrite ∧ s'.flush = .ended ∧ s'.client = s.client ∧
      KeepsCache s.cache s'.cache := by
  simp only [Threads.system, Threads.step] at stepped
  split at stepped
  next writing =>
    cases stepped
    exact ⟨writing, rfl, rfl, rfl⟩
  next => cases stepped

theorem alive_step (alive : s.flush ≠ .ended) (succeeds : NvsWriteSucceeds s act)
    (stepped : (Threads.system ι).step s act = some (s', event)) : s'.flush ≠ .ended := by
  by_cases all : s.NvsSucceeds act
  · cases Threads.step_cases all stepped with
    | call | client | copy => exact alive
    | flush moved => exact moved.alive
    | timeout _ moved => exact moved.alive
  · cases act with
    | readFails k garbage =>
      obtain ⟨a, -, rfl⟩ := step_readFails stepped
      exact alive
    | writeFails => exact succeeds.elim
    | call | client | copy | flush | timeout => exact absurd trivial all

theorem Orphaned.step (orphaned : Orphaned s k)
    (stepped : (Threads.system ι).step s act = some (s', event)) : Orphaned s' k := by
  obtain ⟨pending, none_, dead⟩ := orphaned
  have other {j : ι} (c : Cache) (pc : ClientPc) (apart : (s.client j).pending = false) :
      ((s.moveClient j c pc).client k).pending = true := by
    rw [Threads.moveClient_client_of_ne, pending]
    rintro rfl
    exact absurd (apart.symm.trans pending) nofun
  by_cases all : s.NvsSucceeds act
  · cases Threads.step_cases all stepped with
    | call idle => exact ⟨other _ _ (by rw [idle]; rfl), none_, dead⟩
    | client moved => exact ⟨other _ _ (moved.not_pending none_), moved.noToken none_, dead⟩
    | copy moved => exact ⟨other _ _ moved.not_pending, moved.noToken none_, dead⟩
    | flush moved =>
      rw [dead] at moved
      cases moved
    | timeout waits => exact absurd (waits.symm.trans dead) nofun
  · cases act with
    | readFails j garbage =>
      obtain ⟨a, reading, rfl⟩ := step_readFails stepped
      exact ⟨other _ _ (by rw [reading]; rfl), none_, dead⟩
    | writeFails =>
      have writing := (step_writeFails stepped).1
      exact absurd (writing.symm.trans dead) nofun
    | call | client | copy | flush | timeout => exact absurd trivial all

/-- Nothing that is done afterwards releases an orphaned client. -/
theorem Orphaned.forever (orphaned : Orphaned s k)
    (run : (Threads.system ι).Run (fun _ _ => True) s history s') : Orphaned s' k :=
  run.invariant (fun _ s => Orphaned s k) orphaned fun kept _ stepped => kept.step stepped

/-- As long as no `NVS_write` has failed nobody is orphaned, and the next step loses
nothing if and only if it is not a failing `NVS_write`. -/
theorem failedFlush_losesNothing_iff
    (run : (Threads.system ι).Run NvsWriteSucceeds (.init ι flash) history s) :
    (∀ k, ¬ Orphaned s k) ∧
      ∀ act s' event, (Threads.system ι).step s act = some (s', event) →
        (LosesNothing s act s' ↔ NvsWriteSucceeds s act) := by
  have alive := run.invariant (fun _ s => s.flush ≠ .ended)
    (show FlushPc.test ≠ .ended by decide) fun kept succeeds stepped => alive_step kept succeeds stepped
  refine ⟨fun k orphaned => alive orphaned.2.2, fun act s' event stepped => ⟨?_, ?_⟩⟩
  · intro good
    cases act with
    | writeFails garbage =>
      exact (good.failedWrite garbage rfl).2 (step_writeFails stepped).2.1
    | call | client | copy | readFails | flush | timeout => trivial
  · intro succeeds
    refine ⟨?_, fun k orphaned => alive_step alive succeeds stepped orphaned.2.2⟩
    rintro garbage rfl
    exact succeeds.elim

/-- Up to the `NVS_write` of a sync. -/
theorem failedFlush_losesNothing_iff_sync :
    ∃ history s, (Threads.system StorageClient).Run NvsWriteSucceeds (.init _ blankFlash)
        history s ∧
      s.flush = .nvsWrite ∧ ∀ k, ¬ Orphaned s k := by
  obtain ⟨history, s, run, writing⟩ :=
    (Threads.system StorageClient).exists_run_of_exec NvsWriteSucceeds (.init _ blankFlash)
      (.flush :: missAccess .usbDaemon (writeOf 0 1) ++ .call .microPython none ::
        clientSteps .microPython 2 ++ flushSteps 2)
      (fun (_, s) => decide (s.flush = .nvsWrite)) rfl
  exact ⟨history, s, run, of_decide_eq_true writing, (failedFlush_losesNothing_iff run).1⟩

/-- The `NVS_write` for a waiting sync fails: the flush thread ends and the client is
blocked for good. -/
theorem failedFlush_losesNothing_fails :
    ¬ ∀ (flash : Bytes) (history : List (Event StorageClient)) (s : Threads StorageClient),
      (Threads.system StorageClient).Run (fun _ _ => True) (.init _ flash) history s →
        (∀ k, ¬ Orphaned s k) ∧
        ∀ act s' event, (Threads.system StorageClient).step s act = some (s', event) →
          LosesNothing s act s' := by
  intro claim
  obtain ⟨history, s, run, stuck⟩ :=
    (Threads.system StorageClient).exists_run_of_exec (fun _ _ => True) (.init _ blankFlash)
      (.flush :: missAccess .usbDaemon (writeOf 0 1) ++ .call .microPython none ::
        clientSteps .microPython 2 ++ flushSteps 2 ++ [.writeFails blankFlash])
      (fun (_, s) => decide (Orphaned s .microPython)) rfl
  exact (claim _ _ _ run).1 _ (of_decide_eq_true stuck)

end TildaMk4.Storage
