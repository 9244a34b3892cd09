import Mathlib.Data.Fintype.Basic
import TildaMk4.Storage.Threads

/-!
# Who releases a waiting sync

A flush posts one binary token whatever the number of clients that wait for it.
No client is stranded as long as the token is taken only when that leaves nobody
waiting, or when a flush that will post again is still to come (`SparesToken`).
-/

namespace TildaMk4.Storage

open Transition

instance : Fintype StorageClient where
  elems := {.microPython, .usbDaemon}
  complete client := by cases client <;> decide

/-- The client has found the cache dirty and needs the clean token. -/
def ClientPc.waiting : ClientPc → Bool
  | .syncPost _ | .syncPend _ => true
  | _ => false

def ClientPc.pending : ClientPc → Bool
  | .syncPend _ => true
  | _ => false

variable {ι : Type}

/-- A token is still to come, or is there. -/
def Releasable (c : Cache) (flush : FlushPc) : Prop :=
  c.flushFlashBdevClean = true ∨ c.flashFlagDirty = true ∨ flush = .postClean

/-- A client takes the clean token only if no other client waits, or the flag is
still set, or the flush is about to post. -/
def SparesToken (s : Threads ι) : Act ι → Prop
  | .client k => (s.client k).pending = true →
    (∀ other, other ≠ k → (s.client other).waiting = false) ∨
      s.cache.flashFlagDirty = true ∨ s.flush = .postClean
  | _ => True

/-- Blocked in `SemaphoreP_pend(flushFlashBdevClean)` with nothing on its way: the
cache is clean, the flush thread is back in its own pend, and there is no token. -/
def Stranded (s : Threads ι) (k : ι) : Prop :=
  (s.client k).pending = true ∧ s.cache.flashFlagDirty = false ∧ s.flush = .pend ∧
    s.cache.flushFlashBdevCache = false ∧ s.cache.flushFlashBdevClean = false

instance (s : Threads ι) (k : ι) : Decidable (Stranded s k) :=
  inferInstanceAs (Decidable (_ ∧ _ ∧ _ ∧ _ ∧ _))

instance [DecidableEq ι] [Fintype ι] (s : Threads ι) (act : Act ι) : Decidable (SparesToken s act) :=
  match act with
  | .client _ => inferInstanceAs (Decidable (_ → _))
  | .call _ _ | .copy _ _ | .readFails _ _ | .flush | .timeout | .writeFails _ => isTrue trivial

def SparesTokens (s : Threads ι) (act : Act ι) : Prop := s.NvsSucceeds act ∧ SparesToken s act

instance [DecidableEq ι] [Fintype ι] (s : Threads ι) (act : Act ι) : Decidable (SparesTokens s act) :=
  inferInstanceAs (Decidable (_ ∧ _))

variable {flash : Bytes} {s s' : Threads ι} {act : Act ι} {history : List (Event ι)}
  {event : Option (Event ι)} {c c' : Cache} {flush flush' : FlushPc} {pc pc' : ClientPc} {k : ι}

/-- Whoever waits can be released. -/
def NobodyStranded (s : Threads ι) : Prop :=
  ∀ k, (s.client k).waiting = true → Releasable s.cache s.flush

/-- A client gives up what releases the others only by taking the token. -/
theorem ClientStep.releasable (step : ClientStep k c pc c' pc' event)
    (releasable : Releasable c flush) :
    Releasable c' flush ∨ pc.pending = true ∧
      (Releasable c' flush ↔ c.flashFlagDirty = true ∨ flush = .postClean) := by
  cases step with
  | pend => exact .inr ⟨rfl, by simp [Releasable]⟩
  | setDirty => exact .inl (.inr (.inl rfl))
  | badBlock | goodBlock | miss | hit | dirty | clean | post | nvsRead | setId | setStart
  | setSize | ledOn | return_ => exact .inl releasable

theorem located_waiting (a : Access) : (located a).waiting = false := by
  unfold located
  split <;> rfl

theorem ClientStep.waiting (step : ClientStep k c pc c' pc' event)
    (waits : pc'.waiting = true) (own : pc.waiting = true → Releasable c flush) :
    Releasable c' flush := by
  cases step with
  | dirty dirty => exact .inr (.inl dirty)
  | post => exact own rfl
  | hit | setSize =>
    rw [located_waiting] at waits
    cases waits
  | @clean caller | @pend caller => cases caller <;> cases waits
  | badBlock | goodBlock | miss | nvsRead | setId | setStart | setDirty | ledOn | return_ =>
    cases waits

theorem CopyStep.releasable {n : Nat} (step : CopyStep n c pc c' pc')
    (releasable : Releasable c flush) : Releasable c' flush := by
  cases step <;> exact releasable

theorem CopyStep.not_waiting {n : Nat} (step : CopyStep n c pc c' pc') : pc'.waiting = false := by
  cases step <;> rfl

/-- The flush clears the flag on the way to posting the token. -/
theorem FlushStep.releasable (step : FlushStep c flush c' flush')
    (releasable : Releasable c flush) : Releasable c' flush' := by
  cases step with
  | clearFlags => exact .inr (.inr rfl)
  | postClean => exact .inl rfl
  | dirty | clean | nvsWrite | ledOff | pend | timeout =>
    exact releasable.imp_right fun later => .inl (later.resolve_right nofun)

theorem ClientPc.waiting_of_pending (pending : pc.pending = true) : pc.waiting = true := by
  cases pc with
  | syncPend => rfl
  | _ => cases pending

variable [DecidableEq ι]

theorem NobodyStranded.step (inv : NobodyStranded s) (spares : SparesTokens s act)
    (stepped : (Threads.system ι).step s act = some (s', event)) : NobodyStranded s' := by
  intro other waits
  cases Threads.step_cases spares.1 stepped with
  | @call k op idle =>
    by_cases same : other = k
    · subst same
      rw [Threads.moveClient_client_self] at waits
      cases op <;> cases waits
    · rw [Threads.moveClient_client_of_ne _ _ _ same] at waits
      exact inv other waits
  | @client k c pc event moved =>
    by_cases same : other = k
    · subst same
      rw [Threads.moveClient_client_self] at waits
      exact moved.waiting waits (inv other)
    · rw [Threads.moveClient_client_of_ne _ _ _ same] at waits
      rcases moved.releasable (inv other waits) with kept | ⟨pending, exactly⟩
      · exact kept
      · refine exactly.mpr ((spares.2 pending).resolve_left fun alone => ?_)
        exact absurd waits (by rw [alone other same]; nofun)
  | @copy k n c pc moved =>
    by_cases same : other = k
    · subst same
      rw [Threads.moveClient_client_self, moved.not_waiting] at waits
      cases waits
    · rw [Threads.moveClient_client_of_ne _ _ _ same] at waits
      exact moved.releasable (inv other waits)
  | flush moved => exact moved.releasable (inv other waits)
  | timeout _ moved => exact moved.releasable (inv other waits)

/-- No lost wake-up, in every run in which nobody takes a token that another
client still needs. -/
theorem not_stranded (run : (Threads.system ι).Run SparesTokens (.init ι flash) history s) (k : ι) :
    ¬ Stranded s k := by
  have inv : NobodyStranded s :=
    run.invariant (fun _ s => NobodyStranded s)
      (fun _ waits => nomatch (show (ClientPc.idle).waiting = true from waits))
      (fun inv spares stepped => inv.step spares stepped)
  rintro ⟨pending, clean, waiting, _, noToken⟩
  rcases inv k (ClientPc.waiting_of_pending pending) with token | dirty | posting
  · exact absurd (noToken.symm.trans token) nofun
  · exact absurd (clean.symm.trans dirty) nofun
  · exact absurd (waiting.symm.trans posting) nofun

/-- A sync of one client waits while the other goes on. -/
theorem not_stranded_oneWaiting :
    ∃ history s, (Threads.system StorageClient).Run SparesTokens (.init _ blankFlash) history s ∧
      (s.client .microPython).pending = true ∧ ¬ Stranded s .microPython := by
  obtain ⟨history, s, run, waits⟩ :=
    (Threads.system StorageClient).exists_run_of_exec SparesTokens (.init _ blankFlash)
      (.flush :: missAccess .usbDaemon (writeOf 0 1) ++ .call .microPython none ::
        clientSteps .microPython 2 ++ flushSteps 4 ++ hitAccess .usbDaemon (readOf 0))
      (fun (_, s) => (s.client .microPython).pending) rfl
  exact ⟨history, s, run, waits, not_stranded run _⟩

/-- Two clients find the cache dirty, one flush posts one token, and one client
takes it. -/
theorem not_stranded_fails :
    ¬ ∀ (flash : Bytes) (history : List (Event StorageClient)) (s : Threads StorageClient),
      (Threads.system StorageClient).Run Threads.NvsSucceeds (.init _ flash) history s →
        ∀ k, ¬ Stranded s k := by
  intro claim
  obtain ⟨history, s, run, stuck⟩ :=
    (Threads.system StorageClient).exists_run_of_exec Threads.NvsSucceeds (.init _ blankFlash)
      (.flush :: missAccess .usbDaemon (writeOf 0 1) ++
        .call .microPython none :: clientSteps .microPython 2 ++
        .call .usbDaemon none :: clientSteps .usbDaemon 2 ++ flushSteps 6 ++
        clientSteps .microPython 1)
      (fun (_, s) => decide (Stranded s .usbDaemon)) rfl
  exact claim _ _ _ run _ (of_decide_eq_true stuck)

end TildaMk4.Storage
