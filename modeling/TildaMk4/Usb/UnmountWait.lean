import TildaMk4.Usb.Handover

/-!
# Waiting for an unmount

`disable_usb` pends before it looks at anything. Its wait is one that a host can
end in every run in which it begins only with a token, an open medium or a close
in progress (`PendsReleasable`), and in which the semaphore is not created anew
under it (`KeepsSemaphore`).
-/

namespace TildaMk4.Usb

open Transition

/-- The daemon is inside `storage_close_usb`. -/
def DaemonPc.closing : DaemonPc → Bool
  | .closeLock | .closeWait _ | .closeClear | .closeUnlock | .closePost => true
  | _ => false

def DaemonPc.atCreateSem : DaemonPc → Bool
  | .init .createSem => true
  | _ => false

def DaemonPc.atClosePost : DaemonPc → Bool
  | .closePost => true
  | _ => false

/-- The semaphore object that the Python thread pends on in `disable_usb`. -/
def PythonPc.pendsOn : PythonPc → Option Nat
  | .disablePendWait sem => some sem
  | _ => none

def PythonPc.atDisablePend : PythonPc → Bool
  | .disablePend => true
  | _ => false

/-- `disable_usb` is blocked on the semaphore object `sem`. -/
def BlockedOn (s : Handover) (sem : Nat) : Prop :=
  s.python.pendsOn = some sem ∧ s.globals.token sem = false

instance (s : Handover) (sem : Nat) : Decidable (BlockedOn s sem) :=
  inferInstanceAs (Decidable (_ ∧ _))

/-- `disable_usb` pends only when something can release it. -/
def PendsReleasable (s : Handover) : HandoverAct → Prop
  | .python => s.python.atDisablePend = true →
    s.globals.token s.globals.semUSBUnmountWait = true ∨ s.globals.usbInUse = true ∨
      s.daemon.closing = true
  | _ => True

/-- `storage_init` does not replace the semaphore that `disable_usb` is blocked on. -/
def KeepsSemaphore (s : Handover) : HandoverAct → Prop
  | .daemon => s.daemon.atCreateSem = true → ∀ sem ∈ s.python.pendsOn, s.globals.token sem = true
  | _ => True

def WaitsReleasable (s : Handover) (act : HandoverAct) : Prop :=
  PendsReleasable s act ∧ KeepsSemaphore s act

instance (s : Handover) (act : HandoverAct) : Decidable (PendsReleasable s act) :=
  match act with
  | .python => inferInstanceAs (Decidable (_ → _))
  | .enableUsb | .disableUsb | .storageInit | .openUsb _ | .closeUsb | .daemon => isTrue trivial

instance (s : Handover) (act : HandoverAct) : Decidable (KeepsSemaphore s act) :=
  match act with
  | .daemon => inferInstanceAs (Decidable (_ → _))
  | .enableUsb | .disableUsb | .storageInit | .openUsb _ | .closeUsb | .python => isTrue trivial

instance (s : Handover) (act : HandoverAct) : Decidable (WaitsReleasable s act) :=
  inferInstanceAs (Decidable (_ ∧ _))

/-- A blocked `disable_usb` waits for a medium that is open or being closed, and
a post that is about to be made goes to its semaphore. -/
def UnmountComes (s : Handover) : Prop :=
  ∀ sem, BlockedOn s sem → (s.globals.usbInUse = true ∨ s.daemon.closing = true) ∧
    (s.daemon.atClosePost = true → s.globals.semUSBUnmountWait = sem)

structure WaitInv (s : Handover) : Prop where
  known : ∀ sem, s.python.pendsOn = some sem → sem ≤ s.globals.semUSBUnmountWait
  held : ∀ sem, BlockedOn s sem →
    (s.globals.usbInUse = true ∨ s.daemon.closing = true) ∧ s.globals.semUSBUnmountWait = sem

variable {g g' : Globals} {s s' : Handover} {act : HandoverAct} {event : Option HandoverEvent}
  {history : List HandoverEvent} {pc pc' : PythonPc} {daemon daemon' : DaemonPc}

/-- Only `disablePend` makes the Python thread wait, on the current object. -/
theorem PythonStep.pendsOn {sem : Nat} (step : PythonStep g pc g' pc' event)
    (pends : pc'.pendsOn = some sem) :
    pc.atDisablePend = true ∧ g' = g ∧ g.semUSBUnmountWait = sem := by
  cases step with
  | disablePend =>
    cases pends
    exact ⟨rfl, rfl, rfl⟩
  | @init pc => cases pc <;> cases pends
  | enableLock | enableWait | enableSet | enableUnlock | disablePendWait | disableLock
  | disableWait | inUse | notInUse | disableClear | disableUnlock | disableReturn => cases pends

/-- What a daemon statement leaves of a wait that a host can end: only the post
ends a close, and only `createSem` moves the handle. -/
theorem DaemonStep.keepsWait {sem : Nat} (step : DaemonStep g daemon g' daemon' event)
    (same : g.semUSBUnmountWait = sem) (blocked : g'.token sem = false)
    (kept : daemon.atCreateSem = false)
    (comes : g.usbInUse = true ∨ daemon.closing = true) :
    (g'.usbInUse = true ∨ daemon'.closing = true) ∧ g'.semUSBUnmountWait = sem := by
  subst same
  cases step with
  | closePost =>
    rw [Globals.setToken_self] at blocked
    cases blocked
  | @init pc =>
    cases pc with
    | createSem => cases kept
    | createMutex => exact ⟨comes.imp_right nofun, rfl⟩
    | testInitialised => exact ⟨comes.imp_right nofun, rfl⟩
  | closeLock | closeWait | closeClear | closeUnlock => exact ⟨.inr rfl, rfl⟩
  | openSet => exact ⟨.inl rfl, rfl⟩
  | openLock | openWait | enabled | notEnabled | openUnlock | openReturn =>
    exact ⟨.inl (comes.resolve_right nofun), rfl⟩

theorem DaemonStep.handle_le (step : DaemonStep g daemon g' daemon' event) :
    g.semUSBUnmountWait ≤ g'.semUSBUnmountWait := by
  cases step with
  | @init pc =>
    cases pc with
    | createSem => exact Nat.le_succ _
    | createMutex | testInitialised => exact Nat.le_refl _
  | openLock | openWait | enabled | notEnabled | openSet | openUnlock | openReturn | closeLock
  | closeWait | closeClear | closeUnlock | closePost => exact Nat.le_refl _

/-- A daemon statement takes a token only by creating a new object. -/
theorem DaemonStep.token {sem : Nat} (step : DaemonStep g daemon g' daemon' event)
    (known : sem ≤ g.semUSBUnmountWait) (blocked : g'.token sem = false) : g.token sem = false := by
  cases step with
  | @init pc =>
    cases pc with
    | createSem =>
      have fresh : sem ≠ g.semUSBUnmountWait + 1 := by omega
      simpa only [initStep, Globals.createSem, Function.update_of_ne fresh] using blocked
    | createMutex | testInitialised => exact blocked
  | closePost =>
    by_cases own : sem = g.semUSBUnmountWait
    · subst own
      rw [Globals.setToken_self] at blocked
      cases blocked
    · simpa only [Globals.setToken, Function.update_of_ne own] using blocked
  | openLock | openWait | enabled | notEnabled | openSet | openUnlock | openReturn | closeLock
  | closeWait | closeClear | closeUnlock => exact blocked

theorem WaitInv.daemonStep (inv : WaitInv s) (keeps : KeepsSemaphore s .daemon)
    (moved : DaemonStep s.globals s.daemon g daemon event) :
    WaitInv { s with globals := g, daemon := daemon } := by
  refine ⟨fun sem pends => ?_, fun sem ⟨pends, blocked⟩ => ?_⟩
  · exact Nat.le_trans (inv.known sem pends) moved.handle_le
  · have before := moved.token (inv.known sem pends) blocked
    obtain ⟨comes, same⟩ := inv.held sem ⟨pends, before⟩
    refine moved.keepsWait same blocked ?_ comes
    by_contra creating
    have token := keeps (eq_true_of_ne_false creating) sem pends
    exact absurd (before.symm.trans token) nofun

theorem waitInv_pythonStep (pends : PendsReleasable s .python)
    (moved : PythonStep s.globals s.python g pc event) :
    WaitInv { s with globals := g, python := pc } := by
  refine ⟨fun sem waits => ?_, fun sem ⟨waits, blocked⟩ => ?_⟩
  · obtain ⟨_, rfl, same⟩ := moved.pendsOn waits
    exact Nat.le_of_eq same.symm
  · obtain ⟨here, rfl, rfl⟩ := moved.pendsOn waits
    refine ⟨(pends here).resolve_left fun token => ?_, rfl⟩
    exact absurd (blocked.symm.trans token) nofun

theorem waitInv_of_not_pending (idle : s.python.pendsOn = none) : WaitInv s := by
  constructor
  · intro sem pends
    rw [idle] at pends
    cases pends
  · rintro sem ⟨pends, _⟩
    rw [idle] at pends
    cases pends

theorem WaitInv.step (inv : WaitInv s) (okay : WaitsReleasable s act)
    (stepped : Handover.system.step s act = some (s', event)) : WaitInv s' := by
  cases Handover.step_cases stepped with
  | enableUsb | disableUsb | storageInit => exact waitInv_of_not_pending rfl
  | openUsb idle =>
    refine ⟨inv.known, fun sem blocked => ?_⟩
    obtain ⟨comes, same⟩ := inv.held sem blocked
    rw [idle] at comes
    exact ⟨.inl (comes.resolve_right nofun), same⟩
  | closeUsb idle => exact ⟨inv.known, fun sem blocked => ⟨.inr rfl, (inv.held sem blocked).2⟩⟩
  | python moved => exact waitInv_pythonStep okay.1 moved
  | daemon moved => exact inv.daemonStep okay.2 moved

/-- `disable_usb` never waits for an unmount that cannot come, in every run in
which it pends only where something can release it and keeps its semaphore. -/
theorem unmount_comes (run : Handover.system.Run WaitsReleasable .init history s) :
    UnmountComes s := by
  have inv : WaitInv s :=
    run.invariant (fun _ s => WaitInv s) (waitInv_of_not_pending rfl)
      (fun inv okay stepped => inv.step okay stepped)
  intro sem blocked
  obtain ⟨comes, same⟩ := inv.held sem blocked
  exact ⟨comes, fun _ => same⟩

/-- The host mounts, `disable_usb` pends, and the host ejects. -/
theorem unmount_comes_ejecting :
    ∃ history s, Handover.system.Run WaitsReleasable .init history s ∧ BlockedOn s 1 ∧
      UnmountComes s := by
  obtain ⟨history, s, run, blocked⟩ :=
    Handover.system.exists_run_of_exec WaitsReleasable .init
      (HandoverAct.enableUsb :: List.replicate 4 HandoverAct.python ++
        HandoverAct.openUsb true :: List.replicate 9 HandoverAct.daemon ++
        HandoverAct.disableUsb :: List.replicate 1 HandoverAct.python ++
        HandoverAct.closeUsb :: List.replicate 4 HandoverAct.daemon)
      (fun (_, s) => decide (BlockedOn s 1))
      rfl
  exact ⟨history, s, run, of_decide_eq_true blocked, unmount_comes run⟩

/-- After the start-up nothing is mounted, and `disable_usb` pends for ever. -/
theorem unmount_comes_fails :
    ¬ ∀ (history : List HandoverEvent) (s : Handover),
      Handover.system.Run (fun _ _ => True) .init history s → UnmountComes s := by
  intro claim
  obtain ⟨history, s, run, stuck⟩ :=
    Handover.system.exists_run_of_exec (fun _ _ => True) .init [.disableUsb, .python]
      (fun (_, s) => decide (BlockedOn s 0 ∧ s.globals.usbInUse = false ∧ s.daemon.closing = false))
      rfl
  obtain ⟨blocked, notInUse, notClosing⟩ := of_decide_eq_true stuck
  rcases (claim _ _ run 0 blocked).1 with inUse | closing
  · exact absurd (notInUse.symm.trans inUse) nofun
  · exact absurd (notClosing.symm.trans closing) nofun

end TildaMk4.Usb
