import Mathlib.Algebra.GroupWithZero.Nat
import Mathlib.Data.List.Forall2
import Mathlib.Data.List.TakeWhile
import TildaMk4.Lib.Transition

/-!
# The reset mode and the passes of `mp_main`

From `soft_reset` to `soft_reset_exit` of `mpmain-emf.c`: how long the menu button is held
selects the reset mode, which decides whether the flash is formatted and which scripts run.
The answers of FatFs, of the scripts and of the REPL are a parameter of each pass.
-/

namespace TildaMk4.Boot

open Transition

/-- What a pass does to the outside, in its order. -/
inductive Call
  | ledState (led state : Nat)
  | delayMs (ms : Nat)
  | machineSetup
  | mpInit
  | tildaInit0
  | fMount
  | fMkfs
  | fSetlabel
  | fCreate (path : String)
  | fStat (path : String)
  | mountFlash
  | importStat (path : String)
  | execFile (path : String)
  | rawRepl
  | friendlyRepl
  | storageFlush
  | machineTeardown
  | mpDeinit
  | gcSweepAll
  deriving DecidableEq

/-- `TILDA_LED_RED` and `TILDA_LED_GREEN`. -/
def ledRed : Nat := 1
def ledGreen : Nat := 2

/-- `led_state(TILDA_LED_RED, reset_mode & 1)` and the same for green and `& 2`. -/
def showMode (resetMode : Nat) : List Call :=
  [.ledState ledRed (resetMode &&& 1), .ledState ledGreen (resetMode &&& 2)]

/-- `if (++reset_mode > 3) reset_mode = 1`. -/
def nextMode (resetMode : Nat) : Nat := if resetMode + 1 > 3 then 1 else resetMode + 1

/-- The loop while the button is held, from round `i` on with `left` rounds to go. Read
`i + 1` of the pin is the one in round `i`. -/
def holdLoop (held : Nat → Bool) : Nat → Nat → Nat → List Call × Nat
  | 0, _, resetMode => ([], resetMode)
  | left + 1, i, resetMode =>
    if held (i + 1) then
      if i % 30 = 29 then
        let rest := holdLoop held left (i + 1) (nextMode resetMode)
        (.delayMs 20 :: showMode (nextMode resetMode) ++ rest.1, rest.2)
      else
        let rest := holdLoop held left (i + 1) resetMode
        (.delayMs 20 :: rest.1, rest.2)
    else ([], resetMode)

/-- One of the six flashes of the selected mode. -/
def flashMode (resetMode : Nat) : List Call :=
  [.ledState ledRed 0, .ledState ledGreen 0, .delayMs 50] ++ showMode resetMode ++ [.delayMs 50]

def updateResetMode (held : Nat → Bool) (resetMode : Nat) : List Call × Nat :=
  if held 0 then
    let selected := holdLoop held 3000 0 resetMode
    (showMode resetMode ++ selected.1 ++ (List.replicate 6 (flashMode selected.2)).flatten ++
      [.delayMs 400], selected.2)
  else ([], resetMode)

/-- How many reads after the first find the button still held. -/
def heldReads (held : Nat → Bool) (i left : Nat) : Nat :=
  ((List.range' i left).takeWhile fun i => held (i + 1)).length

theorem heldReads_succ (held : Nat → Bool) (i left : Nat) :
    heldReads held i (left + 1) = if held (i + 1) then heldReads held (i + 1) left + 1 else 0 := by
  rw [heldReads, List.range'_succ, List.takeWhile_cons]
  split <;> rfl

/-- The mode moves on once for every thirtieth round. -/
theorem holdLoop_mode (held : Nat → Bool) : ∀ left i resetMode, 1 ≤ resetMode → resetMode ≤ 3 →
    (holdLoop held left i resetMode).2 =
      1 + (resetMode - 1 + ((i + heldReads held i left) / 30 - i / 30)) % 3 := by
  intro left
  induction left with
  | zero =>
    intro i resetMode low high
    have none_ : heldReads held i 0 = 0 := rfl
    rw [holdLoop, none_]
    simp only
    omega
  | succ left ih =>
    intro i resetMode low high
    rw [holdLoop, heldReads_succ]
    split
    next =>
      split
      next turn =>
        have next : 1 ≤ nextMode resetMode ∧ nextMode resetMode ≤ 3 ∧
            nextMode resetMode = 1 + resetMode % 3 := by
          unfold nextMode
          split <;> omega
        have rest := ih (i + 1) (nextMode resetMode) next.1 next.2.1
        simp only
        rw [rest, next.2.2]
        omega
      next between =>
        have rest := ih (i + 1) resetMode low high
        simp only
        rw [rest]
        omega
    next =>
      simp only
      omega

theorem updateResetMode_mode (held : Nat → Bool) :
    (updateResetMode held 1).2 =
      if held 0 then 1 + heldReads held 0 3000 / 30 % 3 else 1 := by
  unfold updateResetMode
  split
  next =>
    simp only
    rw [holdLoop_mode held 3000 0 1 (Nat.le_refl _) (by decide)]
    omega
  next => rfl

/-- The mode that formats the flash takes from 60 to 89 reads, or that many more turns of 90. -/
theorem updateResetMode_eq_three (held : Nat → Bool) :
    (updateResetMode held 1).2 = 3 ↔ held 0 = true ∧ 60 ≤ heldReads held 0 3000 % 90 := by
  rw [updateResetMode_mode]
  split
  next pressed =>
    simp only [pressed, true_and]
    omega
  next released => simp [released]

/-- A button that is stuck selects safe mode. -/
theorem updateResetMode_stuck (held : Nat → Bool) (stuck : ∀ i ≤ 3000, held i = true) :
    (updateResetMode held 1).2 = 2 := by
  have all : heldReads held 0 3000 = 3000 := by
    rw [heldReads, List.takeWhile_eq_self_iff.mpr, List.length_range']
    intro i member
    obtain ⟨_, below⟩ := List.mem_range'_1.mp member
    exact stuck (i + 1) (by omega)
  rw [updateResetMode_mode, if_pos (stuck 0 (Nat.zero_le _)), all]

/-- What FatFs and the heap answer in a pass. -/
inductive FResult
  | ok
  | noFilesystem
  | failed
  deriving DecidableEq

/-- How `pyexec_file` ends. -/
inductive ExecResult
  | succeeded
  | raised
  | forcedExit
  deriving DecidableEq

inductive ReplKind
  | raw
  | friendly
  deriving DecidableEq

/-- The outside of one pass. `repl` is the kind that each call of a REPL leaves, as long as it
does not ask for the reset. -/
structure Pass where
  held : Nat → Bool
  mount : FResult
  mkfs : FResult
  alloc : Bool
  statBoot : FResult
  importStat : String → Bool
  bootResult : ExecResult
  configMain : Option String
  mainResult : ExecResult
  repl : List ReplKind
  kindAfterRepl : ReplKind

/-- The fresh file system of `init_flash_fs`. -/
def freshFs : List Call :=
  [.fSetlabel, .fCreate "/README.txt", .fCreate "/wifi.json", .delayMs 200, .ledState ledGreen 0]

def freshBoot : List Call :=
  [.ledState ledGreen 1, .fCreate "/boot.py", .fCreate "/bootstrap.py", .delayMs 200,
    .ledState ledGreen 0]

/-- The end of `init_flash_fs`, once there is a file system. -/
def mountFs (pass : Pass) : List Call × Bool :=
  if pass.alloc then
    (.mountFlash :: .fStat "/boot.py" :: (if pass.statBoot = .ok then [] else freshBoot), true)
  else ([], false)

def initFlashFs (pass : Pass) (resetMode : Nat) : List Call × Bool :=
  if resetMode = 3 ∨ pass.mount = .noFilesystem then
    if pass.mkfs = .ok then
      ([.fMount, .ledState ledGreen 1, .fMkfs] ++ freshFs ++ (mountFs pass).1, (mountFs pass).2)
    else ([.fMount, .ledState ledGreen 1, .fMkfs], false)
  else if pass.mount = .ok then (.fMount :: (mountFs pass).1, (mountFs pass).2)
  else ([.fMount], false)

/-- `flash_error`: red and green take turns. -/
def flashError (n : Nat) : List Call :=
  (List.replicate n [Call.ledState ledRed 1, .ledState ledGreen 0, .delayMs 250,
    .ledState ledRed 0, .ledState ledGreen 1, .delayMs 250]).flatten ++ [.ledState ledGreen 0]

/-- A script that is run if it is a file: the calls, and whether it forces the exit. -/
def runScript (pass : Pass) (path : String) (result : ExecResult) (flashes : Nat) :
    List Call × Bool :=
  if pass.importStat path then
    match result with
    | .succeeded => ([.importStat path, .execFile path], false)
    | .raised => ([.importStat path, .execFile path] ++ flashError flashes, false)
    | .forcedExit => ([.importStat path, .execFile path], true)
  else ([.importStat path], false)

def replOf : ReplKind → Call
  | .raw => .rawRepl
  | .friendly => .friendlyRepl

/-- The `for (;;)` of the REPL: one call for each kind, the last one asks for the reset. -/
def replLoop (pass : Pass) (kind : ReplKind) : List Call :=
  (kind :: pass.repl).map replOf

/-- Everything before `init_flash_fs`. -/
def prologue (pass : Pass) : List Call :=
  [.ledState ledRed 0, .ledState ledGreen 0, .ledState 3 0, .ledState 4 0, .machineSetup] ++
    (updateResetMode pass.held 1).1 ++ [.mpInit, .tildaInit0]

/-- `soft_reset_exit`. -/
def softResetExit : List Call := [.storageFlush, .machineTeardown, .mpDeinit, .gcSweepAll]

/-- From the boot LEDs on: the main script, then the REPL. -/
def mainAndRepl (pass : Pass) (resetMode : Nat) (kind : ReplKind) : List Call × ReplKind :=
  let leds := [Call.ledState ledGreen 0, .ledState 3 0, .ledState 4 0]
  if (resetMode = 1 ∨ resetMode = 3) ∧ kind = .friendly then
    let main := runScript pass (pass.configMain.getD "main.py") pass.mainResult 3
    if main.2 then (leds ++ main.1, kind)
    else (leds ++ main.1 ++ replLoop pass kind, pass.kindAfterRepl)
  else (leds ++ replLoop pass kind, pass.kindAfterRepl)

/-- One pass, from the kind of REPL that the pass before it has left. -/
def runPass (kind : ReplKind) (pass : Pass) : List Call × ReplKind :=
  let resetMode := (updateResetMode pass.held 1).2
  let before := prologue pass ++ (initFlashFs pass resetMode).1
  if resetMode = 1 ∨ resetMode = 3 then
    let boot := runScript pass "boot.py" pass.bootResult 4
    if boot.2 then (before ++ boot.1 ++ softResetExit, kind)
    else
      let main := mainAndRepl pass resetMode kind
      (before ++ boot.1 ++ main.1 ++ softResetExit, main.2)
  else
    let main := mainAndRepl pass resetMode kind
    (before ++ main.1 ++ softResetExit, main.2)

def mpMain : Machine ReplKind Pass (List Call) where
  perform := runPass

def Call.script : Call → Option String
  | .execFile path => some path
  | _ => none

def scripts (calls : List Call) : List String := calls.filterMap Call.script

def Call.isExit : Call → Bool
  | .storageFlush | .machineTeardown | .mpDeinit | .gcSweepAll => true
  | _ => false

/-- Neither a formatting, nor a script, nor the end of the pass. -/
def Call.isSetup : Call → Bool
  | .fMkfs | .execFile _ => false
  | call => !call.isExit

def Setup (calls : List Call) : Prop := ∀ call ∈ calls, call.isSetup = true

instance (calls : List Call) : Decidable (Setup calls) := List.decidableBAll _ _

/-- Neither a formatting nor the end of the pass. -/
def Quiet (calls : List Call) : Prop := ∀ call ∈ calls, call ≠ .fMkfs ∧ call.isExit = false

theorem Quiet.append {calls more : List Call} (quiet : Quiet calls) (rest : Quiet more) :
    Quiet (calls ++ more) := List.forall_mem_append.mpr ⟨quiet, rest⟩

namespace Setup

variable {calls : List Call}

theorem append {more : List Call} (setup : Setup calls) (rest : Setup more) :
    Setup (calls ++ more) := List.forall_mem_append.mpr ⟨setup, rest⟩

theorem quiet (setup : Setup calls) : Quiet calls := by
  intro call member
  have kind := setup call member
  cases call <;> simp_all [Call.isSetup, Call.isExit]

theorem scripts (setup : Setup calls) : scripts calls = [] := by
  refine List.filterMap_eq_nil_iff.mpr fun call member => ?_
  have kind := setup call member
  cases call <;> simp_all [Call.isSetup, Call.script]

theorem replicate (setup : Setup calls) (n : Nat) : Setup (List.replicate n calls).flatten := by
  intro call member
  obtain ⟨inner, repeated, inside⟩ := List.mem_flatten.mp member
  rw [List.eq_of_mem_replicate repeated] at inside
  exact setup call inside

end Setup

theorem setup_showMode (resetMode : Nat) : Setup (showMode resetMode) := by
  simp [Setup, showMode, Call.isSetup, Call.isExit]

theorem setup_holdLoop (held : Nat → Bool) : ∀ left i resetMode,
    Setup (holdLoop held left i resetMode).1 := by
  intro left
  induction left with
  | zero => exact fun _ _ => List.forall_mem_nil _
  | succ left ih =>
    intro i resetMode
    have waited : Setup [.delayMs 20] := by decide
    rw [holdLoop]
    split
    next =>
      split
      next => exact (waited.append (setup_showMode _)).append (ih _ _)
      next => exact waited.append (ih _ _)
    next => exact List.forall_mem_nil _

theorem setup_flashMode (resetMode : Nat) : Setup (flashMode resetMode) := by
  have dark : Setup [.ledState ledRed 0, .ledState ledGreen 0, .delayMs 50] := by decide
  have waited : Setup [.delayMs 50] := by decide
  exact (dark.append (setup_showMode resetMode)).append waited

theorem setup_updateResetMode (held : Nat → Bool) (resetMode : Nat) :
    Setup (updateResetMode held resetMode).1 := by
  unfold updateResetMode
  split
  next =>
    have waited : Setup [.delayMs 400] := by decide
    exact (((setup_showMode _).append (setup_holdLoop held _ _ _)).append
      ((setup_flashMode _).replicate 6)).append waited
  next => exact List.forall_mem_nil _

theorem setup_prologue (pass : Pass) : Setup (prologue pass) := by
  have leds : Setup [.ledState ledRed 0, .ledState ledGreen 0, .ledState 3 0, .ledState 4 0,
    .machineSetup] := by decide
  have inits : Setup [.mpInit, .tildaInit0] := by decide
  exact (leds.append (setup_updateResetMode pass.held 1)).append inits

theorem setup_mountFs (pass : Pass) : Setup (mountFs pass).1 := by
  unfold mountFs
  split
  next => split <;> decide
  next => exact List.forall_mem_nil _

theorem setup_flashError (n : Nat) : Setup (flashError n) := by
  have green : Setup [.ledState ledGreen 0] := by decide
  exact (Setup.replicate (by decide) n).append green

theorem setup_replLoop (pass : Pass) (kind : ReplKind) : Setup (replLoop pass kind) := by
  intro call member
  obtain ⟨kind, _, rfl⟩ := List.mem_map.mp member
  cases kind <;> rfl

theorem quiet_runScript (pass : Pass) (path : String) (result : ExecResult) (flashes : Nat) :
    Quiet (runScript pass path result flashes).1 := by
  have started : Quiet [.importStat path, .execFile path] := by simp [Quiet, Call.isExit]
  unfold runScript
  split
  next =>
    cases result with
    | raised => exact started.append (setup_flashError flashes).quiet
    | _ => exact started
  next => simp [Quiet, Call.isExit]

theorem setup_leds : Setup [.ledState ledGreen 0, .ledState 3 0, .ledState 4 0] := by decide

theorem quiet_mainAndRepl (pass : Pass) (resetMode : Nat) (kind : ReplKind) :
    Quiet (mainAndRepl pass resetMode kind).1 := by
  unfold mainAndRepl
  split
  next =>
    simp only
    split
    next => exact setup_leds.quiet.append (quiet_runScript _ _ _ _)
    next =>
      exact (setup_leds.quiet.append (quiet_runScript _ _ _ _)).append (setup_replLoop _ _).quiet
  next => exact (setup_leds.append (setup_replLoop _ _)).quiet

theorem scripts_mainAndRepl (pass : Pass) (kind : ReplKind) :
    scripts (mainAndRepl pass 2 kind).1 = [] := by
  rw [mainAndRepl, if_neg fun both => absurd both.1 (by decide)]
  exact (setup_leds.append (setup_replLoop pass kind)).scripts

/-- The flash is formatted exactly if the mode asks for it or there is no file system. -/
theorem fMkfs_mem_initFlashFs (pass : Pass) (resetMode : Nat) :
    .fMkfs ∈ (initFlashFs pass resetMode).1 ↔ resetMode = 3 ∨ pass.mount = .noFilesystem := by
  have rest : Call.fMkfs ∉ (mountFs pass).1 := fun member =>
    ((setup_mountFs pass).quiet _ member).1 rfl
  unfold initFlashFs
  split
  next fresh => split <;> simp [fresh]
  next kept => split <;> simp [kept, rest]

theorem isExit_initFlashFs (pass : Pass) (resetMode : Nat) :
    ∀ call ∈ (initFlashFs pass resetMode).1, call.isExit = false := by
  have rest := fun call member => ((setup_mountFs pass).quiet call member).2
  have fresh : ∀ call ∈ [Call.fMount, .ledState ledGreen 1, .fMkfs] ++ freshFs,
    call.isExit = false := by decide
  unfold initFlashFs
  split
  next =>
    split
    next => exact List.forall_mem_append.mpr ⟨fresh, rest⟩
    next => decide
  next =>
    split
    next => exact List.forall_mem_cons.mpr ⟨rfl, rest⟩
    next => decide

/-- Everything before `soft_reset_exit`: the scripts and the REPL come after the file system. -/
theorem runPass_cases (kind : ReplKind) (pass : Pass) :
    ∃ later, Quiet later ∧
      ((updateResetMode pass.held 1).2 = 2 → scripts later = []) ∧
      (runPass kind pass).1 = prologue pass ++
        (initFlashFs pass (updateResetMode pass.held 1).2).1 ++ later ++ softResetExit := by
  simp only [runPass]
  split
  next runs =>
    have notSafe : (updateResetMode pass.held 1).2 ≠ 2 := by omega
    split
    next =>
      exact ⟨_, quiet_runScript pass "boot.py" pass.bootResult 4, fun safe => absurd safe notSafe,
        rfl⟩
    next =>
      refine ⟨_, (quiet_runScript pass "boot.py" pass.bootResult 4).append
        (quiet_mainAndRepl pass (updateResetMode pass.held 1).2 kind),
        fun safe => absurd safe notSafe, ?_⟩
      simp only [List.append_assoc]
  next =>
    refine ⟨_, quiet_mainAndRepl pass _ kind, fun safe => ?_, rfl⟩
    rw [safe]
    exact scripts_mainAndRepl pass kind

theorem scripts_initFlashFs (pass : Pass) (resetMode : Nat) :
    scripts (initFlashFs pass resetMode).1 = [] := by
  have mounted := (setup_mountFs pass).scripts
  unfold initFlashFs
  split
  next =>
    split
    next =>
      rw [scripts, List.filterMap_append]
      exact (congrArg _ mounted).trans (List.append_nil _)
    next => rfl
  next =>
    split
    next => exact mounted
    next => rfl

/-- What the maintainer of the boot promises of each pass. -/
structure PassSafe (pass : Pass) (calls : List Call) : Prop where
  formats : .fMkfs ∈ calls ↔ pass.mount = .noFilesystem ∨
    pass.held 0 = true ∧ 60 ≤ heldReads pass.held 0 3000 % 90
  safeMode : pass.held 0 = true → heldReads pass.held 0 3000 / 30 % 3 = 1 → scripts calls = []
  flushed : ∃ body, calls = body ++ softResetExit ∧ ∀ call ∈ body, call.isExit = false

theorem passSafe_runPass (kind : ReplKind) (pass : Pass) : PassSafe pass (runPass kind pass).1 := by
  obtain ⟨later, quiet, safe, calls⟩ := runPass_cases kind pass
  have early := (setup_prologue pass).quiet
  rw [calls]
  constructor
  · have exit : Call.fMkfs ∉ softResetExit := by decide
    have before : Call.fMkfs ∉ prologue pass := fun member => (early _ member).1 rfl
    have after : Call.fMkfs ∉ later := fun member => (quiet _ member).1 rfl
    simp only [List.mem_append, before, after, exit, false_or, or_false, fMkfs_mem_initFlashFs,
      updateResetMode_eq_three]
    exact or_comm
  · intro pressed turns
    have mode : (updateResetMode pass.held 1).2 = 2 := by
      rw [updateResetMode_mode, if_pos pressed, turns]
    have none_ := scripts_initFlashFs pass (updateResetMode pass.held 1).2
    have start := (setup_prologue pass).scripts
    unfold scripts at none_ safe start ⊢
    rw [List.filterMap_append, List.filterMap_append, List.filterMap_append, none_, start,
      safe mode]
    rfl
  · refine ⟨_, rfl, ?_⟩
    refine List.forall_mem_append.mpr
      ⟨List.forall_mem_append.mpr ⟨?_, isExit_initFlashFs pass _⟩, ?_⟩
    · exact fun call member => (early call member).2
    · exact fun call member => (quiet call member).2

/-- In every run of `mp_main`, over any number of soft resets, each pass formats the flash only
without a file system or for a button held for its third turn, runs no script in safe mode,
and flushes the storage after everything else it has run. -/
theorem mpMain_safe (kind : ReplKind) (passes : List Pass) :
    List.Forall₂ PassSafe passes (mpMain.answers kind passes) := by
  induction passes generalizing kind with
  | nil => exact .nil
  | cons pass rest ih => exact .cons (passSafe_runPass kind pass) (ih (runPass kind pass).2)

end TildaMk4.Boot
