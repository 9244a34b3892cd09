import TildaMk4.Lib.Words
import TildaMk4.Machine.PortHandles

/-!
# What a PWM object reports

The calls of `machine_pwm.c` with integers as they come from Python, and what the driver
has been given on each port and has in force there.
-/

namespace TildaMk4.Machine.Pwm

open Resources Transition Words

/-- The integers given to the constructor or to `init`. -/
structure Given where
  freq : Option Int
  duty : Option Int

/-- `mp_arg_parse_all`; `none` if one of the integers is no machine word. -/
def Given.parse (given : Given) : Option Args :=
  match given.freq.elim (some 0) word?, given.duty.elim (some (-1)) word? with
  | some freq, some duty => some ⟨freq, duty⟩
  | _, _ => none

/-- The duty that the driver of a port was last given, and its settings while it is open. -/
structure Driver where
  given : Option UInt32
  inForce : Option Params

/-- The objects, the driver under them, and which of the objects a constructor has returned. -/
structure State where
  ports : Ports numPwm Config Params
  driver : Fin numPwm → Driver
  made : Fin numPwm → Bool

/-- The exceptions; `badFrequency` is `ValueError` with `Bad frequency %d`. -/
inductive Exn
  | overflowError
  | enodev
  | badFrequency (tval : Int32)

inductive Answer
  | done
  | int (value : Int)
  | raised (exn : Exn)

def Answer.succeeds : Answer → Bool
  | .raised _ => false
  | .done | .int _ => true

/-- `MP_OBJ_NEW_SMALL_INT`, whose object has 31 bits for the value. -/
def smallInt (value : UInt32) : Int := (value.toNat : Int).bmod (2 ^ 31)

/-- The calls, and whether the driver opens the port or accepts the setting. -/
inductive Call
  | makeNew (id : Int) (given : Option Given) (opens : Bool)
  | init (port : Fin numPwm) (given : Given) (opens : Bool)
  | freq (port : Fin numPwm) (value : Option Int) (accepted : Bool)
  | duty (port : Fin numPwm) (value : Option Int) (accepted : Bool)

/-- The port of an id that the constructor accepts. -/
def portOf? (id : Int) : Option (Fin numPwm) :=
  if inside : 0 ≤ id ∧ id < numPwm then
    some ⟨id.toNat, (Int.toNat_lt inside.1).mpr inside.2⟩
  else none

def Call.port? : Call → Option (Fin numPwm)
  | .makeNew id _ _ => portOf? id
  | .init port _ _ | .freq port _ _ | .duty port _ _ => some port

section Calls

variable (fractionMax : UInt32)

/-- `scale_duty`, where `fractionMax` is `PWM_DUTY_FRACTION_MAX`. -/
def scaleDuty (duty : UInt32) : UInt32 := duty * (fractionMax / 100)

variable (s : State)

def reportedFreq (port : Fin numPwm) : Int := smallInt (s.ports.config port).freq

def reportedDuty (port : Fin numPwm) : Int := smallInt (s.ports.config port).duty

def setDriver (port : Fin numPwm) (driver : Driver) : State :=
  { s with driver := Function.update s.driver port driver }

/-- `pwm_init_helper`. The duty is given to the driver even if it does not open the port. -/
def initHelper (port : Fin numPwm) (given : Given) (opens : Bool) : State × Answer :=
  match given.parse with
  | none => (s, .raised .overflowError)
  | some args =>
    let ports := (s.ports.initHelper (pwm fractionMax) port (some args) opens).1
    let params := (pwm fractionMax).params (ports.config port)
    if (ports.handle port).isSome then
      (setDriver { s with ports } port ⟨some params.dutyValue, some params⟩, .done)
    else (setDriver { s with ports } port ⟨some params.dutyValue, none⟩, .raised .enodev)

/-- `machine_pwm_make_new`, which raises `ENODEV` for an id that is out of range. -/
def makeNew (id : Int) (given : Option Given) (opens : Bool) : State × Answer :=
  match word? id, portOf? id with
  | none, _ => (s, .raised .overflowError)
  | some _, none => (s, .raised .enodev)
  | some _, some port =>
    let made :=
      if given.isNone && (s.ports.handle port).isSome then (s, .done)
      else initHelper fractionMax s port (given.getD ⟨none, none⟩) opens
    ({ made.1 with made := Function.update s.made port (s.made port || made.2.succeeds) }, made.2)

/-- `machine_pwm_freq` with an argument. There is no step that calls the driver with `NULL`. -/
def setFreq (port : Fin numPwm) (value : Int) (accepted : Bool) : Option (State × Answer) :=
  match word? value, s.ports.handle port with
  | none, _ => some (s, .raised .overflowError)
  | some _, none => none
  | some tval, some _ =>
    if accepted then
      let ports := (s.ports.operate (pwm fractionMax) port (.freq (some tval) true)).1
      some (setDriver { s with ports } port { s.driver port with
        inForce := (s.driver port).inForce.map ({ · with periodValue := tval.toUInt32 }) }, .done)
    else some (s, .raised (.badFrequency tval))

/-- `machine_pwm_duty` with an argument. What `PWM_setDuty` returns is not looked at. -/
def setDuty (port : Fin numPwm) (value : Int) (accepted : Bool) : Option (State × Answer) :=
  match word? value, s.ports.handle port with
  | none, _ => some (s, .raised .overflowError)
  | some _, none => none
  | some duty, some _ =>
    let ports := (s.ports.operate (pwm fractionMax) port (.duty (some duty))).1
    let fraction := scaleDuty fractionMax (atMost100 duty)
    let inForce := (s.driver port).inForce
    some (setDriver { s with ports } port ⟨some fraction,
      if accepted then inForce.map ({ · with dutyValue := fraction }) else inForce⟩, .done)

/-- There is no step on an object that no constructor has returned. -/
def perform : Call → Option (State × Answer)
  | .makeNew id given opens => some (makeNew fractionMax s id given opens)
  | .init port given opens =>
    if s.made port then some (initHelper fractionMax s port given opens) else none
  | .freq port value accepted =>
    if s.made port then
      match value with
      | none => some (s, .int (reportedFreq s port))
      | some value => setFreq fractionMax s port value accepted
    else none
  | .duty port value accepted =>
    if s.made port then
      match value with
      | none => some (s, .int (reportedDuty s port))
      | some value => setDuty fractionMax s port value accepted
    else none

end Calls

/-- The state after a call, and the object of a call that has succeeded. -/
structure Report where
  port : Option (Fin numPwm)
  after : State

def dutySystem (fractionMax : UInt32) : System State Call Report where
  step s call := (perform fractionMax s call).map fun done =>
    (done.1, some ⟨if done.2.succeeds then call.port? else none, done.1⟩)

def dutyStart (fractionMax : UInt32) : State where
  ports := Ports.start (pwm fractionMax)
  driver _ := ⟨none, none⟩
  made _ := false

section Property

variable (fractionMax : UInt32)

/-- What is stored is a percentage, and what the driver was last given is that percentage of
the largest fraction, without a wrap. -/
structure Percentage (config : Config) (driver : Driver) : Prop where
  duty : config.duty.toNat ≤ 100
  given : ∀ fraction, driver.given = some fraction →
    fraction.toNat = config.duty.toNat * (fractionMax.toNat / 100) ∧
      fraction.toNat ≤ fractionMax.toNat

/-- What the object reports is in force in the driver. -/
def Agrees (s : State) (port : Fin numPwm) : Prop :=
  ∃ params, (s.driver port).inForce = some params ∧
    reportedFreq s port = params.periodValue.toNat ∧
    reportedDuty s port * (fractionMax.toNat / 100 : Nat) = params.dutyValue.toNat

/-- After a call, every object has a percentage, and that of the call, if it has succeeded,
reports what is in force. -/
structure Report.Good (report : Report) : Prop where
  percentage : ∀ port,
    Percentage fractionMax (report.after.ports.config port) (report.after.driver port)
  agrees : ∀ port, report.port = some port → Agrees fractionMax report.after port

/-- The duty is not below -1, which stands for none, and a frequency with which the port is
opened fits a small integer. -/
def InitAdmits (config : Config) (given : Given) (opens : Bool) : Prop :=
  ∀ args, given.parse = some args → -1 ≤ args.duty.toInt ∧
    (opens = true → ((pwm fractionMax).configure config args).freq.toNat < 2 ^ 30)

/-- The duties are not negative, the frequencies that come into force fit a small integer, a
duty that the driver refuses is the one in force already, and an object is asked only while
its port is open. -/
def CallAdmits (s : State) : Call → Prop
  | .makeNew id given opens => ∀ port, portOf? id = some port →
    (given = none → s.ports.handle port = none) →
      InitAdmits fractionMax (s.ports.config port) (given.getD ⟨none, none⟩) opens
  | .init port given opens => InitAdmits fractionMax (s.ports.config port) given opens
  | .freq port none _ | .duty port none _ => s.ports.handle port ≠ none
  | .freq _ (some value) accepted => ∀ tval, word? value = some tval → accepted = true →
    0 ≤ value ∧ value < 2 ^ 30
  | .duty port (some value) accepted => ∀ duty, word? value = some duty → 0 ≤ value ∧
    (accepted = true ∨ scaleDuty fractionMax (atMost100 duty) =
      scaleDuty fractionMax (s.ports.config port).duty)

end Property

section Ports

variable {fractionMax : UInt32} {s : State}

/-- The ports are as they were, or as one operation of the module leaves them. -/
def PortStep (fractionMax : UInt32) (before after : State) : Prop :=
  after.ports = before.ports ∨
    ∃ act, after.ports = (before.ports.perform (pwm fractionMax) act).1

theorem portStep_initHelper (port : Fin numPwm) (given : Given) (opens : Bool) :
    PortStep fractionMax s (initHelper fractionMax s port given opens).1 := by
  unfold initHelper
  split
  next => exact .inl rfl
  next args _ => exact .inr ⟨.init port (some args) opens, by dsimp only; split <;> rfl⟩

theorem portStep_setFreq {port : Fin numPwm} {value : Int} {accepted : Bool}
    {done : State × Answer} (performed : setFreq fractionMax s port value accepted = some done) :
    PortStep fractionMax s done.1 := by
  unfold setFreq at performed
  split at performed
  next =>
    cases performed
    exact .inl rfl
  next => cases performed
  next tval _ _ _ =>
    split at performed
    next =>
      cases performed
      exact .inr ⟨.operate port (.freq (some tval) true), rfl⟩
    next =>
      cases performed
      exact .inl rfl

theorem portStep_setDuty {port : Fin numPwm} {value : Int} {accepted : Bool}
    {done : State × Answer} (performed : setDuty fractionMax s port value accepted = some done) :
    PortStep fractionMax s done.1 := by
  unfold setDuty at performed
  split at performed
  next =>
    cases performed
    exact .inl rfl
  next => cases performed
  next duty _ _ _ =>
    cases performed
    exact .inr ⟨.operate port (.duty (some duty)), rfl⟩

/-- What a call does that there is a step for. -/
inductive Performs (fractionMax : UInt32) (s : State) : Call → State × Answer → Prop
  | makeNew (id : Int) (given : Option Given) (opens : Bool) :
    Performs fractionMax s (.makeNew id given opens) (makeNew fractionMax s id given opens)
  | init (port : Fin numPwm) (given : Given) (opens : Bool) :
    Performs fractionMax s (.init port given opens) (initHelper fractionMax s port given opens)
  | freq (port : Fin numPwm) (accepted : Bool) :
    Performs fractionMax s (.freq port none accepted) (s, .int (reportedFreq s port))
  | duty (port : Fin numPwm) (accepted : Bool) :
    Performs fractionMax s (.duty port none accepted) (s, .int (reportedDuty s port))
  | setFreq {port : Fin numPwm} {value : Int} {accepted : Bool} {done : State × Answer}
    (performed : setFreq fractionMax s port value accepted = some done) :
    Performs fractionMax s (.freq port (some value) accepted) done
  | setDuty {port : Fin numPwm} {value : Int} {accepted : Bool} {done : State × Answer}
    (performed : setDuty fractionMax s port value accepted = some done) :
    Performs fractionMax s (.duty port (some value) accepted) done

theorem performs {call : Call} {done : State × Answer}
    (performed : perform fractionMax s call = some done) : Performs fractionMax s call done := by
  cases call with
  | makeNew id given opens =>
    cases performed
    exact .makeNew id given opens
  | init port given opens =>
    obtain ⟨_, performed⟩ := Option.ite_none_right_eq_some.mp performed
    cases performed
    exact .init port given opens
  | freq port value accepted =>
    obtain ⟨_, performed⟩ := Option.ite_none_right_eq_some.mp performed
    cases value with
    | none =>
      cases performed
      exact .freq port accepted
    | some value => exact .setFreq performed
  | duty port value accepted =>
    obtain ⟨_, performed⟩ := Option.ite_none_right_eq_some.mp performed
    cases value with
    | none =>
      cases performed
      exact .duty port accepted
    | some value => exact .setDuty performed

theorem portStep_makeNew (id : Int) (given : Option Given) (opens : Bool) :
    PortStep fractionMax s (makeNew fractionMax s id given opens).1 := by
  unfold makeNew
  split
  next => exact .inl rfl
  next => exact .inl rfl
  next port _ _ =>
    dsimp only
    split
    next => exact .inl rfl
    next => exact portStep_initHelper port _ opens

/-- Each call is an operation of the ports, or none. -/
theorem portStep_perform {call : Call} {done : State × Answer}
    (performed : perform fractionMax s call = some done) : PortStep fractionMax s done.1 := by
  cases performs performed with
  | makeNew id given opens => exact portStep_makeNew id given opens
  | init port given opens => exact portStep_initHelper port given opens
  | freq port accepted => exact .inl rfl
  | duty port accepted => exact .inl rfl
  | setFreq performed => exact portStep_setFreq performed
  | setDuty performed => exact portStep_setDuty performed

end Ports

/-! ## One port -/

section Ports

variable {n : Nat} {C A P O : Type} {s : Ports n C P} (drv : PortDriver C A P O)

theorem config_closePort (port : Fin n) : (s.closePort port).1.config = s.config := by
  rw [Ports.closePort]
  split <;> rfl

theorem config_openPort (port : Fin n) (params : P) (opens : Bool) :
    (s.openPort port params opens).1.config = s.config := by
  rw [Ports.openPort]
  split <;> rfl

theorem config_initHelper (port : Fin n) (args : A) (opens : Bool) :
    (s.initHelper drv port (some args) opens).1.config =
      Function.update s.config port (drv.configure (s.config port) args) :=
  (config_openPort ..).trans (config_closePort ..)

/-- The port is open afterwards exactly if the driver opens it. -/
theorem handle_initHelper (synced : s.Synced) (port : Fin n) (args : A) (opens : Bool) :
    ((s.initHelper drv port (some args) opens).1.handle port).isSome = opens := by
  have configured : Ports.Synced { s with
      config := Function.update s.config port (drv.configure (s.config port) args) } := synced
  have closed := Ports.isOpen_of_synced (Ports.closePort_does configured port).synced
    (Ports.closePort_closed port)
  simp only [Ports.initHelper, Ports.openPort, closed]
  cases opens <;> simp

theorem handle_initHelper_of_ne {port other : Fin n} (other_ : other ≠ port) (args : A)
    (opens : Bool) :
    (s.initHelper drv port (some args) opens).1.handle other = s.handle other := by
  simp only [Ports.initHelper, Ports.openPort]
  split <;> simp only [Ports.closePort_handle, Function.update_of_ne other_]

end Ports

section Numbers

variable {fractionMax duty value : UInt32}

/-- A percentage is scaled without a wrap. -/
theorem toNat_scaleDuty (percentage : duty.toNat ≤ 100) :
    (scaleDuty fractionMax duty).toNat = duty.toNat * (fractionMax.toNat / 100) ∧
      (scaleDuty fractionMax duty).toNat ≤ fractionMax.toNat := by
  have parts : duty.toNat * (fractionMax.toNat / 100) ≤ 100 * (fractionMax.toNat / 100) :=
    Nat.mul_le_mul_right _ percentage
  have whole : 100 * (fractionMax.toNat / 100) ≤ fractionMax.toNat := Nat.mul_div_le ..
  have small := fractionMax.toNat_lt
  have same : (scaleDuty fractionMax duty).toNat = duty.toNat * (fractionMax.toNat / 100) := by
    have hundred : (100 : UInt32).toNat = 100 := by decide
    rw [scaleDuty, UInt32.toNat_mul, UInt32.toNat_div, hundred]
    exact Nat.mod_eq_of_lt (Nat.lt_of_le_of_lt (parts.trans whole) small)
  rw [same]
  exact ⟨rfl, parts.trans whole⟩

theorem smallInt_eq_iff : smallInt value = value.toNat ↔ value.toNat < 2 ^ 30 := by
  have small : value.toNat < 2 ^ 32 := value.toNat_lt
  unfold smallInt
  generalize value.toNat = n at small ⊢
  rw [Int.bmod_def]
  split <;> omega

theorem smallInt_of_percentage (percentage : duty.toNat ≤ 100) : smallInt duty = duty.toNat :=
  smallInt_eq_iff.mpr (by omega)

/-- The clamp leaves what is negative as it is. -/
theorem atMost100_le_iff {duty : Int32} : (atMost100 duty).toNat ≤ 100 ↔ 0 ≤ duty.toInt := by
  have word := toNat_toUInt32 duty
  have low := duty.le_toInt
  unfold atMost100
  split
  next above =>
    have above := Int32.lt_iff_toInt_lt.mp above
    exact iff_of_true (by decide) (by simp at above; omega)
  next below =>
    have below := mt Int32.lt_iff_toInt_lt.mpr below
    simp at below
    omega

theorem toUInt32_lt_iff {tval : Int32} :
    tval.toUInt32.toNat < 2 ^ 30 ↔ 0 ≤ tval.toInt ∧ tval.toInt < 2 ^ 30 := by
  have word := toNat_toUInt32 tval
  have low := tval.le_toInt
  have high := tval.toInt_lt
  omega

end Numbers

/-! ## The invariant -/

section Invariant

variable (fractionMax : UInt32)

/-- A port in agreement with its driver. -/
structure PortInv (config : Config) (isOpen : Bool) (driver : Driver) : Prop where
  duty : config.duty.toNat ≤ 100
  given : ∀ fraction, driver.given = some fraction → fraction = scaleDuty fractionMax config.duty
  inForce : driver.inForce =
    if isOpen then some ⟨config.freq, scaleDuty fractionMax config.duty⟩ else none
  freq : isOpen = true → config.freq.toNat < 2 ^ 30

structure Inv (s : State) : Prop where
  synced : s.ports.Synced
  port : ∀ port, PortInv fractionMax (s.ports.config port) (s.ports.handle port).isSome
    (s.driver port)

/-- A call is `ok` exactly if its report is good, and then it keeps the invariant. -/
structure Decides (report : Report) (ok : Prop) : Prop where
  keeps : ok → Inv fractionMax report.after
  good : report.Good fractionMax ↔ ok

end Invariant

section Steps

variable {fractionMax : UInt32} {s : State}

theorem PortInv.percentage {config : Config} {isOpen : Bool} {driver : Driver}
    (inv : PortInv fractionMax config isOpen driver) : Percentage fractionMax config driver := by
  refine ⟨inv.duty, fun fraction given => ?_⟩
  rw [inv.given fraction given]
  exact toNat_scaleDuty inv.duty

theorem Inv.agrees (inv : Inv fractionMax s) {port : Fin numPwm}
    (opened : (s.ports.handle port).isSome = true) : Agrees fractionMax s port := by
  have here := inv.port port
  have inForce := here.inForce
  rw [if_pos opened] at inForce
  refine ⟨_, inForce, smallInt_eq_iff.mpr (here.freq opened), ?_⟩
  rw [reportedDuty, smallInt_of_percentage here.duty, (toNat_scaleDuty here.duty).1,
    Int.natCast_mul]

theorem Decides.intro {after : State} {succeeded : Option (Fin numPwm)} {ok : Prop}
    (keeps : ok → Inv fractionMax after)
    (opened : ok → ∀ port, succeeded = some port → (after.ports.handle port).isSome = true)
    (only : Report.Good fractionMax ⟨succeeded, after⟩ → ok) :
    Decides fractionMax ⟨succeeded, after⟩ ok :=
  ⟨keeps, only, fun holds => ⟨fun port => ((keeps holds).port port).percentage,
    fun port same => (keeps holds).agrees (opened holds port same)⟩⟩

/-- A call that raises and changes nothing. -/
theorem Inv.decides_raised (inv : Inv fractionMax s) {ok : Prop} (holds : ok) :
    Decides fractionMax ⟨none, s⟩ ok :=
  .intro (fun _ => inv) (fun _ => nofun) fun _ => holds

/-- A call that asks, or finds the object as it should be. -/
theorem Inv.decides_unchanged (inv : Inv fractionMax s) (port : Fin numPwm) :
    Decides fractionMax ⟨some port, s⟩ (s.ports.handle port ≠ none) := by
  refine .intro (fun _ => inv) (fun opened other same => ?_) fun good closed => ?_
  · cases same
    exact Option.isSome_iff_ne_none.mpr opened
  · obtain ⟨params, inForce, -⟩ := good.agrees port rfl
    have nothing := (inv.port port).inForce
    rw [closed] at nothing
    exact nomatch inForce.symm.trans nothing

/-- A call on one port leaves the others as they are. -/
theorem Inv.update (inv : Inv fractionMax s) {after : State} (port : Fin numPwm)
    (synced : after.ports.Synced)
    (others : ∀ other, other ≠ port → after.ports.config other = s.ports.config other ∧
      after.ports.handle other = s.ports.handle other ∧ after.driver other = s.driver other)
    (here : PortInv fractionMax (after.ports.config port) (after.ports.handle port).isSome
      (after.driver port)) : Inv fractionMax after := by
  refine ⟨synced, fun other => ?_⟩
  by_cases same : other = port
  · rw [same]
    exact here
  · obtain ⟨config, handle, driver⟩ := others other same
    rw [config, handle, driver]
    exact inv.port other

/-- An operation changes the configuration and the driver of its own port only. -/
theorem Inv.operate (inv : Inv fractionMax s) {port : Fin numPwm} {op : Op} {driver : Driver}
    (here : PortInv fractionMax ((pwm fractionMax).operate (s.ports.config port) op)
      (s.ports.handle port).isSome driver) :
    Inv fractionMax (setDriver
      { s with ports := (s.ports.operate (pwm fractionMax) port op).1 } port driver) := by
  refine inv.update port inv.synced (fun other other_ => ?_) ?_
  · exact ⟨Function.update_of_ne other_ .., rfl, Function.update_of_ne other_ ..⟩
  · simpa only [setDriver, Ports.operate, Function.update_self] using here

/-- What `pwm_init_helper` does with arguments that parse. -/
theorem initHelper_eq (synced : s.ports.Synced) (port : Fin numPwm) {given : Given} {args : Args}
    (parsed : given.parse = some args) (opens : Bool) :
    initHelper fractionMax s port given opens =
      (setDriver { s with
        ports := (s.ports.initHelper (pwm fractionMax) port (some args) opens).1 } port
          ⟨some (scaleDuty fractionMax ((pwm fractionMax).configure (s.ports.config port) args).duty),
            if opens then
              some ((pwm fractionMax).params ((pwm fractionMax).configure (s.ports.config port) args))
            else none⟩,
        if opens then .done else .raised .enodev) := by
  have opened := handle_initHelper (pwm fractionMax) synced port args opens
  have configured := congrFun (config_initHelper (s := s.ports) (pwm fractionMax) port args opens) port
  rw [Function.update_self] at configured
  simp only [initHelper, parsed, opened, configured]
  cases opens <;> rfl

theorem initAdmits_iff {config : Config} {given : Given} {args : Args}
    (parsed : given.parse = some args) (opens : Bool) :
    InitAdmits fractionMax config given opens ↔ -1 ≤ args.duty.toInt ∧
      (opens = true → ((pwm fractionMax).configure config args).freq.toNat < 2 ^ 30) := by
  refine ⟨fun admits => admits args parsed, fun admits args' parsed' => ?_⟩
  obtain rfl : args = args' := Option.some.inj (parsed.symm.trans parsed')
  exact admits

/-- The stored duty stays a percentage exactly if the argument is not below -1. -/
theorem duty_configure_iff (fractionMax : UInt32) {config : Config}
    (duty : config.duty.toNat ≤ 100) (args : Args) :
    ((pwm fractionMax).configure config args).duty.toNat ≤ 100 ↔ -1 ≤ args.duty.toInt := by
  have minusOne : (-1 : Int32).toInt = -1 := by decide
  simp only [pwm]
  split
  next none_ =>
    rw [none_, minusOne]
    exact iff_of_true duty (Int.le_refl _)
  next some_ =>
    rw [atMost100_le_iff]
    have other : args.duty.toInt ≠ -1 := fun same =>
      some_ (Int32.toInt.inj (same.trans minusOne.symm))
    omega

theorem initHelper_decides (inv : Inv fractionMax s) (port : Fin numPwm) (given : Given)
    (opens : Bool) :
    Decides fractionMax
      ⟨if (initHelper fractionMax s port given opens).2.succeeds then some port else none,
        (initHelper fractionMax s port given opens).1⟩
      (InitAdmits fractionMax (s.ports.config port) given opens) := by
  cases parsed : given.parse with
  | none =>
    simp only [initHelper, parsed]
    refine inv.decides_raised fun args given => ?_
    rw [parsed] at given
    cases given
  | some args =>
    have synced := (Ports.initHelper_does (pwm fractionMax) inv.synced port (some args) opens).synced
    have opened := handle_initHelper (pwm fractionMax) inv.synced port args opens
    have configs := config_initHelper (s := s.ports) (pwm fractionMax) port args opens
    have handles := fun other (other_ : other ≠ port) =>
      handle_initHelper_of_ne (s := s.ports) (pwm fractionMax) other_ args opens
    have dutyIff := duty_configure_iff fractionMax (inv.port port).duty args
    rw [initHelper_eq inv.synced port parsed, initAdmits_iff parsed]
    generalize (s.ports.initHelper (pwm fractionMax) port (some args) opens).1 = ports at *
    generalize (pwm fractionMax).configure (s.ports.config port) args = config at *
    have here : ports.config port = config := by rw [configs, Function.update_self]
    refine .intro (fun admits => ?_) (fun _ other same => ?_) fun good => ⟨?_, ?_⟩
    · refine inv.update port synced (fun other other_ => ?_) ?_
      · refine ⟨?_, handles other other_, Function.update_of_ne other_ ..⟩
        exact (congrFun configs other).trans (Function.update_of_ne other_ ..)
      · simp only [setDriver, Function.update_self, here, opened]
        exact ⟨dutyIff.mpr admits.1, fun fraction same => (Option.some.inj same).symm, rfl,
          admits.2⟩
    · cases opens with
      | false => cases same
      | true =>
        cases same
        exact opened
    · have duty := (good.percentage port).duty
      rw [setDriver, here] at duty
      exact dutyIff.mp duty
    · rintro rfl
      obtain ⟨params, inForce, freq, -⟩ := good.agrees port rfl
      simp only [setDriver, Function.update_self] at inForce
      cases inForce
      rw [reportedFreq, setDriver, here] at freq
      exact smallInt_eq_iff.mp freq

theorem setFreq_decides (inv : Inv fractionMax s) {port : Fin numPwm} {value : Int}
    {accepted : Bool} {done : State × Answer}
    (performed : setFreq fractionMax s port value accepted = some done) :
    Decides fractionMax ⟨if done.2.succeeds then some port else none, done.1⟩
      (∀ tval, word? value = some tval → accepted = true → 0 ≤ value ∧ value < 2 ^ 30) := by
  unfold setFreq at performed
  split at performed
  next large =>
    cases performed
    exact inv.decides_raised fun tval word => nomatch large.symm.trans word
  next => cases performed
  next tval handle word opened =>
    have range : tval.toUInt32.toNat < 2 ^ 30 ↔ 0 ≤ value ∧ value < 2 ^ 30 := by
      rw [toUInt32_lt_iff, word?_eq_some.mp word]
    have before := inv.port port
    rw [opened] at before
    split at performed
    next taken =>
      cases performed
      refine .intro (fun admits => ?_) (fun _ other same => ?_) fun good tval' word' _ => ?_
      · refine inv.operate ?_
        rw [opened]
        refine ⟨before.duty, before.given, ?_, fun _ => range.mpr (admits tval word taken)⟩
        rw [before.inForce]
        rfl
      · cases same
        exact Option.isSome_of_eq_some opened
      · obtain ⟨params, inForce, freq, -⟩ := good.agrees port rfl
        simp only [setDriver, Function.update_self, before.inForce] at inForce
        cases inForce
        simp only [reportedFreq, setDriver, Ports.operate, pwm, Function.update_self] at freq
        exact range.mp (smallInt_eq_iff.mp freq)
    next refused =>
      cases performed
      exact inv.decides_raised fun _ _ taken => absurd taken refused

/-- A duty that is refused is stored nevertheless. -/
theorem setDuty_decides (inv : Inv fractionMax s) {port : Fin numPwm} {value : Int}
    {accepted : Bool} {done : State × Answer}
    (performed : setDuty fractionMax s port value accepted = some done) :
    Decides fractionMax ⟨if done.2.succeeds then some port else none, done.1⟩
      (∀ duty, word? value = some duty → 0 ≤ value ∧
        (accepted = true ∨ scaleDuty fractionMax (atMost100 duty) =
          scaleDuty fractionMax (s.ports.config port).duty)) := by
  unfold setDuty at performed
  split at performed
  next large =>
    cases performed
    exact inv.decides_raised fun duty word => nomatch large.symm.trans word
  next => cases performed
  next duty handle word opened =>
    have sign : (atMost100 duty).toNat ≤ 100 ↔ 0 ≤ value := by
      rw [atMost100_le_iff, word?_eq_some.mp word]
    have before := inv.port port
    rw [opened] at before
    have inForce := before.inForce
    cases performed
    refine .intro (fun admits => ?_) (fun _ other same => ?_) fun good duty' word' => ?_
    · obtain ⟨nonnegative, taken⟩ := admits duty word
      refine inv.operate ?_
      rw [opened]
      refine ⟨sign.mpr nonnegative, fun fraction same => (Option.some.inj same).symm, ?_, before.freq⟩
      rw [inForce]
      split
      next => rfl
      next refused => simp only [pwm, taken.resolve_left refused]
    · cases same
      exact Option.isSome_of_eq_some opened
    · obtain rfl : duty = duty' := Option.some.inj (word.symm.trans word')
      have percentage := (good.percentage port).duty
      simp only [setDriver, Ports.operate, pwm, Function.update_self] at percentage
      refine ⟨sign.mp percentage, ?_⟩
      obtain ⟨params, settings, -, reported⟩ := good.agrees port rfl
      simp only [reportedDuty, setDriver, Ports.operate, pwm, Function.update_self,
        smallInt_of_percentage percentage] at reported settings
      cases accepted with
      | true => exact .inl rfl
      | false =>
        rw [if_neg Bool.false_ne_true, inForce] at settings
        cases settings
        refine .inr (UInt32.toNat_inj.mp ?_)
        rw [(toNat_scaleDuty percentage).1]
        exact Int.ofNat.inj reported

theorem Decides.made {after : State} {succeeded : Option (Fin numPwm)} {ok ok' : Prop}
    (decides : Decides fractionMax ⟨succeeded, after⟩ ok) (same : ok' ↔ ok)
    (made : Fin numPwm → Bool) : Decides fractionMax ⟨succeeded, { after with made }⟩ ok' := by
  refine ⟨fun holds => ?_, ?_⟩
  · have inv := decides.keeps (same.mp holds)
    exact ⟨inv.synced, inv.port⟩
  · rw [same, ← decides.good]
    exact ⟨fun good => ⟨good.percentage, good.agrees⟩, fun good => ⟨good.percentage, good.agrees⟩⟩

theorem word?_of_portOf? {id : Int} {port : Fin numPwm} (given : portOf? id = some port) :
    word? id ≠ none := by
  intro large
  rw [word?_eq_none] at large
  unfold portOf? at given
  split at given
  next inside =>
    obtain ⟨low, high⟩ := inside
    simp only [numPwm] at high
    omega
  next => cases given

theorem makeNew_decides (inv : Inv fractionMax s) (id : Int) (given : Option Given) (opens : Bool) :
    Decides fractionMax
      ⟨if (makeNew fractionMax s id given opens).2.succeeds then portOf? id else none,
        (makeNew fractionMax s id given opens).1⟩
      (CallAdmits fractionMax s (.makeNew id given opens)) := by
  unfold makeNew
  split
  next large =>
    exact inv.decides_raised fun port inside => absurd large (word?_of_portOf? inside)
  next outside =>
    exact inv.decides_raised fun port inside => nomatch outside.symm.trans inside
  next port _ inside =>
    rw [inside]
    dsimp only
    split
    next bare =>
      obtain ⟨none_, opened⟩ := Bool.and_eq_true_iff.mp bare
      have vacuous : CallAdmits fractionMax s (.makeNew id given opens) := by
        intro other inside' closed
        obtain rfl : port = other := Option.some.inj (inside.symm.trans inside')
        rw [closed (Option.isNone_iff_eq_none.mp none_)] at opened
        cases opened
      refine (inv.decides_unchanged port).made ?_ _
      exact iff_of_true vacuous (Option.isSome_iff_ne_none.mp opened)
    next initialises =>
      refine (initHelper_decides inv port (given.getD ⟨none, none⟩) opens).made ?_ _
      constructor
      · refine fun admits => admits port inside fun none_ => ?_
        rw [none_] at initialises
        simpa using initialises
      · intro admits other inside' _
        obtain rfl : port = other := Option.some.inj (inside.symm.trans inside')
        exact admits

theorem perform_decides (inv : Inv fractionMax s) (call : Call) {done : State × Answer}
    (performed : perform fractionMax s call = some done) :
    Decides fractionMax ⟨if done.2.succeeds then call.port? else none, done.1⟩
      (CallAdmits fractionMax s call) := by
  cases performs performed with
  | makeNew id given opens => exact makeNew_decides inv id given opens
  | init port given opens => exact initHelper_decides inv port given opens
  | freq port accepted => exact inv.decides_unchanged port
  | duty port accepted => exact inv.decides_unchanged port
  | setFreq performed => exact setFreq_decides inv performed
  | setDuty performed => exact setDuty_decides inv performed

theorem inv_dutyStart (fractionMax : UInt32) : Inv fractionMax (dutyStart fractionMax) where
  synced _ _ := iff_of_false nofun fun ⟨_, held⟩ => nomatch held
  port _ := ⟨Nat.zero_le _, nofun, rfl, nofun⟩

/-- As long as the calls are admitted, duties are percentages and objects report what is in
force; the first call that is not admitted breaks it. -/
theorem duty_percentage_iff (fractionMax : UInt32) :
    (dutySystem fractionMax).Separates (dutyStart fractionMax) (CallAdmits fractionMax)
      (Report.Good fractionMax) := by
  refine System.separates_of_invariant (Inv fractionMax) (inv_dutyStart fractionMax) ?_ ?_
  · intro s call after emitted inv admitted stepped
    obtain ⟨done, performed, same⟩ := Option.map_eq_some_iff.mp stepped
    cases same
    exact (perform_decides inv call performed).keeps admitted
  · intro s call after emitted inv stepped
    obtain ⟨done, performed, same⟩ := Option.map_eq_some_iff.mp stepped
    cases same
    rw [← (perform_decides inv call performed).good]
    exact ⟨fun all => all _ rfl, fun good o same => Option.some.inj same ▸ good⟩

end Steps

/-- A duty of -5 is neither raised to 0 nor refused. -/
theorem duty_negative_stored : ∃ history s,
    (dutySystem 0xFFFFFFFF).Run (fun _ _ => True) (dutyStart 0xFFFFFFFF) history s ∧
      ∃ report ∈ history, ¬report.Good 0xFFFFFFFF := by
  obtain ⟨history, s, run, found⟩ := System.exists_run_of_exec (dutySystem 0xFFFFFFFF)
    (fun _ _ => True) (dutyStart 0xFFFFFFFF)
    [.makeNew 0 none true, .duty 0 (some (-5)) true]
    (fun reached => reached.1.any fun report => 100 < (report.after.ports.config 0).duty.toNat)
    rfl
  obtain ⟨report, member, large⟩ := List.any_eq_true.mp found
  refine ⟨history, s, run, report, member, fun good => ?_⟩
  exact absurd (good.percentage 0).duty (Nat.not_le.mpr (of_decide_eq_true large))

end TildaMk4.Machine.Pwm
