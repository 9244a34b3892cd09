import Mathlib.Data.List.FinRange
import Mathlib.Tactic.Common
import TildaMk4.Lib.Ledger

/-!
# SPI, I2C and PWM

The three modules keep a static object for each port, with the handle that the
driver's `open` returned or `NULL`. `init` closes that handle and opens the port
again; the teardown closes what is open. What differs is the data that is kept with
a port, whether a constructor without arguments opens, and how often an operation
calls the driver.
-/

namespace TildaMk4.Machine

open Resources Transition

/-- What the three modules do in their own way. -/
structure PortDriver (Config Args Params Op : Type) where
  /-- The fields of an object before its first `init`. -/
  initial : Config
  /-- The arguments of an `init` without arguments. -/
  defaults : Args
  configure : Config → Args → Config
  params : Config → Params
  /-- `|| self->… == NULL` in `make_new`. -/
  opensBare : Bool
  /-- The driver is called once more after `open`. -/
  starts : Bool
  /-- How often an operation calls the driver. -/
  calls : Op → Nat
  operate : Config → Op → Config

/-- The objects of a module, and what its driver holds open. -/
structure Ports (n : Nat) (Config Params : Type) where
  ledger : Ledger (Fin n × Params)
  handle : Fin n → Option Nat
  config : Fin n → Config

inductive PortAct (n : Nat) (Args Op : Type)
  /-- The constructor; without arguments, with ones that do not parse, or with `Args`. -/
  | makeNew (id : Int) (args : Option (Option Args)) (opens : Bool)
  | init (port : Fin n) (args : Option Args) (opens : Bool)
  | deinit (port : Fin n)
  | operate (port : Fin n) (op : Op)
  | teardown

namespace Ports

variable {n : Nat} {Config Args Params Op : Type}

/-- The driver refuses to open a port that is open. -/
def isOpen (s : Ports n Config Params) (port : Fin n) : Bool :=
  (List.range s.ledger.issued).any fun id => (s.ledger.held id).any fun info => info.1 = port

/-- `self->handle = …_open(self->id, &params)`, whose outcome is `opens`. -/
def openPort (s : Ports n Config Params) (port : Fin n) (params : Params) (opens : Bool) :
    Ports n Config Params × List (Event (Fin n × Params)) :=
  if opens && !s.isOpen port then
    ({ s with ledger := s.ledger.issue (port, params)
              handle := Function.update s.handle port (some s.ledger.issued) },
      [.issued s.ledger.issued (port, params)])
  else ({ s with handle := Function.update s.handle port none }, [])

/-- `if (self->handle) …_close(self->handle)`, and the handle is not used again. -/
def closePort (s : Ports n Config Params) (port : Fin n) :
    Ports n Config Params × List (Event (Fin n × Params)) :=
  match s.handle port with
  | some handle =>
    ({ s with ledger := s.ledger.release handle
              handle := Function.update s.handle port none }, [.released (some handle)])
  | none => (s, [])

variable (drv : PortDriver Config Args Params Op)

/-- `…_init_helper`; `none` are arguments for which `mp_arg_parse_all` raises. -/
def initHelper (s : Ports n Config Params) (port : Fin n) (args : Option Args) (opens : Bool) :
    Ports n Config Params × List (Event (Fin n × Params)) :=
  match args with
  | none => (s, [])
  | some args =>
    let config := drv.configure (s.config port) args
    let closed := { s with config := Function.update s.config port config }.closePort port
    let opened := closed.1.openPort port (drv.params config) opens
    let started := if drv.starts && (opened.1.handle port).isSome then
        [.used (opened.1.handle port)] else []
    (opened.1, closed.2 ++ opened.2 ++ started)

/-- `…_make_new`, which raises `ENODEV` for an id that is out of range. -/
def makeNew (s : Ports n Config Params) (id : Int) (args : Option (Option Args)) (opens : Bool) :
    Ports n Config Params × List (Event (Fin n × Params)) :=
  if inside : 0 ≤ id ∧ id < n then
    let port : Fin n := ⟨id.toNat, (Int.toNat_lt inside.1).mpr inside.2⟩
    match args with
    | some args => s.initHelper drv port args opens
    | none =>
      if drv.opensBare && (s.handle port).isNone then
        s.initHelper drv port (some drv.defaults) opens
      else (s, [])
  else (s, [])

def operate (s : Ports n Config Params) (port : Fin n) (op : Op) :
    Ports n Config Params × List (Event (Fin n × Params)) :=
  ({ s with config := Function.update s.config port (drv.operate (s.config port) op) },
    List.replicate (drv.calls op) (.used (s.handle port)))

def closePorts (s : Ports n Config Params) :
    List (Fin n) → Ports n Config Params × List (Event (Fin n × Params))
  | [] => (s, [])
  | port :: rest =>
    let closed := s.closePort port
    let later := closed.1.closePorts rest
    (later.1, closed.2 ++ later.2)

def teardown (s : Ports n Config Params) :
    Ports n Config Params × List (Event (Fin n × Params)) :=
  s.closePorts (List.finRange n)

def perform (s : Ports n Config Params) :
    PortAct n Args Op → Ports n Config Params × List (Event (Fin n × Params))
  | .makeNew id args opens => s.makeNew drv id args opens
  | .init port args opens => s.initHelper drv port args opens
  | .deinit _ => (s, [])
  | .operate port op => s.operate drv port op
  | .teardown => s.teardown

def start : Ports n Config Params := ⟨.empty, fun _ => none, fun _ => drv.initial⟩

def system : System (Ports n Config Params) (PortAct n Args Op)
    (List (Event (Fin n × Params))) where
  step s act := some ((s.perform drv act).1, some (s.perform drv act).2)

end Ports

/-! ## The modules -/

/-- `~0u` for an argument that is not given. -/
abbrev notGiven : UInt32 := 0xFFFFFFFF

namespace Spi

/-- `NUM_SPI`. -/
abbrev numSpi : Nat := 3

structure Config where
  baudrate : UInt32
  polarity : UInt8
  phase : UInt8
  bits : UInt8

structure Args where
  baudrate : UInt32
  polarity : UInt32
  phase : UInt32
  bits : UInt32
  firstbit : UInt32

structure Params where
  bitRate : UInt32
  dataSize : UInt8
  frameFormat : UInt8

inductive Op
  | read
  | readinto
  | write
  | writeReadinto

def flag (arg : UInt32) (old : UInt8) : UInt8 :=
  if arg = notGiven then old else if arg = 0 then 0 else 1

/-- `machine_spi.c`. -/
def spi : PortDriver Config Args Params Op where
  initial := ⟨1000000, 0, 0, 8⟩
  defaults := ⟨notGiven, notGiven, notGiven, notGiven, notGiven⟩
  configure config args :=
    { baudrate := if args.baudrate = notGiven then config.baudrate else args.baudrate
      polarity := flag args.polarity config.polarity
      phase := flag args.phase config.phase
      bits := if args.bits = notGiven then config.bits else args.bits.toUInt8 }
  params config := ⟨config.baudrate, config.bits, (config.polarity <<< 1) ||| config.phase⟩
  opensBare := false
  starts := false
  calls _ := 1
  operate config _ := config

end Spi

namespace I2c

/-- `NUM_I2C`. -/
abbrev numI2c : Nat := 3

inductive BitRate
  | kHz100
  | kHz400
  | kHz1000

inductive Op
  | scan
  | readfrom
  | readfromInto
  | writeto
  | readfromMem
  | readfromMemInto
  | writetoMem

/-- The baudrate is rounded up to one that there is. -/
def quantise (baudrate : UInt32) : UInt32 :=
  if baudrate ≤ 100000 then 100000 else if baudrate ≤ 400000 then 400000 else 1000000

/-- `machine_i2c.c`; a scan tries the addresses from 0x08 to 0x77. -/
def i2c : PortDriver UInt32 UInt32 BitRate Op where
  initial := 400000
  defaults := notGiven
  configure baudrate arg := quantise (if arg = notGiven then baudrate else arg)
  params baudrate :=
    if baudrate ≤ 100000 then .kHz100 else if baudrate ≤ 400000 then .kHz400 else .kHz1000
  opensBare := true
  starts := false
  calls
    | .scan => 0x78 - 0x08
    | .readfrom | .readfromInto | .writeto | .readfromMem | .readfromMemInto | .writetoMem => 1
  operate baudrate _ := baudrate

end I2c

namespace Pwm

/-- `NUM_PWM`. -/
abbrev numPwm : Nat := 4

structure Config where
  freq : UInt32
  duty : UInt32

/-- `duty` is -1, which is `~0`, if it is not given. -/
structure Args where
  freq : Int32
  duty : Int32

structure Params where
  periodValue : UInt32
  dutyValue : UInt32

/-- `freq` and `duty`, with the argument if there is one, and whether the driver
accepts a period. -/
inductive Op
  | freq (tval : Option Int32) (accepted : Bool)
  | duty (duty : Option Int32)

def atMost100 (duty : Int32) : UInt32 := (if 100 < duty then 100 else duty).toUInt32

/-- `machine_pwm.c`, for the driver's `PWM_DUTY_FRACTION_MAX`. -/
def pwm (pwmDutyFractionMax : UInt32) : PortDriver Config Args Params Op where
  initial := ⟨1000, 0⟩
  defaults := ⟨0, -1⟩
  configure config args :=
    { freq := if 0 < args.freq then args.freq.toUInt32 else config.freq
      duty := if args.duty = -1 then config.duty else atMost100 args.duty }
  params config := ⟨config.freq, config.duty * (pwmDutyFractionMax / 100)⟩
  opensBare := true
  starts := true
  calls
    | .freq none _ | .duty none => 0
    | .freq (some _) _ | .duty (some _) => 1
  operate config
    | .freq (some tval) true => { config with freq := tval.toUInt32 }
    | .duty (some duty) => { config with duty := atMost100 duty }
    | .freq _ _ | .duty none => config

end Pwm

end TildaMk4.Machine
