import Mathlib.Data.List.FinRange
import Mathlib.Tactic.Common
import TildaMk4.Lib.Ledger

/-!
# UART

`machine_uart.c` keeps a handle in two places: in the object, which lives on the heap,
and in the array `uarts` for the teardown. `init` opens without closing, `deinit`
closes the handle of the object and leaves the array as it is, and the array is
shorter than the driver's table of ports.
-/

namespace TildaMk4.Machine

open Resources Transition

namespace Uart

/-- `NUM_UARTS`. -/
abbrev numUarts : Nat := 3

/-- `MACHINE_UART_TEXT`. -/
abbrev text : UInt32 := 0

/-- `MACHINE_UART_BINARY`. -/
abbrev binary : UInt32 := 1

structure Config where
  baudrate : UInt32
  bits : UInt32
  timeout : UInt32
  parity : UInt32
  stop : UInt32
  flow : UInt32
  readBufLen : UInt32
  mode : UInt32
  echo : Bool
  deriving DecidableEq

/-- `parity` is `None`, an integer, or something that is no integer. -/
inductive ParityArg
  | none
  | int (value : UInt32)
  | other

structure Args where
  baudrate : UInt32
  bits : UInt32
  parity : ParityArg
  stop : UInt32
  flow : UInt32
  mode : UInt32
  echo : Bool
  timeout : UInt32
  readBufLen : UInt32

structure Params where
  baudRate : UInt32
  dataLength : UInt32
  parityType : UInt32
  stopBits : UInt32
  readEcho : Bool
  binaryMode : Bool
  timeout : UInt32
  deriving DecidableEq

/-- `MACHINE_UART_NONE`, `ODD` or `EVEN`; `none` raises. -/
def parityOf : ParityArg → Option UInt32
  | .none => some 0
  | .int value => if value = 1 ∨ value = 2 then some value else none
  | .other => none

/-- `uart_init_helper` up to the call of `UART_open`: the fields as far as they are set,
and no parameters if it raises. -/
def configure (config : Config) (args : Args) : Config × Option Params :=
  let config := { config with baudrate := args.baudrate, bits := args.bits }
  if args.bits < 5 ∨ 8 < args.bits then (config, none)
  else match parityOf args.parity with
  | none => (config, none)
  | some parity =>
    let config := { config with parity, stop := args.stop }
    if args.stop ≠ 1 ∧ args.stop ≠ 2 then (config, none)
    else
      let config := { config with flow := args.flow }
      if args.flow ≠ 0 then (config, none)
      else
        let config := { config with echo := args.echo, mode := args.mode }
        if args.mode ≠ text ∧ args.mode ≠ binary then (config, none)
        else
          ({ config with readBufLen := args.readBufLen, timeout := args.timeout }, some {
            baudRate := args.baudrate
            dataLength := args.bits
            parityType := parity
            stopBits := args.stop
            readEcho := args.mode = binary || args.echo
            binaryMode := args.mode = binary
            timeout := args.timeout })

/-- `machine_uart_obj_t`. -/
structure Object where
  id : UInt32
  uart : Option Nat
  config : Config

inductive Op
  | any
  | read
  | readinto
  | readline
  | write
  | sendbreak
  deriving DecidableEq

/-- How often an operation calls the driver: `readline` raises in the binary mode, and
`sendbreak` always does. -/
def calls (config : Config) : Op → Nat
  | .any | .read | .readinto | .write => 1
  | .readline => if config.mode = binary then 0 else 1
  | .sendbreak => 0

/-- The objects of a run of the interpreter by their number. -/
structure Uarts where
  ledger : Ledger (UInt32 × Params)
  uarts : Fin numUarts → Option Nat
  objects : Nat → Option Object
  created : Nat

abbrev Calls := List (Event (UInt32 × Params))

/-- The driver refuses to open a port that is open. -/
def isOpen (s : Uarts) (id : UInt32) : Bool :=
  (List.range s.ledger.issued).any fun handle =>
    (s.ledger.held handle).any fun info => info.1 = id

/-- `uarts[id] = handle`. What an id from 3 on overwrites lies behind the array, and is
not modelled. -/
def storeHandle (uarts : Fin numUarts → Option Nat) (id : UInt32) (handle : Nat) :
    Fin numUarts → Option Nat :=
  if inside : id.toNat < numUarts then Function.update uarts ⟨id.toNat, inside⟩ (some handle)
  else uarts

/-- `uart_init_helper` on an object; `none` are arguments for which
`mp_arg_parse_all` raises. -/
def initHelper (s : Uarts) (self : Object) (args : Option Args) (opens : Bool) :
    Object × Uarts × Calls :=
  match args with
  | none => (self, s, [])
  | some args =>
    match configure self.config args with
    | (config, none) => ({ self with config }, s, [])
    | (config, some params) =>
      if opens && !isOpen s self.id then
        ({ self with config, uart := some s.ledger.issued },
          { s with ledger := s.ledger.issue (self.id, params)
                   uarts := storeHandle s.uarts self.id s.ledger.issued },
          [.issued s.ledger.issued (self.id, params)])
      else ({ self with config, uart := none }, s, [])

/-- `machine_uart_make_new`; the fields of a new object are `blank` until they are set.
An object whose initialisation raises is not returned. -/
def makeNew (s : Uarts) (id : UInt32) (blank : Config) (args : Option (Option Args))
    (opens : Bool) : Uarts × Calls :=
  let add (s : Uarts) (self : Object) : Uarts :=
    { s with objects := Function.update s.objects s.created (some self)
             created := s.created + 1 }
  match args with
  | none => (add s ⟨id, none, blank⟩, [])
  | some args =>
    let made := initHelper s ⟨id, none, blank⟩ args opens
    (if made.1.uart.isSome then add made.2.1 made.1 else made.2.1, made.2.2)

def putObject (s : Uarts) (number : Nat) (self : Object) : Uarts :=
  { s with objects := Function.update s.objects number (some self) }

/-- `machine_uart_init`. -/
def init (s : Uarts) (number : Nat) (self : Object) (args : Option Args) (opens : Bool) :
    Uarts × Calls :=
  let made := initHelper s self args opens
  (putObject made.2.1 number made.1, made.2.2)

/-- `machine_uart_deinit`. -/
def deinit (s : Uarts) (number : Nat) (self : Object) : Uarts × Calls :=
  ({ putObject s number { self with uart := none } with
      ledger := s.ledger.record (.released self.uart) }, [.released self.uart])

def closeUarts (s : Uarts) : List (Fin numUarts) → Uarts × Calls
  | [] => (s, [])
  | i :: rest =>
    match s.uarts i with
    | some handle =>
      let later := closeUarts { s with ledger := s.ledger.release handle
                                       uarts := Function.update s.uarts i none } rest
      (later.1, .released (some handle) :: later.2)
    | none => closeUarts s rest

/-- `machine_uart_teardown`, after which the heap with the objects is gone. -/
def teardown (s : Uarts) : Uarts × Calls :=
  let closed := closeUarts s (List.finRange numUarts)
  ({ closed.1 with objects := fun _ => none }, closed.2)

inductive Act
  | makeNew (id : UInt32) (blank : Config) (args : Option (Option Args)) (opens : Bool)
  | init (number : Nat) (args : Option Args) (opens : Bool)
  | deinit (number : Nat)
  | operate (number : Nat) (op : Op)
  | teardown

/-- There is no step for an object that does not exist. -/
def perform (s : Uarts) : Act → Option (Uarts × Calls)
  | .makeNew id blank args opens => some (makeNew s id blank args opens)
  | .init number args opens => (s.objects number).map fun self => init s number self args opens
  | .deinit number => (s.objects number).map fun self => deinit s number self
  | .operate number op => (s.objects number).map fun self =>
      (s, List.replicate (calls self.config op) (.used self.uart))
  | .teardown => some (teardown s)

def start : Uarts := ⟨.empty, fun _ => none, fun _ => none, 0⟩

def system : System Uarts Act Calls where
  step s act := (perform s act).map fun done => (done.1, some done.2)

end Uart

end TildaMk4.Machine
