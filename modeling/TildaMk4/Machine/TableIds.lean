import Mathlib.Tactic.SplitIfs
import TildaMk4.Buttons.TildaThread
import TildaMk4.Lib.Words
import TildaMk4.Machine.Uart

/-!
# Ids from Python as indices

The calls of `tilda_buttons.c`, `machine_pin.c` and `machine_uart.c` that index a table
with an id as it comes from Python, and the accesses that they make. The calls of the
GPIO driver in between are left out.
-/

namespace TildaMk4.Machine.TableIds

open Buttons Words

/-- The length that `pinirq_callback` is declared with. -/
abbrev pinirqCallbacks : Nat := 10

/-- `NUM_PINS`, the length of `irq_in_use`. -/
abbrev numPins : Nat := 64

variable {Obj : Type}

/-- A table that is written, or the state of a button that is read, at an index. -/
inductive Access (Obj : Type)
  | buttonState (index : Nat)
  | tildaButtonCallback (index : Nat) (callback : Option Obj)
  | tildaButtonCallbackModes (index : Nat) (modes : CallbackModes)
  | pinirqCallback (index : Nat) (handler : Option Obj)
  | irqInUse (index : Nat) (used : Bool)
  | uarts (index : Nat) (handle : Nat)

def Access.index : Access Obj → Nat
  | .buttonState index | .tildaButtonCallback index _ | .tildaButtonCallbackModes index _
  | .pinirqCallback index _ | .irqInUse index _ | .uarts index _ => index

/-- How many entries there are. -/
def Access.length : Access Obj → Nat
  | .buttonState _ | .tildaButtonCallback _ _ | .tildaButtonCallbackModes _ _ => buttonsMax
  | .pinirqCallback _ _ => pinirqCallbacks
  | .irqInUse _ _ => numPins
  | .uarts _ _ => Uart.numUarts

structure Tables (Obj : Type) where
  tildaButtonCallback : Fin buttonsMax → Option Obj
  tildaButtonCallbackModes : Fin buttonsMax → CallbackModes
  pinirqCallback : Fin pinirqCallbacks → Option Obj
  irqInUse : Fin numPins → Bool
  uarts : Fin Uart.numUarts → Option Nat

/-- `table[index] = value`. What an index behind the end overwrites is not modelled. -/
def store {Value : Type} {length : Nat} (table : Fin length → Value) (index : Nat) (value : Value) :
    Fin length → Value :=
  if inside : index < length then Function.update table ⟨index, inside⟩ value else table

def Access.perform (tables : Tables Obj) : Access Obj → Tables Obj
  | .buttonState _ => tables
  | .tildaButtonCallback index callback =>
    { tables with tildaButtonCallback := store tables.tildaButtonCallback index callback }
  | .tildaButtonCallbackModes index modes =>
    { tables with tildaButtonCallbackModes := store tables.tildaButtonCallbackModes index modes }
  | .pinirqCallback index handler =>
    { tables with pinirqCallback := store tables.pinirqCallback index handler }
  | .irqInUse index used => { tables with irqInUse := store tables.irqInUse index used }
  | .uarts index handle => { tables with uarts := store tables.uarts index (some handle) }

inductive Errno
  | enodev
  | einval
  | eopnotsupp

inductive Exn
  | osError (errno : Errno)
  | overflowError
  | typeError

/-- The accesses of a call in their order, and what it raises after them. -/
structure Outcome (Obj : Type) where
  accesses : List (Access Obj)
  raised : Option Exn

def Outcome.raise (exn : Exn) : Outcome Obj := ⟨[], some exn⟩

def Outcome.tables (outcome : Outcome Obj) (tables : Tables Obj) : Tables Obj :=
  outcome.accesses.foldl Access.perform tables

/-- `mp_obj_get_int`, for what is done with a machine word. -/
def getInt (n : Int) (body : Int32 → Outcome Obj) : Outcome Obj :=
  match word? n with
  | some word => body word
  | none => .raise .overflowError

/-- The unsigned type that the compiler takes for `TILDA_BUTTONS_Names`: the smallest one,
or that of an `int`. -/
inductive EnumWidth
  | short
  | int

def EnumWidth.ofInt : EnumWidth → Int32 → UInt32
  | .short, word => word.toUInt32.toUInt8.toUInt32
  | .int, word => word.toUInt32

section Buttons

variable (width : EnumWidth)

def isPressed (button : Int) : Outcome Obj :=
  getInt button fun word =>
    let button := width.ofInt word
    if buttonsMax ≤ button.toNat then .raise (.osError .enodev)
    else ⟨[.buttonState button.toNat], none⟩

/-- The tables in `registerButtonCallback` and `unregisterButtonCallback`. -/
def setCallback (button : UInt8) (callback : Option Obj) (modes : CallbackModes) :
    List (Access Obj) :=
  [.tildaButtonCallback button.toNat callback, .tildaButtonCallbackModes button.toNat modes]

/-- The arguments of `enable_interrupt` behind the button. -/
structure EnableArgs (Obj : Type) where
  interrupt : Option Obj
  onPress : Int32
  onRelease : Int32

/-- `none` are arguments for which `mp_arg_parse_all` raises. -/
def enableInterrupt (button : Int) (args : Option (EnableArgs Obj)) : Outcome Obj :=
  getInt button fun word =>
    match args with
    | none => .raise .typeError
    | some args => ⟨setCallback (width.ofInt word).toUInt8 args.interrupt
        ⟨args.onPress ≠ 0, args.onRelease ≠ 0⟩, none⟩

def disableInterrupt (button : Int) : Outcome Obj :=
  getInt button fun word =>
    let button := width.ofInt word
    if buttonsMax ≤ button.toNat then .raise (.osError .enodev)
    else ⟨setCallback button.toUInt8 none ⟨false, false⟩, none⟩

end Buttons

/-- `Pin(id)` and `irq` on it; `none` are arguments for which `mp_arg_parse_all` raises. -/
def irq (id : Int) (handler : Option (Option Obj)) : Outcome Obj :=
  getInt id fun word =>
    match handler with
    | none => .raise .typeError
    | some handler =>
      ⟨[.pinirqCallback word.toUInt32.toNat handler, .irqInUse word.toUInt32.toNat true], none⟩

/-- What `uart_init_helper` raises on its way to `UART_open`. -/
def refusal (args : Uart.Args) : Option Exn :=
  if args.bits < 5 ∨ 8 < args.bits then some (.osError .einval)
  else
    match args.parity, Uart.parityOf args.parity with
    | .other, _ => some .typeError
    | _, none => some (.osError .einval)
    | _, some _ =>
      if args.stop ≠ 1 ∧ args.stop ≠ 2 then some (.osError .einval)
      else if args.flow ≠ 0 then some (.osError .eopnotsupp)
      else if args.mode ≠ Uart.text ∧ args.mode ≠ Uart.binary then some (.osError .einval)
      else none

/-- `UART(id, ...)`; `handle` is what `UART_open` returns. Without more arguments the port
is not opened. -/
def uart (id : Int) (args : Option (Option Uart.Args)) (handle : Option Nat) : Outcome Obj :=
  getInt id fun word =>
    match args with
    | none => ⟨[], none⟩
    | some none => .raise .typeError
    | some (some args) =>
      match refusal args, handle with
      | some exn, _ => .raise exn
      | none, none => .raise (.osError .enodev)
      | none, some handle => ⟨[.uarts word.toUInt32.toNat handle], none⟩

/-- `refusal` raises exactly where the configuration of a UART stops. -/
theorem refusal_eq_none_iff (config : Uart.Config) (args : Uart.Args) :
    refusal args = none ↔ (Uart.configure config args).2.isSome := by
  unfold refusal Uart.configure
  dsimp only
  split
  next => simp
  next =>
    cases parity : args.parity with
    | other => simp [Uart.parityOf]
    | none =>
      simp only [Uart.parityOf]
      split_ifs <;> simp
    | int value =>
      simp only [Uart.parityOf]
      split_ifs <;> simp

/-- What is stored of a handle is what the UARTs keep for the teardown. -/
theorem store_uarts (uarts : Fin Uart.numUarts → Option Nat) (id : UInt32) (handle : Nat) :
    store uarts id.toNat (some handle) = Uart.storeHandle uarts id handle := rfl

theorem store_val {Value : Type} {length : Nat} (table : Fin length → Value) (index : Fin length)
    (value : Value) : store table index.val value = Function.update table index value :=
  dif_pos index.isLt

/-- For a button that there is, the two tables change as the thread's model of them says. -/
theorem tables_setCallback (thread : Tilda Obj) (tables : Tables Obj)
    (callbacks : tables.tildaButtonCallback = thread.tildaButtonCallback)
    (modes_ : tables.tildaButtonCallbackModes = thread.tildaButtonCallbackModes) (button : Button)
    (callback : Option Obj) (modes : CallbackModes) :
    let after := (setCallback (UInt8.ofNat button) callback modes).foldl Access.perform tables
    after.tildaButtonCallback = (thread.setCallback button callback modes).tildaButtonCallback ∧
      after.tildaButtonCallbackModes =
        (thread.setCallback button callback modes).tildaButtonCallbackModes := by
  have index : (UInt8.ofNat button).toNat = button.val :=
    UInt8.toNat_ofNat_of_lt' (button.isLt.trans (by decide))
  simp only [setCallback, List.foldl_cons, List.foldl_nil, Access.perform, index, store_val,
    callbacks, modes_, Tilda.setCallback, and_self]

/-! ## The calls -/

inductive Call (Obj : Type)
  | isPressed (button : Int)
  | enableInterrupt (button : Int) (args : Option (EnableArgs Obj))
  | disableInterrupt (button : Int)
  | irq (id : Int) (handler : Option (Option Obj))
  | uart (id : Int) (args : Option (Option Uart.Args)) (handle : Option Nat)

def Call.id : Call Obj → Int
  | .isPressed id | .enableInterrupt id _ | .disableInterrupt id | .irq id _ | .uart id _ _ => id

def Call.outcome (width : EnumWidth) : Call Obj → Outcome Obj
  | .isPressed button => TableIds.isPressed width button
  | .enableInterrupt button args => TableIds.enableInterrupt width button args
  | .disableInterrupt button => TableIds.disableInterrupt width button
  | .irq id handler => TableIds.irq id handler
  | .uart id args handle => TableIds.uart id args handle

/-- Every access is inside its table and at the id that was given, or the call raises
`OSError` and the tables are as they were. -/
def Safe (id : Int) (tables : Tables Obj) (outcome : Outcome Obj) : Prop :=
  (∀ access ∈ outcome.accesses, access.index < access.length ∧ (access.index : Int) = id) ∨
    (∃ errno, outcome.raised = some (.osError errno)) ∧ outcome.tables tables = tables

/-- A button that is checked is not another one after the conversion to the enumeration; an
id that is not checked is inside the table, unless the call raises before it gets there or
does not open the port. -/
def Call.Fits (width : EnumWidth) : Call Obj → Prop
  | .isPressed button | .disableInterrupt button => ∀ word, word? button = some word →
    ((width.ofInt word).toNat : Int) = button ∨ buttonsMax ≤ (width.ofInt word).toNat
  | .enableInterrupt button args => word? button ≠ none → args ≠ none →
    0 ≤ button ∧ button < buttonsMax
  | .irq id handler => word? id ≠ none → handler ≠ none → 0 ≤ id ∧ id < pinirqCallbacks
  | .uart id args handle => word? id ≠ none → (∃ given, args = some (some given) ∧
    refusal given = none) → handle ≠ none → 0 ≤ id ∧ id < Uart.numUarts

section Safe

variable {id : Int} {tables : Tables Obj} {width : EnumWidth} {word : Int32}

theorem safe_raise (exn : Exn) : Safe id tables (.raise exn) := .inl nofun

theorem safe_iff {accesses : List (Access Obj)} : Safe id tables ⟨accesses, none⟩ ↔
    ∀ access ∈ accesses, access.index < access.length ∧ (access.index : Int) = id :=
  or_iff_left fun ⟨⟨_, raised⟩, _⟩ => nomatch raised

/-- A call whose id is a word is as safe as what it does with the word. -/
theorem safe_getInt_iff {body : Int32 → Outcome Obj} {ok : Prop} (large : word? id = none → ok)
    (small : ∀ word, word? id = some word → (Safe id tables (body word) ↔ ok)) :
    Safe id tables (getInt id body) ↔ ok := by
  unfold getInt
  cases given : word? id with
  | none => exact iff_of_true (safe_raise _) (large given)
  | some word => exact small word given

/-- As an unsigned index a word is itself and inside a table exactly if it was before. -/
theorem index_iff (given : word? id = some word) (length : Nat) (short : length ≤ 2 ^ 31) :
    word.toUInt32.toNat < length ∧ (word.toUInt32.toNat : Int) = id ↔ 0 ≤ id ∧ id < length := by
  have same := word?_eq_some.mp given
  have index := toNat_toUInt32 word
  have low := word.le_toInt
  omega

theorem toNat_ofInt_toUInt8 (width : EnumWidth) (word : Int32) :
    ((width.ofInt word).toUInt8.toNat : Int) = word.toInt % 2 ^ 8 := by
  rw [← toNat_toUInt8]
  cases width with
  | short => simp [EnumWidth.ofInt]
  | int => rfl

/-- So is the byte that the functions on callbacks take. -/
theorem byte_iff (given : word? id = some word) :
    (width.ofInt word).toUInt8.toNat < buttonsMax ∧ ((width.ofInt word).toUInt8.toNat : Int) = id ↔
      0 ≤ id ∧ id < buttonsMax := by
  have same := word?_eq_some.mp given
  have index := toNat_ofInt_toUInt8 width word
  simp only [buttonsMax]
  omega

/-- A checked button is used only where it is a button, and there it is used as it is. -/
theorem safe_checked_iff (accesses : UInt32 → List (Access Obj))
    (used : ∀ button : UInt32, button.toNat < buttonsMax →
      ((∀ access ∈ accesses button, access.index < access.length ∧ (access.index : Int) = id) ↔
        (button.toNat : Int) = id)) :
    Safe id tables (getInt id fun word =>
      if buttonsMax ≤ (width.ofInt word).toNat then .raise (.osError .enodev)
      else ⟨accesses (width.ofInt word), none⟩) ↔
    ∀ word, word? id = some word →
      ((width.ofInt word).toNat : Int) = id ∨ buttonsMax ≤ (width.ofInt word).toNat := by
  refine safe_getInt_iff (fun large word given => nomatch large.symm.trans given) fun word given => ?_
  have onlyWord : (∀ word', word? id = some word' → ((width.ofInt word').toNat : Int) = id ∨
      buttonsMax ≤ (width.ofInt word').toNat) ↔
      ((width.ofInt word).toNat : Int) = id ∨ buttonsMax ≤ (width.ofInt word).toNat := by
    refine ⟨fun all => all word given, fun here word' given' => ?_⟩
    obtain rfl : word = word' := Option.some.inj (given.symm.trans given')
    exact here
  rw [onlyWord]
  split
  next behind => exact iff_of_true (safe_raise _) (.inr behind)
  next inside =>
    rw [safe_iff, used _ (Nat.lt_of_not_le inside)]
    exact (or_iff_left inside).symm

theorem forall_setCallback_iff (button : UInt8) (callback : Option Obj) (modes : CallbackModes) :
    (∀ access ∈ setCallback button callback modes,
      access.index < access.length ∧ (access.index : Int) = id) ↔
        button.toNat < buttonsMax ∧ (button.toNat : Int) = id := by
  simp only [setCallback, List.forall_mem_cons, Access.index, Access.length]
  exact ⟨fun all => all.1, fun here => ⟨here, here, nofun⟩⟩

theorem safe_isPressed_iff (button : Int) : Safe button tables (isPressed width button) ↔
    (Call.isPressed button : Call Obj).Fits width := by
  refine safe_checked_iff (fun button => [.buttonState button.toNat]) fun button inside => ?_
  rw [List.forall_mem_singleton]
  exact and_iff_right inside

theorem safe_disableInterrupt_iff (button : Int) :
    Safe button tables (disableInterrupt width button) ↔
      (Call.disableInterrupt button : Call Obj).Fits width := by
  refine safe_checked_iff (fun button => setCallback button.toUInt8 none ⟨false, false⟩)
    fun button inside => ?_
  have byte : button.toUInt8.toNat = button.toNat := by
    rw [UInt32.toNat_toUInt8]
    exact Nat.mod_eq_of_lt (inside.trans (by decide))
  rw [forall_setCallback_iff, byte]
  exact and_iff_right inside

theorem safe_enableInterrupt_iff (button : Int) (args : Option (EnableArgs Obj)) :
    Safe button tables (enableInterrupt width button args) ↔
      (Call.enableInterrupt button args).Fits width := by
  refine safe_getInt_iff (fun large word => absurd large word) fun word given => ?_
  have isWord : word? button ≠ none := given ▸ Option.some_ne_none word
  cases args with
  | none => exact iff_of_true (safe_raise _) fun _ refused => absurd rfl refused
  | some args =>
    dsimp only
    rw [safe_iff, forall_setCallback_iff, byte_iff given]
    exact ⟨fun inside _ _ => inside, fun fits => fits isWord (Option.some_ne_none args)⟩

theorem safe_irq_iff (width : EnumWidth) (id : Int) (handler : Option (Option Obj)) :
    Safe id tables (irq id handler) ↔ (Call.irq id handler).Fits width := by
  refine safe_getInt_iff (fun large word => absurd large word) fun word given => ?_
  have isWord : word? id ≠ none := given ▸ Option.some_ne_none word
  cases handler with
  | none => exact iff_of_true (safe_raise _) fun _ refused => absurd rfl refused
  | some handler =>
    have inside := index_iff given pinirqCallbacks (by decide)
    have behind : word.toUInt32.toNat < pinirqCallbacks → word.toUInt32.toNat < numPins :=
      fun first => first.trans (by decide)
    dsimp only
    rw [safe_iff, List.forall_mem_cons, List.forall_mem_singleton]
    constructor
    · exact fun both _ _ => inside.mp both.1
    · intro fits
      obtain ⟨first, same⟩ := inside.mpr (fits isWord (Option.some_ne_none handler))
      exact ⟨⟨first, same⟩, behind first, same⟩

theorem safe_uart_iff (width : EnumWidth) (id : Int) (args : Option (Option Uart.Args))
    (handle : Option Nat) : Safe id tables (uart id args handle) ↔
      (Call.uart id args handle : Call Obj).Fits width := by
  refine safe_getInt_iff (fun large word => absurd large word) fun word given => ?_
  have isWord : word? id ≠ none := given ▸ Option.some_ne_none word
  cases args with
  | none =>
    exact iff_of_true (safe_iff.mpr nofun) fun _ ⟨_, bare, _⟩ => nomatch bare
  | some args =>
    cases args with
    | none =>
      exact iff_of_true (safe_raise _) fun _ ⟨_, bare, _⟩ => nomatch bare
    | some args =>
      dsimp only
      split
      next exn refused =>
        refine iff_of_true (safe_raise _) fun _ ⟨other, same, accepted⟩ => ?_
        cases same
        exact nomatch refused.symm.trans accepted
      next => exact iff_of_true (safe_raise _) fun _ _ opened => absurd rfl opened
      next handle accepted =>
        rw [safe_iff, List.forall_mem_singleton]
        refine (index_iff given Uart.numUarts (by decide)).trans ?_
        exact ⟨fun inside _ _ _ => inside,
          fun fits => fits isWord ⟨args, rfl, accepted⟩ (Option.some_ne_none handle)⟩

/-- The tables are safe from an id exactly if the call fits. -/
theorem tables_safe_iff (width : EnumWidth) (tables : Tables Obj) (call : Call Obj) :
    Safe call.id tables (call.outcome width) ↔ call.Fits width := by
  cases call with
  | isPressed button => exact safe_isPressed_iff button
  | enableInterrupt button args => exact safe_enableInterrupt_iff button args
  | disableInterrupt button => exact safe_disableInterrupt_iff button
  | irq id handler => exact safe_irq_iff width id handler
  | uart id args handle => exact safe_uart_iff width id args handle

end Safe

/-- With the type of an `int` every button is used as it is or refused. -/
theorem fits_isPressed_int (button : Int) :
    (Call.isPressed button : Call Obj).Fits .int := by
  intro word given
  have same := word?_eq_some.mp given
  have index := toNat_toUInt32 word
  have low := word.le_toInt
  have high := word.toInt_lt
  simp only [EnumWidth.ofInt, buttonsMax]
  omega

/-- With the smallest type a button that is one of the 22 up to a multiple of 256 is taken
for that one. -/
theorem fits_isPressed_short (button : Int) : (Call.isPressed button : Call Obj).Fits .short ↔
    (word? button ≠ none → 0 ≤ button ∧ button < 256 ∨ buttonsMax ≤ button % 256) := by
  have byte (word : Int32) (given : word? button = some word) :
      ((EnumWidth.short.ofInt word).toNat : Int) = button % 2 ^ 8 := by
    rw [EnumWidth.ofInt, UInt8.toNat_toUInt32, toNat_toUInt8, word?_eq_some.mp given]
  simp only [Call.Fits, buttonsMax]
  constructor
  · intro fits isWord
    obtain ⟨word, given⟩ := Option.ne_none_iff_exists'.mp isWord
    have index := byte word given
    have here := fits word given
    omega
  · intro holds word given
    have index := byte word given
    have here := holds (given ▸ Option.some_ne_none word)
    omega

def blankTables : Tables Unit where
  tildaButtonCallback _ := none
  tildaButtonCallbackModes _ := ⟨false, false⟩
  pinirqCallback _ := none
  irqInUse _ := false
  uarts _ := none

/-- Button 22, pin 10 and UART 3 are the first behind the ends. -/
theorem tables_overrun :
    ¬Safe 22 blankTables (enableInterrupt .short 22 (some ⟨none, 1, 0⟩)) ∧
      ¬Safe 10 blankTables (irq 10 (some none)) ∧
      ¬Safe 3 blankTables (uart 3 (some (some ⟨9600, 8, .none, 1, 0, 0, true, 0, 0⟩)) (some 0)) := by
  refine ⟨?_, ?_, ?_⟩
  · rw [safe_enableInterrupt_iff]
    exact fun fits => absurd (fits (by decide) (Option.some_ne_none _)).2 (by decide)
  · rw [safe_irq_iff .short]
    exact fun fits => absurd (fits (by decide) (Option.some_ne_none _)).2 (by decide)
  · rw [safe_uart_iff .short]
    exact fun fits => absurd (fits (by decide) ⟨_, rfl, rfl⟩ (Option.some_ne_none _)).2 (by decide)

end TildaMk4.Machine.TableIds
