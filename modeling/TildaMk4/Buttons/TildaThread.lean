import Mathlib.Algebra.GroupWithZero.Nat
import Mathlib.Data.Fintype.Basic
import Mathlib.Logic.Function.Basic

/-!
# The button callbacks

`tilda_thread.c`: the callbacks that are registered for the 22 buttons, the port
expander's state as the thread last read it, and what a TCA event schedules. The
last six buttons are GPIO pins with an interrupt handler of their own.
-/

namespace TildaMk4.Buttons

/-- `Buttons_MAX`. -/
@[simp] abbrev buttonsMax : Nat := 22

/-- `Buttons_JOY_Center`, the first button on a GPIO pin. -/
@[simp] abbrev joyCenter : Nat := 16

/-- `Buttons_BTN_Menu`. -/
@[simp] abbrev btnMenu : Nat := 21

/-- `TILDA_BUTTONS_Names`. -/
abbrev Button := Fin buttonsMax

instance : NeZero buttonsMax := ⟨by decide⟩

/-- The buttons on the port expander, in the order of its bits. -/
abbrev TcaButton := Fin joyCenter

def TcaButton.name (button : TcaButton) : Button := button.castLE (by decide)

/-- `tilda_tca_callback_modes_t`. -/
structure CallbackModes where
  onPress : Bool
  onRelease : Bool
  deriving DecidableEq

/-- The functions that are passed to `GPIO_setCallback`. -/
inductive GpioCallback
  | tildaGpioCallback
  | gpioCallback
  | pdbStart
  | bqInterruptHandler
  | hdcInterruptHandler
  deriving DecidableEq

/-- A pin of the GPIO driver: the edges in its configuration and its interrupt. -/
structure GpioPin where
  intRising : Bool
  intFalling : Bool
  intEnabled : Bool
  callback : Option GpioCallback
  deriving DecidableEq

/-- The two bytes that `I2C_transfer` leaves in `readBuffer`, low byte first; `none`
if it fails. -/
abbrev TcaRead := Option (UInt8 × UInt8)

/-- `(readBuffer[1] << 8) | readBuffer[0]`. -/
def portValue (readBuffer : UInt8 × UInt8) : UInt16 :=
  (readBuffer.2.toUInt16 <<< 8) ||| readBuffer.1.toUInt16

/-- `(value >> button) & 0x1`. -/
def portBit (value : UInt16) (button : TcaButton) : Bool := value.toNat.testBit button

/-- The static variables of `tilda_thread.c`, the root pointers
`tilda_button_callback` with `none` for `mp_const_none`, and the GPIO pins. -/
structure Tilda (Obj : Type) where
  buttonState : UInt16
  lastButtonState : UInt16
  tildaButtonCallback : Button → Option Obj
  tildaButtonCallbackModes : Button → CallbackModes
  gpio : Nat → GpioPin

namespace Tilda

variable {Obj : Type} (s : Tilda Obj)

def tildaInit0 : Tilda Obj :=
  { s with tildaButtonCallback := fun _ => none, tildaButtonCallbackModes := fun _ => ⟨false, false⟩ }

def setGpio (index : Nat) (pin : GpioPin) : Tilda Obj :=
  { s with gpio := Function.update s.gpio index pin }

def setCallback (button : Button) (callback : Option Obj) (modes : CallbackModes) : Tilda Obj :=
  { s with
    tildaButtonCallback := Function.update s.tildaButtonCallback button callback
    tildaButtonCallbackModes := Function.update s.tildaButtonCallbackModes button modes }

/-- The configuration that `registerButtonCallback` gives the pin of a button: the
menu button is low when it is pressed, the joystick is high. -/
def buttonPin (button : Button) (onPress onRelease : Bool) : GpioPin where
  intRising := if button.val = btnMenu then onRelease else onPress
  intFalling := if button.val = btnMenu then onPress else onRelease
  intEnabled := true
  callback := some .tildaGpioCallback

def registerButtonCallback (button : Button) (callback : Option Obj) (onPress onRelease : Bool) :
    Tilda Obj :=
  let registered := s.setCallback button callback ⟨onPress, onRelease⟩
  if joyCenter ≤ button.val then
    registered.setGpio (button.val - joyCenter) (buttonPin button onPress onRelease)
  else registered

def unregisterButtonCallback (button : Button) : Tilda Obj :=
  let unregistered := s.setCallback button none ⟨false, false⟩
  if joyCenter ≤ button.val then
    unregistered.setGpio (button.val - joyCenter)
      { s.gpio (button.val - joyCenter) with intEnabled := false }
  else unregistered

def readTcaButtons (read : TcaRead) : Tilda Obj :=
  match read with
  | none => s
  | some readBuffer => { s with lastButtonState := s.buttonState, buttonState := portValue readBuffer }

/-- The read before the loop of `tildaThread`. -/
def initialRead (readBuffer : UInt8 × UInt8) : Tilda Obj :=
  { s.readTcaButtons (some readBuffer) with lastButtonState := portValue readBuffer }

/-- The two tests for a button with a callback in the loop of `tildaThread`. -/
def firesOnPress (button : TcaButton) : Bool :=
  (s.tildaButtonCallbackModes button.name).onPress && !portBit s.buttonState button &&
    portBit s.lastButtonState button

def firesOnRelease (button : TcaButton) : Bool :=
  (s.tildaButtonCallbackModes button.name).onRelease && portBit s.buttonState button &&
    !portBit s.lastButtonState button

/-- One round of the loop over the buttons: what is passed to `mp_sched_schedule`. -/
def checkButton (button : TcaButton) : List (Obj × TcaButton) :=
  match s.tildaButtonCallback button.name with
  | none => []
  | some callback =>
    (if s.firesOnPress button then [(callback, button)] else []) ++
      (if s.firesOnRelease button then [(callback, button)] else [])

/-- A TCA event: what it schedules, and the state after it. -/
def handleTca (read : TcaRead) : List (Obj × TcaButton) × Tilda Obj :=
  let updated := s.readTcaButtons read
  ((List.finRange joyCenter).flatMap updated.checkButton, updated)

end Tilda

end TildaMk4.Buttons
