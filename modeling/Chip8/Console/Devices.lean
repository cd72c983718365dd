import Chip8.Action
import Chip8.Keypad
import Chip8.Screen
import Chip8.Signal
import Chip8.Sound

/-!
The devices that a machine is connected to: an input, which may be of any kind, a display that
remembers the last picture, and a buzzer that counts. Calls to the display and to the buzzer are
numbered from one, and some of them may fail; a failing call does not reach its device.
-/

namespace Chip8

/-- What brings a keypad up to date with all that has happened since the last time. A call may fail,
and what it did until then stays. -/
class Input (ι : Type) where
  pump : EStateM String (ι × Keypad) Signal

/-- An input that replays a script. -/
structure Keyboard where
  /-- The states of the keypad that are still to come. -/
  script : List Keypad := []
  /-- Asks to quit once the script is over. -/
  quits : Bool := false
deriving DecidableEq

namespace Keyboard

/-- Puts the next state on the keypad. After the last one the keypad stays as it is. -/
def pump (k : Keyboard) (p : Keypad) : Signal × Keyboard × Keypad :=
  match k.script with
  | next :: rest => (.proceed, { k with script := rest }, next)
  | [] => (if k.quits then .quit else .proceed, k, p)

instance : Input Keyboard where
  pump := modifyGet fun (k, p) => k.pump p

end Keyboard

/-- An input of which some calls fail. Calls are numbered from one, and a failing call does not
reach the device. -/
structure Flaky (ι : Type) where
  device : ι
  faults : Nat → Option String := fun _ => none
  calls : Nat := 0

namespace Flaky

variable {ι : Type} [Input ι]

def pump : EStateM String (Flaky ι × Keypad) Signal := do
  modify fun (f, p) => ({ f with calls := f.calls + 1 }, p)
  let (f, _) ← get
  match f.faults f.calls with
  | some cause => throw cause
  | none =>
    onPart (fun (f, p) => (f.device, p)) (fun (f, _) (device, p) => ({ f with device }, p)) id
      Input.pump

instance : Input (Flaky ι) := ⟨pump⟩

end Flaky

structure Display where
  /-- The number of pictures shown so far. -/
  frames : Nat := 0
  last : Option Frame := none
deriving DecidableEq

namespace Display

def draw (d : Display) (f : Frame) : Display := ⟨d.frames + 1, some f⟩

end Display

/-- Which calls to the display and to the buzzer fail, and why. -/
structure Faults where
  draw : Nat → Option String := fun _ => none
  beep : Nat → Option String := fun _ => none
  stop : Nat → Option String := fun _ => none

/-- How often the display and the buzzer were called. -/
structure Calls where
  draw : Nat := 0
  beep : Nat := 0
  stop : Nat := 0
deriving DecidableEq

end Chip8
