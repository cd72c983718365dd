import Chip8.Action
import Chip8.CallStack
import Chip8.Config
import Chip8.Keypad
import Chip8.Memory
import Chip8.Random.Generator
import Chip8.Screen

/-!
The state of the machine: memory, screen and keypad; sixteen registers, the index and the program
counter; the call stack; two timers; and the random generator.
-/

namespace Chip8

structure Machine where
  memory : Memory
  screen : Screen
  keypad : Keypad
  /-- The registers `V0` to `VF`. -/
  v : Bank UInt8
  index : UInt16
  pc : UInt16
  stack : CallStack
  delay : UInt8
  sound : UInt8
  timers : TimerMode
  movesIndex : Bool
  generator : Generator
  /-- The steps completed since the last reset. -/
  cycles : Nat

namespace Machine

/-- A machine with nothing loaded, between a keypad and a random generator. -/
def poweredOn (c : Config) (keypad : Keypad) (generator : Generator) : Machine where
  memory := .blank
  screen := .blank
  keypad
  v := Vector.replicate 16 0
  index := 0
  pc := 0x200
  stack := .empty
  delay := 0
  sound := 0
  timers := c.timers
  movesIndex := c.movesIndex
  generator
  cycles := 0

def new (c : Config) (random : Randomness) : Machine :=
  poweredOn c .idle (random.generator c.seed)

/-- Starts over. Memory, keypad and random generator stay as they are. -/
def reset (m : Machine) : Machine :=
  { m with
    v := Vector.replicate 16 0
    index := 0
    pc := 0x200
    stack := .empty
    delay := 0
    sound := 0
    cycles := 0
    screen := m.screen.clear }

/-- An action on the memory. -/
def onMemory {ε δ α : Type} (wrap : ε → δ) (x : EStateM ε Memory α) : EStateM δ Machine α :=
  onPart memory (fun m memory => { m with memory }) wrap x

/-- Loads a program and starts over. -/
def load (program : List UInt8) : EStateM LoadError Machine Unit := do
  onMemory id (Memory.load program)
  modify reset

/-- Counts a timer down, and stops at zero. -/
def countDown (t : UInt8) : UInt8 := if t = 0 then 0 else t - 1

theorem toNat_countDown (t : UInt8) : (countDown t).toNat = t.toNat - 1 := by
  unfold countDown
  split
  next h => rw [h]; rfl
  next h =>
    have hpos : t.toNat ≠ 0 := fun h0 => h (UInt8.toNat_inj.mp h0)
    rw [UInt8.toNat_sub_of_le]
    · rfl
    · rw [UInt8.le_iff_toNat_le]
      exact Nat.one_le_iff_ne_zero.mpr hpos

/-- Counts both timers down. -/
def tick (m : Machine) : Machine :=
  { m with delay := countDown m.delay, sound := countDown m.sound }

def ticks (m : Machine) : Nat → Machine
  | 0 => m
  | n + 1 => m.tick.ticks n

/-- The buzzer sounds as long as the sound timer runs. -/
def soundActive (m : Machine) : Bool := m.sound ≠ 0

def takeFrame (m : Machine) : Option Frame × Machine :=
  (m.screen.takeFrame.1, { m with screen := m.screen.takeFrame.2 })

end Machine

end Chip8
