import Chip8.Instruction.Basic
import Chip8.Machine.Basic

/-!
One step of the machine: the word at the program counter is fetched, decoded and executed. A step
acts on the machine in place, and what it did before it failed would stay; the instructions are
written so that they fail before they change anything.
-/

namespace Chip8

inductive StepError where
  | memory (error : MemoryError)
  | stackOverflow (pc : UInt16)
  | stackUnderflow (pc : UInt16)
deriving DecidableEq

def StepError.message : StepError → String
  | memory e => e.message
  | stackOverflow pc => "call stack overflow at " ++ Hex.address pc
  | stackUnderflow pc => "return with an empty call stack at " ++ Hex.address pc

/-- Where the program counter goes after an instruction. -/
inductive Flow where
  | next
  /-- Over the next instruction. -/
  | skip
  | jump (address : UInt16)
  /-- The same instruction runs again. -/
  | hold
deriving DecidableEq

namespace Flow

def target (pc : UInt16) : Flow → UInt16
  | next => pc + 2
  | skip => pc + 4
  | jump a => a
  | hold => pc

def skipIf (b : Bool) : Flow := if b then skip else next

end Flow

namespace Machine

/-- An action on the machine that may fail. -/
abbrev Exec := EStateM StepError Machine

def access {α : Type} : Except MemoryError α → Exec α
  | .ok a => pure a
  | .error e => throw (.memory e)

def readBlock (a : UInt16) (n : Nat) : Exec (List UInt8) := do
  access ((← get).memory.readBlock a n)

def writeBlock (a : UInt16) (data : List UInt8) : Exec Unit :=
  onMemory .memory (Memory.writeBlock a data)

def setRegister (x : Nibble) (b : UInt8) : Exec Unit :=
  modify fun m => { m with v := m.v.set x b }

/-- The flag register. -/
abbrev flag : Nibble := .ofNat 0xF

/-- Sets the flag, then the result: if the result goes to `VF`, the flag is lost. -/
def setWithFlag (x : Nibble) (b : Bool) (result : UInt8) : Exec Unit := do
  setRegister flag (if b then 1 else 0)
  setRegister x result

/-- Sets the registers from `Vx` on to the given bytes, as far as there are registers. -/
def fill (v : Bank UInt8) (x : Nat) : List UInt8 → Bank UInt8
  | [] => v
  | b :: rest => fill (v.setIfInBounds x b) (x + 1) rest

/-- Moves the index past the registers `V0` to `Vx`, on machines that do so. -/
def moveIndex (x : Nibble) : Exec Unit :=
  modify fun m => if m.movesIndex then { m with index := m.index + UInt16.ofNat (x + 1) } else m

/-- Three decimal digits. -/
def decimalDigits (b : UInt8) : List UInt8 := [b / 100, b / 10 % 10, b % 10]

/-- Draws the sprite at the index, and sets the flag if a lit pixel went out. A sprite without rows
reads no memory. -/
def draw (x y : Nibble) (n : UInt8) : Exec Unit := do
  let m ← get
  let sprite ← if n = 0 then pure [] else readBlock m.index n.toNat
  setRegister flag 0
  let left := (m.v.get x).toNat % Screen.width
  let top := (m.v.get y).toNat % Screen.height
  let (hit, screen) := m.screen.blit (Screen.spritePixels left top sprite)
  modify fun m => { m with screen }
  setRegister flag (if hit then 1 else 0)

open Instruction in
def execute : Instruction 16 → Exec Flow
  | clearScreen => do
    modify fun m => { m with screen := m.screen.clear }
    return .next
  | ret => do
    let m ← get
    match m.stack.pop? with
    | none => throw (.stackUnderflow m.pc)
    | some (a, stack) =>
      set { m with stack }
      return .jump a
  | jump a => return .jump a
  | call a => do
    let m ← get
    match m.stack.push? (m.pc + 2) with
    | none => throw (.stackOverflow m.pc)
    | some stack =>
      set { m with stack }
      return .jump a
  | skipEqByte x b => do
    let m ← get
    return .skipIf (m.v.get x == b)
  | skipNeByte x b => do
    let m ← get
    return .skipIf (m.v.get x != b)
  | skipEq x y => do
    let m ← get
    return .skipIf (m.v.get x == m.v.get y)
  | setByte x b => do
    setRegister x b
    return .next
  | addByte x b => do
    let m ← get
    setRegister x (m.v.get x + b)
    return .next
  | copy x y => do
    let m ← get
    setRegister x (m.v.get y)
    return .next
  | bitOr x y => do
    let m ← get
    setRegister x (m.v.get x ||| m.v.get y)
    return .next
  | bitAnd x y => do
    let m ← get
    setRegister x (m.v.get x &&& m.v.get y)
    return .next
  | bitXor x y => do
    let m ← get
    setRegister x (m.v.get x ^^^ m.v.get y)
    return .next
  | add x y => do
    let m ← get
    setWithFlag x (255 < (m.v.get x).toNat + (m.v.get y).toNat) (m.v.get x + m.v.get y)
    return .next
  | sub x y => do
    let m ← get
    setWithFlag x (m.v.get y ≤ m.v.get x) (m.v.get x - m.v.get y)
    return .next
  | shiftRight x => do
    let m ← get
    setWithFlag x (m.v.get x % 2 = 1) (m.v.get x / 2)
    return .next
  | subFrom x y => do
    let m ← get
    setWithFlag x (m.v.get x ≤ m.v.get y) (m.v.get y - m.v.get x)
    return .next
  | shiftLeft x => do
    let m ← get
    setWithFlag x (128 ≤ m.v.get x) (2 * m.v.get x)
    return .next
  | skipNe x y => do
    let m ← get
    return .skipIf (m.v.get x != m.v.get y)
  | setIndex a => do
    modify fun m => { m with index := a }
    return .next
  | jumpOffset a => do
    let m ← get
    return .jump (a + (m.v.get (.ofNat 0)).toUInt16)
  | random x mask => do
    let m ← get
    modify fun m => { m with generator := m.generator.advance }
    setRegister x (m.generator.peek &&& mask)
    return .next
  | .draw x y n => do
    draw x y n
    return .next
  | skipKeyDown x => do
    let m ← get
    return .skipIf (m.keypad.isDown (m.v.get x))
  | skipKeyUp x => do
    let m ← get
    return .skipIf (!m.keypad.isDown (m.v.get x))
  | getDelay x => do
    let m ← get
    setRegister x m.delay
    return .next
  | waitKey x => do
    let m ← get
    match m.keypad.firstDown with
    | none => return .hold
    | some k =>
      setRegister x (UInt8.ofNat k)
      return .next
  | setDelay x => do
    modify fun m => { m with delay := m.v.get x }
    return .next
  | setSound x => do
    modify fun m => { m with sound := m.v.get x }
    return .next
  | addIndex x => do
    modify fun m => { m with index := m.index + (m.v.get x).toUInt16 }
    return .next
  | glyph x => do
    modify fun m => { m with index := 0x050 + 5 * (m.v.get x).toUInt16 }
    return .next
  | decimal x => do
    let m ← get
    writeBlock m.index (decimalDigits (m.v.get x))
    return .next
  | save x => do
    let m ← get
    writeBlock m.index (m.v.toList.take (x + 1))
    moveIndex x
    return .next
  | restore x => do
    let m ← get
    let bytes ← readBlock m.index (x + 1)
    modify fun m => { m with v := fill m.v 0 bytes }
    moveIndex x
    return .next
  | unknown _ => return .next

def step : Exec Unit := do
  let pc := (← get).pc
  let word ← access ((← get).memory.fetch pc)
  let flow ← execute (Instruction.decode word)
  modify fun m => { m with pc := flow.target pc, cycles := m.cycles + 1 }
  modify fun m => if m.timers = .perStep then m.tick else m

def steps : Nat → Exec Unit
  | 0 => pure ()
  | n + 1 => do
    step
    steps n

/-- At most `n` steps, up to the first that fails: how many succeeded, the failure, and the machine
afterwards. -/
def advance (n : Nat) (m : Machine) : Nat × Option StepError × Machine :=
  match (steps n).run m with
  | .ok _ m' => (n, none, m')
  | .error e m' => (m'.cycles - m.cycles, some e, m')

/-- The machine after each of `n` steps, up to the first that fails. -/
def trail : Nat → Machine → List Machine × Option StepError × Machine
  | 0, m => ([], none, m)
  | n + 1, m =>
    match step.run m with
    | .ok _ m' =>
      let (ms, e, last) := trail n m'
      (m' :: ms, e, last)
    | .error e m' => ([], some e, m')

@[simp] theorem steps_zero : steps 0 = pure () := rfl

theorem steps_succ (n : Nat) : steps (n + 1) = (do step; steps n) := rfl

end Machine

end Chip8
