import Chip8.Proofs.History

/-!
A machine that checks every address it computes and every place it reads or writes, and that has no
next state where a check fails.

A failed check is not an error of a step: an error is an answer, and a failed check is none.
-/

namespace Chip8.Checked

open Machine

/-! ### Checks -/

/-- A sum that must fit a word. -/
def add? (a b : UInt16) : Option UInt16 :=
  if a.toNat + b.toNat < 65536 then some (a + b) else none

/-- A product that must fit a word. -/
def mul? (a b : UInt16) : Option UInt16 :=
  if a.toNat * b.toNat < 65536 then some (a * b) else none

/-- A number that must name one of `n` places. -/
def place? (n i : Nat) : Option (Fin n) := if h : i < n then some ⟨i, h⟩ else none

/-! ### Memory -/

def byte? (m : Memory) (a : Nat) : Option UInt8 := do
  return m.bytes[← place? 4096 a]

/-- The bytes from `a` up to `b`. -/
def slice? (m : Memory) (a b : Nat) : Option (List UInt8) :=
  if a ≤ b ∧ b ≤ 4096 then some (m.slice a (b - a)) else none

/-- Puts data in place of the bytes from `a` up to `b`, which must be as many. -/
def overwrite? (m : Memory) (a b : Nat) (data : List UInt8) : Option Memory :=
  if a ≤ b ∧ b ≤ 4096 ∧ data.length = b - a then
    some { m with bytes := Memory.store m.bytes a data }
  else none

def readBlock? (m : Memory) (a : UInt16) (n : Nat) : Option (Except MemoryError (List UInt8)) :=
  match m.checkReadable a n with
  | .error e => some (.error e)
  | .ok _ => (slice? m a.toNat (a.toNat + n)).map .ok

def writeBlock? (m : Memory) (a : UInt16) (data : List UInt8) :
    Option (EStateM.Result MemoryError Memory Unit) :=
  match m.checkWritable a data.length with
  | .error e => some (.error e m)
  | .ok _ => (overwrite? m a.toNat (a.toNat + data.length) data).map (.ok ())

def fetch? (m : Memory) (a : UInt16) : Option (Except MemoryError UInt16) :=
  match m.checkWritable a 2 with
  | .error e => some (.error e)
  | .ok _ => do
    let hi ← byte? m a.toNat
    let lo ← byte? m (a.toNat + 1)
    return .ok (Word.ofBytes hi lo)

/-- Blanks the program region, then copies the program into it. -/
def load? (m : Memory) (p : List UInt8) : Option (EStateM.Result LoadError Memory Unit) :=
  if p.isEmpty then some (.error .empty m)
  else if p.length > Memory.capacity then some (.error (.tooLarge p.length) m)
  else do
    let m ← overwrite? m 0x200 4096 (List.replicate 3584 0)
    let m ← overwrite? m 0x200 (0x200 + p.length) p
    return .ok () { m with programSize := some p.length }

/-! ### Registers, keys and pixels -/

/-- The registers up to the `n`-th. -/
def registers? (v : Bank UInt8) (n : Nat) : Option (List UInt8) :=
  if n ≤ 16 then some (v.toList.take n) else none

/-- Copies bytes to the registers up to the `n`-th, which must be as many. -/
def fill? (v : Bank UInt8) (n : Nat) (bytes : List UInt8) : Option (Bank UInt8) :=
  if n ≤ 16 ∧ bytes.length = n then some (fill v 0 bytes) else none

def isDown? (p : Keypad) (k : UInt8) : Option Bool := do
  return p.keys.get (← place? 16 (k &&& 0xF).toNat)

def setKey? (p : Keypad) (k : UInt8) (down : Bool) : Option Keypad := do
  return ⟨p.keys.set (← place? 16 (k &&& 0xF).toNat) down⟩

/-- Flips a pixel: a bit of one of the 256 bytes of the picture, for which the highest bit is
shifted by fewer than eight places. -/
def toggle? (s : Screen) (x y : Nat) : Option (Bool × Screen) := do
  let byte ← place? 256 ((y % 32 * 64 + x % 64) / 8)
  let shift ← place? 8 (x % 64 % 8)
  let mask : UInt8 := 0x80 >>> UInt8.ofNat shift
  return (s.frame.get byte &&& mask != 0, ⟨s.frame.flip byte mask, true⟩)

def blit? (s : Screen) : List (Nat × Nat) → Option (Bool × Screen)
  | [] => some (false, s)
  | (x, y) :: rest => do
    let (lit, s) ← toggle? s x y
    let (hit, s) ← blit? s rest
    return (lit || hit, s)

/-! ### Instructions -/

/-- The register that a word names in the four bits from `shift` on. -/
def register? (w shift : UInt16) : Option Nibble := place? 16 ((w >>> shift) &&& 0xF).toNat

open Instruction in
/-- The instruction of a word. The table has sixteen rows, and the first four bits must name one of
them. -/
def decode? (w : UInt16) : Option (Instruction 16) := do
  let x ← register? w 8
  let y ← register? w 4
  let n := (w &&& 0xF).toUInt8
  let byte := (w &&& 0xFF).toUInt8
  let a := w &&& 0xFFF
  match (w >>> 12).toNat with
  | 0x0 =>
    match w with
    | 0x00E0 => some clearScreen
    | 0x00EE => some ret
    | _ => some (unknown w)
  | 0x1 => some (jump a)
  | 0x2 => some (call a)
  | 0x3 => some (skipEqByte x byte)
  | 0x4 => some (skipNeByte x byte)
  | 0x5 => some (skipEq x y)
  | 0x6 => some (setByte x byte)
  | 0x7 => some (addByte x byte)
  | 0x8 =>
    match n.toNat with
    | 0x0 => some (copy x y)
    | 0x1 => some (bitOr x y)
    | 0x2 => some (bitAnd x y)
    | 0x3 => some (bitXor x y)
    | 0x4 => some (add x y)
    | 0x5 => some (sub x y)
    | 0x6 => some (shiftRight x)
    | 0x7 => some (subFrom x y)
    | 0xE => some (shiftLeft x)
    | _ => some (unknown w)
  | 0x9 => some (skipNe x y)
  | 0xA => some (setIndex a)
  | 0xB => some (jumpOffset a)
  | 0xC => some (random x byte)
  | 0xD => some (draw x y n)
  | 0xE =>
    match byte.toNat with
    | 0x9E => some (skipKeyDown x)
    | 0xA1 => some (skipKeyUp x)
    | _ => some (unknown w)
  | 0xF =>
    match byte.toNat with
    | 0x07 => some (getDelay x)
    | 0x0A => some (waitKey x)
    | 0x15 => some (setDelay x)
    | 0x18 => some (setSound x)
    | 0x1E => some (addIndex x)
    | 0x29 => some (glyph x)
    | 0x33 => some (decimal x)
    | 0x55 => some (save x)
    | 0x65 => some (restore x)
    | _ => some (unknown w)
  | _ => none

/-- What a step comes to where no check fails. -/
abbrev Outcome := EStateM.Result StepError Machine

/-- The rows that a draw instruction reads. -/
def sprite? (m : Machine) (n : UInt8) : Option (Except MemoryError (List UInt8)) :=
  if n = 0 then some (.ok []) else readBlock? m.memory m.index n.toNat

/-- Moves the index past the registers `V0` to `Vx`, on machines that do so. -/
def movePast? (m : Machine) (x : Nibble) : Option Machine :=
  if m.movesIndex then do
    let distance ← add? (UInt16.ofNat x) 1
    return { m with index := m.index + distance }
  else some m

/-- The instructions that compute an address or look something up do so with checks. The others use
nothing but their registers. -/
def execute? (m : Machine) : Instruction 16 → Option (Outcome Flow)
  | .ret =>
    if m.stack.depth = 0 then some (.error (.stackUnderflow m.pc) m)
    else do
      let top ← place? 16 (m.stack.depth - 1)
      let stack := { m.stack with depth := top, depth_le := by omega }
      return .ok (.jump (Bank.get m.stack.slots top)) { m with stack }
  | .call a =>
    if m.stack.depth = 16 then some (.error (.stackOverflow m.pc) m)
    else do
      let top ← place? 16 m.stack.depth
      let source ← add? m.pc 2
      let slots := Bank.set m.stack.slots top source
      let stack := { slots, depth := top + 1, depth_le := by omega }
      return .ok (.jump a) { m with stack }
  | .add x y => do
    let sum ← add? (m.v.get x).toUInt16 (m.v.get y).toUInt16
    return .ok .next (m.putWithFlag x (0xFF < sum) sum.toUInt8)
  | .jumpOffset a => do
    let target ← add? a (m.v.get (.ofNat 0)).toUInt16
    return .ok (.jump target) m
  | .draw x y n => do
    match ← sprite? m n with
    | .error e => return .error (.memory e) m
    | .ok rows =>
      let left := (m.v.get x).toNat % Screen.width
      let top := (m.v.get y).toNat % Screen.height
      let (hit, screen) ← blit? m.screen (Screen.spritePixels left top rows)
      return .ok .next { m with screen, v := m.v.set flag (if hit then 1 else 0) }
  | .skipKeyDown x => do
    let down ← isDown? m.keypad (m.v.get x)
    return .ok (.skipIf down) m
  | .skipKeyUp x => do
    let down ← isDown? m.keypad (m.v.get x)
    return .ok (.skipIf (!down)) m
  | .glyph x => do
    let offset ← mul? 5 (m.v.get x).toUInt16
    let index ← add? 0x050 offset
    return .ok .next { m with index }
  | .decimal x => do
    match ← writeBlock? m.memory m.index (decimalDigits (m.v.get x)) with
    | .error e memory => return .error (.memory e) { m with memory }
    | .ok _ memory => return .ok .next { m with memory }
  | .save x => do
    let registers ← registers? m.v (x + 1)
    match ← writeBlock? m.memory m.index registers with
    | .error e memory => return .error (.memory e) { m with memory }
    | .ok _ memory => return .ok .next (← movePast? { m with memory } x)
  | .restore x => do
    match ← readBlock? m.memory m.index (x + 1) with
    | .error e => return .error (.memory e) m
    | .ok bytes =>
      let v ← fill? m.v (x + 1) bytes
      return .ok .next (← movePast? { m with v } x)
  | i => some ((execute i).run m)

def target? (pc : UInt16) : Flow → Option UInt16
  | .next => add? pc 2
  | .skip => add? pc 4
  | .jump a => some a
  | .hold => some pc

/-- Executes a word, and says where the program counter goes. -/
def word? (m : Machine) (w : UInt16) : Option (Outcome UInt16) := do
  match ← execute? m (← decode? w) with
  | .error e t => return .error e t
  | .ok f t => return .ok (← target? m.pc f) t

/-- The counter of cycles has 64 bits. -/
def count? (cycles : Nat) : Option Nat :=
  if cycles + 1 < UInt64.size then some (cycles + 1) else none

def step? (m : Machine) : Option (Outcome Unit) := do
  match ← fetch? m.memory m.pc with
  | .error e => return .error (.memory e) m
  | .ok w =>
    match ← word? m w with
    | .error e t => return .error e t
    | .ok pc t =>
      let cycles ← count? t.cycles
      let t := { t with pc, cycles }
      return .ok () (if t.timers = .perStep then t.tick else t)

/-! ### Histories -/

def act? (m : Machine) : Action → Option Machine
  | .load p => do
    match ← load? m.memory p with
    | .error _ memory => return { m with memory }
    | .ok _ memory => return { m with memory }.reset
  | .step => do
    match ← step? m with
    | .error _ t => return t
    | .ok _ t => return t
  | .press k => do return { m with keypad := ← setKey? m.keypad k true }
  | .release k => do return { m with keypad := ← setKey? m.keypad k false }
  | a => some (m.act a)

def after? (m : Machine) (history : List Action) : Option Machine := history.foldlM act? m

end Chip8.Checked
