import Chip8.Word

/-!
The instruction set, and the reading of an instruction from its word.

Registers are numbered; the number of them is a parameter, and the machine has sixteen. Every
word is an instruction: a word with no meaning is kept whole as `unknown`.

The words are given by their hex digits. There `x` and `y` stand for the registers `Vx` and `Vy`;
`n`, `kk` and `nnn` for a number of four, eight and twelve bits; and `_` for a digit that does not
count.
-/

namespace Chip8

inductive Instruction (registers : Nat) where
  /-- Word `00E0`. Blanks the screen. -/
  | clearScreen
  /-- Word `00EE`. Goes back to where the last call came from. -/
  | ret
  /-- Word `1nnn`. Goes to an address. -/
  | jump (address : UInt16)
  /-- Word `2nnn`. Goes to an address, to come back later. -/
  | call (address : UInt16)
  /-- Word `3xkk`. Skips the next instruction if a register holds a byte. -/
  | skipEqByte (x : Fin registers) (byte : UInt8)
  /-- Word `4xkk`. Skips the next instruction if a register does not hold a byte. -/
  | skipNeByte (x : Fin registers) (byte : UInt8)
  /-- Word `5xy_`. Skips the next instruction if two registers are equal. -/
  | skipEq (x y : Fin registers)
  /-- Word `6xkk`. Sets a register. -/
  | setByte (x : Fin registers) (byte : UInt8)
  /-- Word `7xkk`. Adds a byte to a register, and leaves the flag alone. -/
  | addByte (x : Fin registers) (byte : UInt8)
  /-- Word `8xy0`. Sets `Vx` to `Vy`. -/
  | copy (x y : Fin registers)
  /-- Word `8xy1`. Joins the bits of `Vy` to `Vx`. -/
  | bitOr (x y : Fin registers)
  /-- Word `8xy2`. Keeps the bits of `Vx` that `Vy` has too. -/
  | bitAnd (x y : Fin registers)
  /-- Word `8xy3`. Flips the bits of `Vx` that `Vy` has. -/
  | bitXor (x y : Fin registers)
  /-- Word `8xy4`. Adds `Vy` to `Vx`; the flag is the carry. -/
  | add (x y : Fin registers)
  /-- Word `8xy5`. Takes `Vy` from `Vx`; the flag says that nothing was borrowed. -/
  | sub (x y : Fin registers)
  /-- Word `8x_6`. Halves `Vx`; the flag is the bit that falls out. -/
  | shiftRight (x : Fin registers)
  /-- Word `8xy7`. Sets `Vx` to `Vy` less `Vx`; the flag says that nothing was borrowed. -/
  | subFrom (x y : Fin registers)
  /-- Word `8x_E`. Doubles `Vx`; the flag is the bit that falls out. -/
  | shiftLeft (x : Fin registers)
  /-- Word `9xy_`. Skips the next instruction if two registers differ. -/
  | skipNe (x y : Fin registers)
  /-- Word `Annn`. Sets the index. -/
  | setIndex (address : UInt16)
  /-- Word `Bnnn`. Goes to an address plus `V0`. -/
  | jumpOffset (address : UInt16)
  /-- Word `Cxkk`. Sets `Vx` to a random byte under a mask. -/
  | random (x : Fin registers) (mask : UInt8)
  /-- Word `Dxyn`. Draws a sprite of some rows at `Vx`, `Vy`. -/
  | draw (x y : Fin registers) (rows : UInt8)
  /-- Word `Ex9E`. Skips the next instruction if the key in `Vx` is down. -/
  | skipKeyDown (x : Fin registers)
  /-- Word `ExA1`. Skips the next instruction if the key in `Vx` is up. -/
  | skipKeyUp (x : Fin registers)
  /-- Word `Fx07`. Sets `Vx` to the delay timer. -/
  | getDelay (x : Fin registers)
  /-- Word `Fx0A`. Waits for a key, and sets `Vx` to it. -/
  | waitKey (x : Fin registers)
  /-- Word `Fx15`. Sets the delay timer to `Vx`. -/
  | setDelay (x : Fin registers)
  /-- Word `Fx18`. Sets the sound timer to `Vx`. -/
  | setSound (x : Fin registers)
  /-- Word `Fx1E`. Adds `Vx` to the index. -/
  | addIndex (x : Fin registers)
  /-- Word `Fx29`. Sets the index to the glyph of the digit in `Vx`. -/
  | glyph (x : Fin registers)
  /-- Word `Fx33`. Writes the three decimal digits of `Vx` at the index. -/
  | decimal (x : Fin registers)
  /-- Word `Fx55`. Writes the registers up to `Vx` at the index. -/
  | save (x : Fin registers)
  /-- Word `Fx65`. Reads the registers up to `Vx` from the index. -/
  | restore (x : Fin registers)
  | unknown (word : UInt16)
deriving DecidableEq

namespace Instruction

open Word

/-- The `8xy_` family is told apart by its last four bits. -/
def decodeArithmetic (w : UInt16) : Instruction 16 :=
  let x := nibble w 2
  let y := nibble w 1
  match w.toNat % 16 with
  | 0x0 => copy x y
  | 0x1 => bitOr x y
  | 0x2 => bitAnd x y
  | 0x3 => bitXor x y
  | 0x4 => add x y
  | 0x5 => sub x y
  | 0x6 => shiftRight x
  | 0x7 => subFrom x y
  | 0xE => shiftLeft x
  | _ => unknown w

/-- The `Ex__` family is told apart by its last eight bits. -/
def decodeKeys (w : UInt16) : Instruction 16 :=
  let x := nibble w 2
  match w.toNat % 256 with
  | 0x9E => skipKeyDown x
  | 0xA1 => skipKeyUp x
  | _ => unknown w

/-- The `Fx__` family is told apart by its last eight bits. -/
def decodeDevices (w : UInt16) : Instruction 16 :=
  let x := nibble w 2
  match w.toNat % 256 with
  | 0x07 => getDelay x
  | 0x0A => waitKey x
  | 0x15 => setDelay x
  | 0x18 => setSound x
  | 0x1E => addIndex x
  | 0x29 => glyph x
  | 0x33 => decimal x
  | 0x55 => save x
  | 0x65 => restore x
  | _ => unknown w

/-- The instruction of a word, by its first four bits. -/
def decode (w : UInt16) : Instruction 16 :=
  let x := nibble w 2
  let y := nibble w 1
  match w.toNat / 4096 with
  | 0x0 => if w = 0x00E0 then clearScreen else if w = 0x00EE then ret else unknown w
  | 0x1 => jump (lowAddress w)
  | 0x2 => call (lowAddress w)
  | 0x3 => skipEqByte x (lowByte w)
  | 0x4 => skipNeByte x (lowByte w)
  | 0x5 => skipEq x y
  | 0x6 => setByte x (lowByte w)
  | 0x7 => addByte x (lowByte w)
  | 0x8 => decodeArithmetic w
  | 0x9 => skipNe x y
  | 0xA => setIndex (lowAddress w)
  | 0xB => jumpOffset (lowAddress w)
  | 0xC => random x (lowByte w)
  | 0xD => draw x y (UInt8.ofNat (w.toNat % 16))
  | 0xE => decodeKeys w
  | _ => decodeDevices w

end Instruction

end Chip8
