import Chip8.Instruction.Basic
import Mathlib.Tactic.Lemma

/-!
The instruction set as a table, with a row for each opcode.

The opcode of a word is the word with zeros for the digits of its operands and for the digits that
do not count. Reading an instruction is looking its opcode up in the table.
-/

namespace Chip8

/-- The first digit tells how many of the others belong to the opcode. -/
def Word.opcode (w : UInt16) : Nat :=
  match w.toNat / 4096 with
  | 0x0 => w.toNat
  | 0x8 => 0x8000 + w.toNat % 16
  | 0xE => 0xE000 + w.toNat % 256
  | 0xF => 0xF000 + w.toNat % 256
  | d => 4096 * d

namespace Instruction

open Word

/-- The instruction of a word, by its opcode. -/
def table (w : UInt16) : Instruction 16 :=
  let x := nibble w 2
  let y := nibble w 1
  let byte := lowByte w
  let a := lowAddress w
  match opcode w with
  | 0x00E0 => clearScreen
  | 0x00EE => ret
  | 0x1000 => jump a
  | 0x2000 => call a
  | 0x3000 => skipEqByte x byte
  | 0x4000 => skipNeByte x byte
  | 0x5000 => skipEq x y
  | 0x6000 => setByte x byte
  | 0x7000 => addByte x byte
  | 0x8000 => copy x y
  | 0x8001 => bitOr x y
  | 0x8002 => bitAnd x y
  | 0x8003 => bitXor x y
  | 0x8004 => add x y
  | 0x8005 => sub x y
  | 0x8006 => shiftRight x
  | 0x8007 => subFrom x y
  | 0x800E => shiftLeft x
  | 0x9000 => skipNe x y
  | 0xA000 => setIndex a
  | 0xB000 => jumpOffset a
  | 0xC000 => random x byte
  | 0xD000 => draw x y (UInt8.ofNat (w.toNat % 16))
  | 0xE09E => skipKeyDown x
  | 0xE0A1 => skipKeyUp x
  | 0xF007 => getDelay x
  | 0xF00A => waitKey x
  | 0xF015 => setDelay x
  | 0xF018 => setSound x
  | 0xF01E => addIndex x
  | 0xF029 => glyph x
  | 0xF033 => decimal x
  | 0xF055 => save x
  | 0xF065 => restore x
  | _ => unknown w

variable {w : UInt16}

/-- A word whose opcode has no row is unknown. -/
lemma decodeArithmetic_eq_table (h : w.toNat / 4096 = 0x8) : decodeArithmetic w = table w := by
  have hop : opcode w = 0x8000 + w.toNat % 16 := by simp only [opcode, h]
  unfold decodeArithmetic table
  simp only [hop]
  split
  case h_10 => split <;> grind
  all_goals simp only [*]

lemma decodeKeys_eq_table (h : w.toNat / 4096 = 0xE) : decodeKeys w = table w := by
  have hop : opcode w = 0xE000 + w.toNat % 256 := by simp only [opcode, h]
  unfold decodeKeys table
  simp only [hop]
  split
  case h_3 => split <;> grind
  all_goals simp only [*]

lemma decodeDevices_eq_table (h : w.toNat / 4096 = 0xF) : decodeDevices w = table w := by
  have hop : opcode w = 0xF000 + w.toNat % 256 := by simp only [opcode, h]
  unfold decodeDevices table
  simp only [hop]
  split
  case h_10 => split <;> grind
  all_goals simp only [*]

/-- **Reading an instruction** is looking up its opcode. -/
theorem decode_eq_table (w : UInt16) : decode w = table w := by
  have hdigit : w.toNat / 4096 < 16 := by
    have := w.toNat_lt
    omega
  unfold decode
  split
  case h_1 h =>
    have hop : opcode w = w.toNat := by simp only [opcode, h]
    have hword (n : UInt16) : w = n ↔ w.toNat = n.toNat := UInt16.toNat_inj.symm
    unfold table
    simp only [hop, hword]
    split <;> grind
  case h_9 h => exact decodeArithmetic_eq_table h
  case h_15 h => exact decodeKeys_eq_table h
  case h_16 => exact decodeDevices_eq_table (by grind)
  all_goals
    next h => simp only [table, opcode, h]

end Instruction

end Chip8
