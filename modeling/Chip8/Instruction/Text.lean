import Chip8.Hex
import Chip8.Instruction.Basic

/-!
Assembly text of an instruction: a mnemonic and its operands. Registers are written `V` and an
upper-case digit, immediate values in lower case behind `0x`, a sprite's height in decimal.
-/

namespace Chip8.Instruction

variable {registers : Nat}

def registerText (x : Fin registers) : String := "V" ++ Hex.upper 1 x.val

/-- A mnemonic with two operands. -/
def binary (mnemonic first second : String) : String := mnemonic ++ " " ++ first ++ ", " ++ second

def text : Instruction registers → String
  | clearScreen => "CLS"
  | ret => "RET"
  | jump a => "JP " ++ Hex.address a
  | call a => "CALL " ++ Hex.address a
  | skipEqByte x b => binary "SE" (registerText x) (Hex.byte b)
  | skipNeByte x b => binary "SNE" (registerText x) (Hex.byte b)
  | skipEq x y => binary "SE" (registerText x) (registerText y)
  | setByte x b => binary "LD" (registerText x) (Hex.byte b)
  | addByte x b => binary "ADD" (registerText x) (Hex.byte b)
  | copy x y => binary "LD" (registerText x) (registerText y)
  | bitOr x y => binary "OR" (registerText x) (registerText y)
  | bitAnd x y => binary "AND" (registerText x) (registerText y)
  | bitXor x y => binary "XOR" (registerText x) (registerText y)
  | add x y => binary "ADD" (registerText x) (registerText y)
  | sub x y => binary "SUB" (registerText x) (registerText y)
  | shiftRight x => "SHR " ++ registerText x
  | subFrom x y => binary "SUBN" (registerText x) (registerText y)
  | shiftLeft x => "SHL " ++ registerText x
  | skipNe x y => binary "SNE" (registerText x) (registerText y)
  | setIndex a => binary "LD" "I" (Hex.address a)
  | jumpOffset a => binary "JP" "V0" (Hex.address a)
  | random x b => binary "RND" (registerText x) (Hex.byte b)
  | draw x y n =>
    "DRW " ++ registerText x ++ ", " ++ registerText y ++ ", " ++ toString n.toNat
  | skipKeyDown x => "SKP " ++ registerText x
  | skipKeyUp x => "SKNP " ++ registerText x
  | getDelay x => binary "LD" (registerText x) "DT"
  | waitKey x => binary "LD" (registerText x) "K"
  | setDelay x => binary "LD" "DT" (registerText x)
  | setSound x => binary "LD" "ST" (registerText x)
  | addIndex x => binary "ADD" "I" (registerText x)
  | glyph x => binary "LD" "F" (registerText x)
  | decimal x => binary "LD" "B" (registerText x)
  | save x => binary "LD" "[I]" (registerText x)
  | restore x => binary "LD" (registerText x) "[I]"
  | unknown w => "DW " ++ Hex.word w

end Chip8.Instruction
