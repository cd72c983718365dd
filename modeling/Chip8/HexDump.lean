import Chip8.Hex

/-!
Bytes as text: sixteen to a line in upper-case hex, with single spaces between them.
-/

namespace Chip8.HexDump

def rows : List UInt8 → List (List UInt8)
  | [] => []
  | b :: rest => (b :: rest.take 15) :: rows (rest.drop 15)
termination_by bytes => bytes.length
decreasing_by
  rw [List.length_drop, List.length_cons]
  omega

def row (bytes : List UInt8) : String :=
  " ".intercalate (bytes.map fun b => Hex.upper 2 b.toNat)

def text (bytes : List UInt8) : String :=
  String.join ((rows bytes).map fun r => row r ++ "\n")

end Chip8.HexDump
