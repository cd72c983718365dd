import Chip8.Instruction.Text

/-!
Listings of a program: its bytes are read two by two as instruction words. A last byte without a
partner has no row. Addresses count up from an origin and wrap around after `0xFFFF`.
-/

namespace Chip8.Disassembly

structure Row where
  address : UInt16
  word : UInt16
deriving DecidableEq

def Row.instruction (r : Row) : Instruction 16 := Instruction.decode r.word

def Row.text (r : Row) : String := r.instruction.text

/-- A row as the listing prints it: address, word and text. -/
def Row.line (r : Row) : String :=
  Hex.lower 3 r.address.toNat ++ ": " ++ Hex.lower 4 r.word.toNat ++ "  " ++ r.text

def rows : List UInt8 → UInt16 → List Row
  | hi :: lo :: rest, a => ⟨a, Word.ofBytes hi lo⟩ :: rows rest (a + 2)
  | _, _ => []

/-- The listing as text, a line for each row. -/
def listing (program : List UInt8) (origin : UInt16) : String :=
  String.join ((rows program origin).map fun r => r.line ++ "\n")

@[simp] theorem rows_nil (a : UInt16) : rows [] a = [] := rfl

@[simp] theorem rows_singleton (b : UInt8) (a : UInt16) : rows [b] a = [] := rfl

@[simp] theorem rows_cons_cons (hi lo : UInt8) (rest : List UInt8) (a : UInt16) :
    rows (hi :: lo :: rest) a = ⟨a, Word.ofBytes hi lo⟩ :: rows rest (a + 2) := rfl

theorem length_rows (p : List UInt8) (a : UInt16) : (rows p a).length = p.length / 2 := by
  fun_induction rows p a with
  | case1 a hi lo rest ih =>
    simp only [List.length_cons, ih]
    omega
  | case2 p a h =>
    match p, h with
    | [], _ => rfl
    | [_], _ => simp
    | hi :: lo :: rest, h => exact absurd rfl (h hi lo rest)

end Chip8.Disassembly
