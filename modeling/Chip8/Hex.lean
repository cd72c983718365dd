import Chip8.Nibble

/-!
Numbers in base sixteen. A number has at least one place; a wider field is filled with zeros from
the left, and a number too wide for its field is written in full.
-/

namespace Chip8.Hex

def lowerDigits : Bank Char :=
  #v['0', '1', '2', '3', '4', '5', '6', '7', '8', '9', 'a', 'b', 'c', 'd', 'e', 'f']

def upperDigits : Bank Char :=
  #v['0', '1', '2', '3', '4', '5', '6', '7', '8', '9', 'A', 'B', 'C', 'D', 'E', 'F']

/-- The last `w` places of a number. -/
def places (digits : Bank Char) : Nat → Nat → List Char
  | 0, _ => []
  | w + 1, n => places digits w (n / 16) ++ [digits.nth n]

/-- The number of places that a number needs. -/
def width (n : Nat) : Nat := n.log2 / 4 + 1

/-- All places of a number, at least `w` of them. -/
def padded (digits : Bank Char) (w n : Nat) : List Char :=
  places digits (max w (width n)) n

def lower (w n : Nat) : String := String.ofList (padded lowerDigits w n)

def upper (w n : Nat) : String := String.ofList (padded upperDigits w n)

/-- An address, with three places or more. -/
def address (a : UInt16) : String := "0x" ++ lower 3 a.toNat

/-- A byte, with two places. -/
def byte (b : UInt8) : String := "0x" ++ lower 2 b.toNat

/-- An instruction word, with four places. -/
def word (w : UInt16) : String := "0x" ++ lower 4 w.toNat

section
variable (digits : Bank Char)

@[simp] theorem places_zero (n : Nat) : places digits 0 n = [] := rfl

theorem places_succ (w n : Nat) :
    places digits (w + 1) n = places digits w (n / 16) ++ [digits.nth n] := rfl

@[simp] theorem length_places (w n : Nat) : (places digits w n).length = w := by
  induction w generalizing n with
  | zero => rfl
  | succ w ih => simp [places_succ, ih]

@[simp] theorem length_padded (w n : Nat) : (padded digits w n).length = max w (width n) := by
  simp [padded]

end

end Chip8.Hex
