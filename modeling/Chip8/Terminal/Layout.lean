import Chip8.Nibble

/-!
The left-hand side of a keyboard laid over the keypad.

    1 2 3 4        1 2 3 C
    q w e r   as   4 5 6 D
    a s d f        7 8 9 E
    z x c v        A 0 B F
-/

namespace Chip8.Layout

def keys : List (Char × Nibble) := [
  ('1', 0x1), ('2', 0x2), ('3', 0x3), ('4', 0xC),
  ('q', 0x4), ('w', 0x5), ('e', 0x6), ('r', 0xD),
  ('a', 0x7), ('s', 0x8), ('d', 0x9), ('f', 0xE),
  ('z', 0xA), ('x', 0x0), ('c', 0xB), ('v', 0xF)]

/-- The key that a character stands for. Upper and lower case are the same. -/
def key? (c : Char) : Option (Nibble) := keys.lookup c.toLower

end Chip8.Layout
