import Chip8.Hex
import Chip8.Text.Printable

/-!
Characters and text in quotes. The quote itself and the backslash stand behind a backslash;
tabulators, line ends and the null character have short names, and other characters that cannot be
seen are written by number.
-/

namespace Chip8.Text

/-- A character inside quotes of the given kind. -/
def escape (quote c : Char) : List Char :=
  if c = '\x00' then ['\\', '0']
  else if c = '\t' then ['\\', 't']
  else if c = '\r' then ['\\', 'r']
  else if c = '\n' then ['\\', 'n']
  else if c = '\\' then ['\\', '\\']
  else if c = quote then ['\\', quote]
  else if isPrintable c then [c]
  else ['\\', 'u', '\x7b'] ++ Hex.padded Hex.lowerDigits 1 c.toNat ++ ['\x7d']

def quotedChar (c : Char) : String := String.ofList (['\''] ++ escape '\'' c ++ ['\''])

def quoted (s : String) : String :=
  String.ofList (['"'] ++ s.toList.flatMap (escape '"') ++ ['"'])

end Chip8.Text
