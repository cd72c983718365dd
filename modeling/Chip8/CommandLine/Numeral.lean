/-!
Numbers on the command line: decimal digits, with a plus sign before them if one likes. Only the
digits `0` to `9` count.
-/

namespace Chip8.CommandLine.Numeral

/-- The number that decimal digits spell; at least one is needed. -/
def digits? (cs : List Char) : Option Nat :=
  if cs.isEmpty || !cs.all Char.isDigit then none
  else some (cs.foldl (fun n c => 10 * n + (c.toNat - '0'.toNat)) 0)

/-- A number without a minus sign, below a bound. -/
def unsigned? (bound : Nat) (s : String) : Option Nat :=
  let n := match s.toList with
    | '+' :: cs => digits? cs
    | cs => digits? cs
  n.filter (· < bound)

/-- A number that is not negative, below a bound. Zero may have a minus sign. -/
def nonnegative? (bound : Nat) (s : String) : Option Nat :=
  match s.toList with
  | '-' :: cs => (digits? cs).filter (· = 0)
  | _ => unsigned? bound s

end Chip8.CommandLine.Numeral
