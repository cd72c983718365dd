/-!
What is to happen after a look at the input.
-/

namespace Chip8

inductive Signal where
  | proceed
  | quit
deriving DecidableEq

end Chip8
