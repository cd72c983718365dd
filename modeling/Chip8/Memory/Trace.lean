import Chip8.Log
import Chip8.Memory

/-!
What memory writes to the log.
-/

namespace Chip8.Memory

/-- A program that is refused leaves no trace. -/
def loadLog (m : Memory) (program : List UInt8) : Log :=
  match (load program).run m with
  | .ok .. => [⟨.debug, "loaded " ++ toString program.length ++ " byte program at 0x200"⟩]
  | .error .. => []

end Chip8.Memory
