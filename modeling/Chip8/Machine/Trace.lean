import Chip8.Instruction.Text
import Chip8.Machine.Step
import Chip8.Memory.Trace

/-!
What the machine writes to its log. Each step that could fetch its word is traced before it is
executed, also if it fails then.
-/

namespace Chip8

namespace Machine

def resetLog : Log := [⟨.debug, "reset; pc = 0x200"⟩]

def loadLog (m : Machine) (program : List UInt8) : Log :=
  match (load program).run m with
  | .ok .. => m.memory.loadLog program ++ resetLog
  | .error .. => []

/-- What executing a word writes. -/
def wordLog (pc word : UInt16) : Log :=
  let i := Instruction.decode word
  let trace : Log.Entry :=
    ⟨.trace, Hex.address pc ++ ": " ++ Hex.lower 4 word.toNat ++ "  " ++ i.text⟩
  match i with
  | .unknown w =>
    [trace, ⟨.warn, "unknown instruction " ++ Hex.lower 4 w.toNat ++ " at " ++ Hex.address pc ++
      "; skipping"⟩]
  | _ => [trace]

def stepLog (m : Machine) : Log :=
  match m.memory.fetch m.pc with
  | .ok word => wordLog m.pc word
  | .error _ => []

/-- What `n` steps write, up to the first that fails. -/
def stepsLog : Nat → Machine → Log
  | 0, _ => []
  | n + 1, m =>
    match step.run m with
    | .ok _ m' => m.stepLog ++ stepsLog n m'
    | .error _ _ => m.stepLog

end Machine

end Chip8
