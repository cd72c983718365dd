import Chip8.Console.Run
import Chip8.Machine.Trace

/-!
What a console writes to its log: a line at the start of a run, what its machine writes, and a line
when the input asks to quit.
-/

namespace Chip8.Console

variable {ι : Type}

def loadLog (c : Console ι) (program : List UInt8) : Log := c.machine.loadLog program

variable [Input ι]

def frameLog (c : Console ι) : Log :=
  match pump.run c with
  | .ok .proceed c => c.machine.stepsLog c.config.stepsPerFrame
  | _ => []

def framesLog : Nat → Nat → Console ι → Log
  | 0, _, _ => []
  | n + 1, count, c =>
    match frame.run c with
    | .ok .proceed c' => c.frameLog ++ framesLog n (count + 1) c'
    | .ok .quit _ => [⟨.info, "quit after " ++ toString count ++ " frames"⟩]
    | .error _ _ => c.frameLog

def runLog (budget : Option Nat) (c : Console ι) : Log :=
  ⟨.info, "running at " ++ toString c.config.timerHz ++ " Hz, " ++
    toString c.config.stepsPerFrame ++ " steps per frame"⟩ ::
  framesLog (budget.getD endless) 0 c

end Chip8.Console
