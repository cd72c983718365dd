import Chip8.Console.Frame

/-!
Runs of a console, frame after frame, until the input asks to quit, a frame fails or a budget of
frames is used up. At the end the buzzer is switched off.
-/

namespace Chip8.Console

variable {ι : Type}

/-- At most so many frames on top of those already counted. -/
def frames [Input ι] : Nat → Nat → Exec ι Nat
  | 0, count => return count
  | n + 1, count => do
    match ← frame with
    | .quit => return count
    | .proceed => frames n (count + 1)

/-- Switches the buzzer off if it is on. -/
def silence : Exec ι Unit := do
  if (← get).beeping then
    stop
    modify fun c => { c with beeping := false }

/-- More frames than anyone waits for. -/
def endless : Nat := UInt64.size

/-- Runs the console and says how many frames it took. A failure to switch the buzzer off at the
end takes the place of the run's own result. -/
def run [Input ι] (budget : Option Nat) : Exec ι Nat := fun c =>
  match (frames (budget.getD endless) 0).run c with
  | .ok count c => (do silence; return count : Exec ι Nat).run c
  | .error e c => (do silence; throw e : Exec ι Nat).run c

end Chip8.Console
