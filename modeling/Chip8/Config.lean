/-!
How fast the machine runs, and the variants of its behaviour.
-/

namespace Chip8

/-- When the timers count down: at a fixed rate, once a frame, or once every instruction. -/
inductive TimerMode where
  | fixed
  | perStep
deriving DecidableEq

structure Config where
  clockHz : Nat := 600
  timerHz : Nat := 60
  timers : TimerMode := .fixed
  /-- Saving and restoring registers moves the index past them. -/
  movesIndex : Bool := false
  seed : Option UInt64 := none
deriving DecidableEq

/-- The instructions that make a frame, at least one. -/
def Config.stepsPerFrame (c : Config) : Nat := max 1 (c.clockHz / max 1 c.timerHz)

theorem Config.stepsPerFrame_pos (c : Config) : 0 < c.stepsPerFrame := Nat.le_max_left ..

end Chip8
