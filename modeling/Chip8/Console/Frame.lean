import Chip8.Console.Devices
import Chip8.Machine.Step

/-!
A console is a machine with its devices. In each frame it looks at its input, runs the machine
for a number of steps, counts the timers down, switches the buzzer on or off when that has changed,
and shows the picture if it has changed.

A frame can be cut short by a failure at any of these points; what was done until then stays.
-/

namespace Chip8

inductive ConsoleError where
  | step (pc : UInt16) (error : StepError)
  | terminal (cause : String)
  | sound (cause : String)
deriving DecidableEq

namespace ConsoleError

def message : ConsoleError → String
  | step pc _ => "interpreter halted at " ++ Hex.address pc
  | terminal _ => "terminal i/o failed"
  | sound cause => "sound device failed: " ++ cause

/-- What lies behind an error, if its message does not say it. -/
def source? : ConsoleError → Option String
  | step _ e => some e.message
  | terminal cause => some cause
  | sound _ => none

end ConsoleError

structure Console (ι : Type) where
  machine : Machine
  config : Config
  /-- The buzzer is on. -/
  beeping : Bool
  input : ι
  display : Display
  buzzer : Buzzer
  faults : Faults
  calls : Calls

namespace Console

variable {ι : Type}

def new (config : Config) (random : Randomness) (input : ι) (faults : Faults) : Console ι where
  machine := .new config random
  config
  beeping := false
  input
  display := {}
  buzzer := {}
  faults
  calls := {}

def load (program : List UInt8) : EStateM LoadError (Console ι) Unit :=
  onPart machine (fun c machine => { c with machine }) id (Machine.load program)

/-- An action on the console that may fail. -/
abbrev Exec (ι : Type) := EStateM ConsoleError (Console ι)

def pump [Input ι] : Exec ι Signal :=
  onPart (fun c => (c.input, c.machine.keypad))
    (fun c (input, keypad) => { c with input, machine.keypad := keypad }) .terminal Input.pump

def beep : Exec ι Unit := do
  modify fun c => { c with calls.beep := c.calls.beep + 1 }
  let c ← get
  match c.faults.beep c.calls.beep with
  | some cause => throw (.sound cause)
  | none => set { c with buzzer := c.buzzer.beep }

def stop : Exec ι Unit := do
  modify fun c => { c with calls.stop := c.calls.stop + 1 }
  let c ← get
  match c.faults.stop c.calls.stop with
  | some cause => throw (.sound cause)
  | none => set { c with buzzer := c.buzzer.stop }

def draw (f : Frame) : Exec ι Unit := do
  modify fun c => { c with calls.draw := c.calls.draw + 1 }
  let c ← get
  match c.faults.draw c.calls.draw with
  | some cause => throw (.terminal cause)
  | none => set { c with display := c.display.draw f }

/-- A step of the machine. A failure carries the address at which it happened. -/
def step : Exec ι Unit := do
  let c ← get
  match Machine.step.run c.machine with
  | .ok _ machine => set { c with machine }
  | .error e machine =>
    set { c with machine }
    throw (.step c.machine.pc e)

def steps : Nat → Exec ι Unit
  | 0 => pure ()
  | n + 1 => do
    step
    steps n

/-- Timers at a fixed rate count down once a frame. -/
def tick : Exec ι Unit :=
  modify fun c => if c.config.timers = .fixed then { c with machine := c.machine.tick } else c

/-- Switches the buzzer if it is not as the sound timer wants it. -/
def updateBuzzer : Exec ι Unit := do
  let c ← get
  let active := c.machine.soundActive
  if active ≠ c.beeping then
    if active then beep else stop
    modify fun c => { c with beeping := active }

/-- Shows the picture if it has changed. The picture counts as taken also if showing it fails. -/
def present : Exec ι Unit := do
  let c ← get
  let (frame, machine) := c.machine.takeFrame
  set { c with machine }
  match frame with
  | none => pure ()
  | some f => draw f

def frame [Input ι] : Exec ι Signal := do
  match ← pump with
  | .quit => return .quit
  | .proceed =>
    steps (← get).config.stepsPerFrame
    tick
    updateBuzzer
    present
    return .proceed

end Console

end Chip8
