/-!
The buzzer. A silent one only remembers what it is told; a speaker plays a tone, and is left alone
as long as nothing changes.
-/

namespace Chip8

/-- What a buzzer is told. -/
inductive BuzzerCall where
  | beep
  | stop
deriving DecidableEq

/-- A buzzer that makes no sound. -/
structure Buzzer where
  /-- What it was told so far, the latest first. -/
  calls : List BuzzerCall := []
deriving DecidableEq

namespace Buzzer

def beep (b : Buzzer) : Buzzer := ⟨.beep :: b.calls⟩

def stop (b : Buzzer) : Buzzer := ⟨.stop :: b.calls⟩

def beeps (b : Buzzer) : Nat := b.calls.count .beep

def stops (b : Buzzer) : Nat := b.calls.count .stop

@[simp] theorem beeps_beep (b : Buzzer) : b.beep.beeps = b.beeps + 1 := by simp [beep, beeps]

@[simp] theorem stops_beep (b : Buzzer) : b.beep.stops = b.stops := by simp [beep, stops]

@[simp] theorem beeps_stop (b : Buzzer) : b.stop.beeps = b.beeps := by simp [stop, beeps]

@[simp] theorem stops_stop (b : Buzzer) : b.stop.stops = b.stops + 1 := by simp [stop, stops]

end Buzzer

structure Speaker where
  sounding : Bool := false
deriving DecidableEq

namespace Speaker

/-- The pitch of the tone, in hertz. -/
def pitch : Nat := 2093

/-- The pitch to set, if it has to change. Zero is silence. -/
def beep (s : Speaker) : Option Nat × Speaker :=
  (if s.sounding then none else some pitch, ⟨true⟩)

def stop (s : Speaker) : Option Nat × Speaker :=
  (if s.sounding then some 0 else none, ⟨false⟩)

end Speaker

end Chip8
