import Chip8.Random.ChaCha

/-!
Random bytes. A generator is an endless stream of bytes and a position in it. Which stream it is
depends on the seed; without a seed it can be any.
-/

namespace Chip8

structure Generator where
  stream : Nat → UInt8
  /-- The number of bytes drawn so far. -/
  drawn : Nat

namespace Generator

/-- At the beginning of a stream. -/
def start (stream : Nat → UInt8) : Generator := ⟨stream, 0⟩

/-- The byte that is drawn next. -/
def peek (g : Generator) : UInt8 := g.stream g.drawn

def advance (g : Generator) : Generator := { g with drawn := g.drawn + 1 }

end Generator

/-- Where the streams come from. -/
structure Randomness where
  /-- The stream of each seed. -/
  seeded : UInt64 → Nat → UInt8
  /-- The stream of a machine without a seed. -/
  unseeded : Nat → UInt8

namespace Randomness

def generator (r : Randomness) : Option UInt64 → Generator
  | some seed => .start (r.seeded seed)
  | none => .start r.unseeded

/-- The streams of ChaCha, with a key for the machine without a seed. -/
def chaCha (key : ChaCha.Key) : Randomness where
  seeded seed := ChaCha.stream (.ofSeed seed)
  unseeded := ChaCha.stream key

end Randomness

end Chip8
