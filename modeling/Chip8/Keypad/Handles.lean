import Chip8.Keypad

/-!
Keypads in several hands. A handle is for one keypad, and a copy of it is for the same one, so that
what is done through one handle is seen through all its copies.
-/

namespace Chip8

namespace Keypad

/-- What can be done to a keypad. -/
inductive Change where
  | press (key : UInt8)
  | release (key : UInt8)
  | releaseAll
  /-- All keys change at once. -/
  | store (keys : Keypad)
deriving DecidableEq

def change (p : Keypad) : Change → Keypad
  | .press k => p.press k
  | .release k => p.release k
  | .releaseAll => idle
  | .store keys => keys

end Keypad

/-- The keypads there are, and for each handle the number of its keypad. -/
structure Keypads where
  pads : List Keypad
  handles : List Nat
  handles_lt : ∀ p ∈ handles, p < pads.length
deriving DecidableEq

namespace Keypads

/-- One keypad, with one handle. -/
def single : Keypads := ⟨[.idle], [0], by simp⟩

/-- Adds a keypad, on which no key is down, and a handle for it. -/
def create (s : Keypads) : Keypads where
  pads := s.pads ++ [.idle]
  handles := s.handles ++ [s.pads.length]
  handles_lt p hp := by
    have := s.handles_lt p
    grind

/-- Adds a copy of a handle. -/
def copy (s : Keypads) (h : Nat) : Keypads where
  pads := s.pads
  handles := s.handles ++ s.handles[h]?.toList
  handles_lt p hp := by
    have := s.handles_lt p
    grind

/-- Changes the keypad of a handle. -/
def change (s : Keypads) (h : Nat) (c : Keypad.Change) : Keypads where
  pads :=
    match s.handles[h]? with
    | some p => s.pads.modify p (·.change c)
    | none => s.pads
  handles := s.handles
  handles_lt p hp := by
    have := s.handles_lt p hp
    split <;> simpa

/-- What is seen through a handle. Without a handle no key is seen to be down. -/
def read (s : Keypads) (h : Nat) : Keypad :=
  match s.handles[h]? with
  | some p => s.pads.getD p .idle
  | none => .idle

end Keypads

end Chip8
