import Chip8.Nibble

/-!
The sixteen keys of the keypad. A key is numbered by a byte, of which the lower four bits count.
-/

namespace Chip8

structure Keypad where
  keys : Bank Bool
deriving DecidableEq

namespace Keypad

def key (k : UInt8) : Nibble := .ofNat k.toNat

/-- No key is down. -/
def idle : Keypad := ⟨Vector.replicate 16 false⟩

def isDown (p : Keypad) (k : UInt8) : Bool := p.keys.get (key k)

def press (p : Keypad) (k : UInt8) : Keypad := ⟨p.keys.set (key k) true⟩

def release (p : Keypad) (k : UInt8) : Keypad := ⟨p.keys.set (key k) false⟩

/-- Exactly the given keys are down. -/
def ofKeys (ks : List UInt8) : Keypad := ks.foldl press idle

/-- Key `k` is down if the `k`-th truth value says so. -/
def ofBools (bs : List Bool) : Keypad := ⟨Vector.ofFn fun k => bs.getD k false⟩

/-- The keys that are down, in ascending order. -/
def down (p : Keypad) : List Nibble := (List.finRange 16).filter p.keys.get

def firstDown (p : Keypad) : Option Nibble := p.down.head?

def anyDown (p : Keypad) : Bool := !p.down.isEmpty

@[simp] theorem val_key (k : UInt8) : (key k).val = k.toNat % 16 := rfl

theorem mem_down {p : Keypad} {k : Nibble} : k ∈ p.down ↔ p.keys.get k = true := by
  simp [down]

@[simp] theorem isDown_idle (k : UInt8) : idle.isDown k = false := by
  simp [isDown, idle]

theorem isDown_press (p : Keypad) (k j : UInt8) :
    (p.press k).isDown j = (decide (key k = key j) || p.isDown j) := by
  by_cases h : key k = key j
  · simp [isDown, press, h]
  · simp [isDown, press, Bank.get_set, h]

theorem isDown_release (p : Keypad) (k j : UInt8) :
    (p.release k).isDown j = (!decide (key k = key j) && p.isDown j) := by
  by_cases h : key k = key j
  · simp [isDown, release, h]
  · simp [isDown, release, Bank.get_set, h]

end Keypad

end Chip8
