/-!
The stack of return addresses, sixteen of them at most. The slots above the top keep what was last
written there.
-/

namespace Chip8

structure CallStack where
  slots : Vector UInt16 16
  depth : Nat
  depth_le : depth ≤ 16 := by omega
deriving DecidableEq

namespace CallStack

def empty : CallStack := { slots := Vector.replicate 16 0, depth := 0 }

/-- Fails if the stack is full. -/
def push? (s : CallStack) (a : UInt16) : Option CallStack :=
  if h : s.depth < 16 then some { slots := s.slots.set s.depth a, depth := s.depth + 1 } else none

/-- Fails if the stack is empty. -/
def pop? (s : CallStack) : Option (UInt16 × CallStack) :=
  if h : 0 < s.depth then
    have := s.depth_le
    some (s.slots[s.depth - 1], { slots := s.slots, depth := s.depth - 1 })
  else none

/-- The return addresses on the stack, the oldest first. -/
def toList (s : CallStack) : List UInt16 := s.slots.toList.take s.depth

@[simp] theorem toList_empty : empty.toList = [] := rfl

@[simp] theorem length_toList (s : CallStack) : s.toList.length = s.depth := by
  have := s.depth_le
  simp [toList]
  omega

theorem push?_eq_none_iff {s : CallStack} {a : UInt16} : s.push? a = none ↔ s.depth = 16 := by
  have := s.depth_le
  simp [push?]
  omega

theorem pop?_eq_none_iff {s : CallStack} : s.pop? = none ↔ s.depth = 0 := by
  simp [pop?]

theorem toList_push {s t : CallStack} {a : UInt16} (h : s.push? a = some t) :
    t.toList = s.toList ++ [a] := by
  unfold push? at h
  split at h
  next hd =>
    cases h
    have : (s.slots.set s.depth a hd).toList.take s.depth = s.slots.toList.take s.depth := by
      rw [Vector.toList_set, List.take_set_of_le (Nat.le_refl _)]
    simp [toList, List.take_add_one, hd, this]
  next => cases h

theorem toList_pop {s t : CallStack} {a : UInt16} (h : s.pop? = some (a, t)) :
    s.toList = t.toList ++ [a] := by
  have hle := s.depth_le
  unfold pop? at h
  split at h
  next hd =>
    cases h
    obtain ⟨n, hn⟩ : ∃ n, s.depth = n + 1 := ⟨s.depth - 1, by omega⟩
    simp [toList, hn, List.take_add_one, show n < 16 by omega]
  next => cases h

end CallStack

end Chip8
