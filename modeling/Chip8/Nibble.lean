/-!
Numbers of four bits, and banks of sixteen values that they number: registers, keys, hex digits and
the like.
-/

namespace Chip8

abbrev Nibble := Fin 16

/-- The lower four bits of a number. -/
def Nibble.ofNat (n : Nat) : Nibble := ⟨n % 16, Nat.mod_lt n (by decide)⟩

@[simp] theorem Nibble.val_ofNat (n : Nat) : (Nibble.ofNat n).val = n % 16 := rfl

abbrev Bank (α : Type) := Vector α 16

namespace Bank

variable {α : Type}

def get (b : Bank α) (x : Nibble) : α := b[x]

def set (b : Bank α) (x : Nibble) (a : α) : Bank α := Vector.set b x a

/-- The value that a number's lower four bits name. -/
def nth (b : Bank α) (n : Nat) : α := b.get (.ofNat n)

@[simp] theorem get_replicate (a : α) (x : Nibble) : get (Vector.replicate 16 a) x = a := by
  simp [get]

@[simp] theorem get_ofFn (f : Nibble → α) (x : Nibble) : get (Vector.ofFn f) x = f x := by
  simp [get]

theorem get_set (b : Bank α) (x y : Nibble) (a : α) :
    (b.set x a).get y = if x = y then a else b.get y := by
  simp [get, set, Vector.getElem_set, Fin.val_inj]

@[simp] theorem get_set_self (b : Bank α) (x : Nibble) (a : α) : (b.set x a).get x = a := by
  simp [get_set]

/-- The last value set is the one that stays. -/
@[simp] theorem set_set (b : Bank α) (x : Nibble) (a a' : α) : (b.set x a).set x a' = b.set x a' :=
  Vector.set_set ..

end Bank

end Chip8
