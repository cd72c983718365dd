import Chip8.Nibble

/-!
Sixteen-bit instruction words: two bytes, the high one first, and the four-bit fields that an
instruction's operands stand in. Field `0` is the lowest.
-/

namespace Chip8.Word

def ofBytes (hi lo : UInt8) : UInt16 := UInt16.ofNat (256 * hi.toNat + lo.toNat)

def nibble (w : UInt16) (k : Nat) : Nibble := .ofNat (w.toNat >>> (4 * k))

/-- The lower eight bits. -/
def lowByte (w : UInt16) : UInt8 := UInt8.ofNat (w.toNat % 256)

/-- The lower twelve bits. -/
def lowAddress (w : UInt16) : UInt16 := UInt16.ofNat (w.toNat % 4096)

@[simp] theorem toNat_ofBytes (hi lo : UInt8) :
    (ofBytes hi lo).toNat = 256 * hi.toNat + lo.toNat := by
  have := hi.toNat_lt
  have := lo.toNat_lt
  simp [ofBytes]
  omega

@[simp] theorem val_nibble (w : UInt16) (k : Nat) :
    (nibble w k).val = (w.toNat >>> (4 * k)) % 16 := rfl

@[simp] theorem toNat_lowByte (w : UInt16) : (lowByte w).toNat = w.toNat % 256 := by
  simp [lowByte]

@[simp] theorem toNat_lowAddress (w : UInt16) : (lowAddress w).toNat = w.toNat % 4096 := by
  simp [lowAddress]
  omega

end Chip8.Word
