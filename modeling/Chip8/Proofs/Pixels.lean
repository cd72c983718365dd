import Chip8.Screen
import Mathlib.Data.Nat.Bitwise
import Mathlib.Tactic.Lemma

/-!
Pixels as bits of a packed picture.

A pixel is one bit of one byte, and every bit of every byte is a pixel. So flipping that bit flips
the pixel and no other, and a picture is known by its pixels.
-/

namespace Chip8

namespace Frame

variable {f g : Frame}

/-- The bit of a pixel is the one of its column, the highest first. -/
lemma toNat_locate (x y : Nat) : (locate x y).2.toNat = 2 ^ (7 - x % 8) := by
  have hmask : ∀ c < 8, (0x80 >>> UInt8.ofNat c : UInt8).toNat = 2 ^ (7 - c) := by decide
  have hcolumn : x % 64 % 8 = x % 8 := Nat.mod_mod_of_dvd x (by decide)
  rw [locate, hcolumn, hmask _ (Nat.mod_lt x (by decide))]

/-- Pixels are told apart by their byte and their column in it. -/
lemma locate_inj {x y x' y' : Nat} : (locate x y).1 = (locate x' y').1 ∧ x % 8 = x' % 8 ↔
    x % 64 = x' % 64 ∧ y % 32 = y' % 32 := by
  rw [locate, locate, Fin.ext_iff]
  dsimp only
  omega

/-- A row takes eight bytes of the picture. -/
lemma val_locate {x y : Nat} (hx : x < 64) (hy : y < 32) : (locate x y).1.val = 8 * y + x / 8 := by
  rw [locate]
  dsimp only
  omega

lemma getD_locate (f : Frame) {x y : Nat} (hx : x < 64) (hy : y < 32) :
    f.toArray.getD (8 * y + x / 8) 0 = f[(locate x y).1] := by
  have hlt : 8 * y + x / 8 < 256 := by omega
  simp [val_locate hx hy, hlt]

/-- A mask takes one bit out of a byte. -/
lemma pixel_eq_testBit (f : Frame) (x y : Nat) :
    f.pixel x y = f[(locate x y).1].toNat.testBit (7 - x % 8) := by
  have hand (b : UInt8) : (b &&& (locate x y).2 != 0) = b.toNat.testBit (7 - x % 8) := by
    rw [Bool.eq_iff_iff, bne_iff_ne, ne_eq, ← UInt8.toNat_inj, UInt8.toNat_and, toNat_locate,
      Nat.and_two_pow]
    cases b.toNat.testBit (7 - x % 8)
    · simp
    · simp
  exact hand _

/-- Coordinates wrap around. -/
lemma pixel_congr {x y x' y' : Nat} (hx : x % 64 = x' % 64) (hy : y % 32 = y' % 32) :
    f.pixel x y = f.pixel x' y' := by
  have hlocate : locate x y = locate x' y' := by
    simp only [locate, hx, hy]
  rw [pixel, pixel, hlocate]

/-- A byte is known by its bits. -/
lemma byte_ext {b b' : UInt8}
    (h : ∀ c < 8, b.toNat.testBit (7 - c) = b'.toNat.testBit (7 - c)) : b = b' := by
  refine UInt8.toNat_inj.mp (Nat.eq_of_testBit_eq fun i => ?_)
  rcases Nat.lt_or_ge i 8 with hi | hi
  · simpa [show 7 - (7 - i) = i by omega] using h (7 - i) (by omega)
  · have hlt (b : UInt8) : b.toNat < 2 ^ i :=
      Nat.lt_of_lt_of_le b.toNat_lt (Nat.pow_le_pow_right (by decide) hi)
    rw [Nat.testBit_lt_two_pow (hlt b), Nat.testBit_lt_two_pow (hlt b')]

/-- The bytes of a picture hold nothing but its pixels. -/
lemma ext_pixel (h : ∀ x < 64, ∀ y < 32, f.pixel x y = g.pixel x y) : f = g := by
  refine Vector.ext fun i hi => byte_ext fun c hc => ?_
  have hbyte : (locate (8 * (i % 8) + c) (i / 8)).1 = ⟨i, hi⟩ := by
    refine Fin.ext ((val_locate (by omega) (by omega)).trans ?_)
    dsimp only
    omega
  have hcolumn : (8 * (i % 8) + c) % 8 = c := by omega
  have hpixel := h (8 * (i % 8) + c) (by omega) (i / 8) (by omega)
  simp only [pixel_eq_testBit, hbyte, hcolumn] at hpixel
  exact hpixel

end Frame

namespace Screen

variable {s t : Screen} {x y x' y' : Nat}

/-- The number of the cell that a pixel stands in, row by row. -/
def index (x y : Nat) : Fin 2048 :=
  ⟨width * (y % height) + x % width, by simp only [width, height]; omega⟩

@[simp] lemma val_index (x y : Nat) : (index x y).val = 64 * (y % 32) + x % 64 := rfl

/-- Coordinates that agree up to wrapping, and no others, name the same cell. -/
lemma index_inj : index x y = index x' y' ↔ x % 64 = x' % 64 ∧ y % 32 = y' % 32 := by
  rw [Fin.ext_iff, val_index, val_index]
  omega

/-- Flipping the bit of a pixel flips the pixels of its cell and no others. -/
lemma pixel_toggle (s : Screen) (x y x' y' : Nat) : (s.toggle x y).2.pixel x' y' =
    if index x y = index x' y' then !s.pixel x' y' else s.pixel x' y' := by
  have hbit : (Frame.locate x y).2.toNat.testBit (7 - x' % 8) = decide (x % 8 = x' % 8) := by
    rw [Frame.toNat_locate, Nat.testBit_two_pow, decide_eq_decide]
    omega
  have hbyte : (s.toggle x y).2.frame[(Frame.locate x' y').1] =
      if (Frame.locate x y).1 = (Frame.locate x' y').1 then
        s.frame[(Frame.locate x y).1] ^^^ (Frame.locate x y).2
      else s.frame[(Frame.locate x' y').1] := s.frame.getElem_flip ..
  have hcell : index x y = index x' y' ↔
      (Frame.locate x y).1 = (Frame.locate x' y').1 ∧ x % 8 = x' % 8 :=
    index_inj.trans Frame.locate_inj.symm
  rw [pixel, Frame.pixel_eq_testBit, hbyte, pixel, Frame.pixel_eq_testBit]
  by_cases hsame : (Frame.locate x y).1 = (Frame.locate x' y').1
  · rw [if_pos hsame, UInt8.toNat_xor, Nat.testBit_xor, hbit]
    by_cases hcolumn : x % 8 = x' % 8
    · rw [if_pos (hcell.mpr ⟨hsame, hcolumn⟩)]
      simp [hsame, hcolumn]
    · rw [if_neg (fun h => hcolumn (hcell.mp h).2)]
      simp [hsame, hcolumn]
  · rw [if_neg hsame, if_neg (fun h => hsame (hcell.mp h).1)]

lemma pixel_replicate (dirty : Bool) (x y : Nat) :
    pixel ⟨Vector.replicate 256 0, dirty⟩ x y = false := by
  simp [pixel, Frame.pixel_eq_testBit]

@[simp] lemma pixel_blank (x y : Nat) : blank.pixel x y = false := pixel_replicate false x y

@[simp] lemma pixel_clear (s : Screen) (x y : Nat) : s.clear.pixel x y = false :=
  pixel_replicate true x y

/-- Screens with the same pixels show the same picture. -/
lemma frame_ext (h : ∀ x y, s.pixel x y = t.pixel x y) : s.frame = t.frame :=
  Frame.ext_pixel fun x _ y _ => h x y

end Screen

end Chip8
