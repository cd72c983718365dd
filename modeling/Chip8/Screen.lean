/-!
The screen, 64 pixels wide and 32 high. Coordinates wrap around at its edges. Drawing flips
pixels; the screen remembers whether anything was drawn or cleared since its picture was last
taken.
-/

namespace Chip8

/-- A picture, eight pixels to a byte, row by row; the highest bit is the leftmost pixel. -/
abbrev Frame := Vector UInt8 256

namespace Frame

/-- The byte that holds a pixel, and the pixel's bit in that byte. -/
def locate (x y : Nat) : Fin 256 × UInt8 :=
  let x := x % 64
  let y := y % 32
  (⟨(64 * y + x) / 8, by omega⟩, 0x80 >>> UInt8.ofNat (x % 8))

def pixel (f : Frame) (x y : Nat) : Bool :=
  let (byte, mask) := locate x y
  f[byte] &&& mask != 0

/-- Flips the bits of a byte that are set in a mask. -/
def flip (f : Frame) (byte : Fin 256) (mask : UInt8) : Frame := f.set byte (f[byte] ^^^ mask)

/-- How many bits of a byte are set. -/
def ones (b : UInt8) : Nat := (List.range 8).countP fun c => b.toNat.testBit (7 - c)

def lit (f : Frame) : Nat := f.toList.foldl (fun n b => n + ones b) 0

/-- Only one byte changes. -/
theorem getElem_flip (f : Frame) (byte i : Fin 256) (mask : UInt8) :
    (f.flip byte mask)[i] = if byte = i then f[byte] ^^^ mask else f[i] := by
  simp only [flip, Fin.getElem_fin, Vector.getElem_set, Fin.val_inj]

end Frame

structure Screen where
  frame : Frame
  dirty : Bool
deriving DecidableEq

namespace Screen

abbrev width : Nat := 64

abbrev height : Nat := 32

def blank : Screen := ⟨Vector.replicate 256 0, false⟩

def pixel (s : Screen) (x y : Nat) : Bool := s.frame.pixel x y

def clear (_ : Screen) : Screen := ⟨Vector.replicate 256 0, true⟩

/-- Flips a pixel, and says whether it was lit before. -/
def toggle (s : Screen) (x y : Nat) : Bool × Screen :=
  let (byte, mask) := Frame.locate x y
  (s.frame[byte] &&& mask != 0, ⟨s.frame.flip byte mask, true⟩)

/-- The pixels that a sprite covers when its top left corner is at `(x, y)`. -/
def spritePixels (x y : Nat) : List UInt8 → List (Nat × Nat)
  | [] => []
  | row :: rest =>
    ((List.range 8).filter fun c => row.toNat.testBit (7 - c)).map (fun c => (x + c, y)) ++
      spritePixels x (y + 1) rest

/-- Flips pixels one after another, and says whether any of them was lit. -/
def blit (s : Screen) : List (Nat × Nat) → Bool × Screen
  | [] => (false, s)
  | (x, y) :: rest =>
    let (lit, s) := s.toggle x y
    let (hit, s) := s.blit rest
    (lit || hit, s)

def lit (s : Screen) : Nat := s.frame.lit

def clean (s : Screen) : Screen := { s with dirty := false }

/-- Hands the picture over if it has changed since the last time. -/
def takeFrame (s : Screen) : Option Frame × Screen :=
  if s.dirty then (some s.frame, s.clean) else (none, s)

@[simp] theorem toggle_fst (s : Screen) (x y : Nat) : (s.toggle x y).1 = s.pixel x y := rfl

@[simp] theorem dirty_toggle (s : Screen) (x y : Nat) : (s.toggle x y).2.dirty = true := rfl

@[simp] theorem spritePixels_nil (x y : Nat) : spritePixels x y [] = [] := rfl

@[simp] theorem blit_nil (s : Screen) : s.blit [] = (false, s) := rfl

theorem blit_cons (s : Screen) (x y : Nat) (rest : List (Nat × Nat)) :
    s.blit ((x, y) :: rest) =
      (s.pixel x y || ((s.toggle x y).2.blit rest).1, ((s.toggle x y).2.blit rest).2) := rfl

end Screen

end Chip8
