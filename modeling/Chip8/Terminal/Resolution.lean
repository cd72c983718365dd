/-!
Pictures as sets of points. A picture's bits are numbered row by row, the highest bit of a byte
first; a bit plane is the set of points whose bit has a given value. On the canvas the column grows
to the right from zero and the row is counted downwards from zero, so that its coordinate is
negative.
-/

namespace Chip8

structure Resolution where
  width : Nat
  height : Nat
  bitsPerPixel : Nat
deriving DecidableEq

namespace Resolution

def pixelCount (r : Resolution) : Nat := r.width * r.height

def byteCount (r : Resolution) : Nat := r.pixelCount * r.bitsPerPixel / 8

/-- The bit of a pixel, by its number in the picture. -/
def bit (data : Array UInt8) (i : Nat) : Nat :=
  ((data.getD (i / 8) 0).toNat.testBit (7 - i % 8)).toNat

/-- The column and row of each pixel in a bit plane, row by row. -/
def plane (r : Resolution) (data : List UInt8) (b : Nat) : List (Nat × Nat) :=
  let bytes := data.toArray
  ((List.range r.pixelCount).filter fun i => bit bytes i = b).map fun i =>
    (i % r.width, i / r.width)

/-- A column as a coordinate. -/
def xText (x : Nat) : String := toString x ++ ".0"

/-- A row as a coordinate; row zero is a negative zero. -/
def yText (y : Nat) : String := "-" ++ toString y ++ ".0"

def pointText (p : Nat × Nat) : String := xText p.1 ++ "," ++ yText p.2

/-- The first and the last column. -/
def xBounds (r : Resolution) : List String := [xText 0, xText (r.width - 1)]

/-- The last row, and zero. -/
def yBounds (r : Resolution) : List String := [yText (r.height - 1), "0.0"]

end Resolution

end Chip8
