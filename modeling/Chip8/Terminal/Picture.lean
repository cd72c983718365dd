import Chip8.Screen
import Chip8.Terminal.Resolution

/-!
The picture on a terminal: a titled box with a cell for each pixel, a block where the pixel is lit
and a space where it is not.
-/

namespace Chip8

def Resolution.screen : Resolution := ⟨Screen.width, Screen.height, 1⟩

namespace Picture

def title : String := "ninechip"

/-- The cells inside the box, row by row. -/
abbrev Cells := Vector Bool 2048

def paint (points : List (Nat × Nat)) : Cells :=
  points.foldl (fun cells p => cells.setIfInBounds (Screen.width * p.2 + p.1) true)
    (Vector.replicate 2048 false)

def bar (n : Nat) : String := String.ofList (List.replicate n '─')

def top : String := "┌" ++ title ++ bar (Screen.width - title.length) ++ "┐"

def bottom : String := "└" ++ bar Screen.width ++ "┘"

def row (cells : Cells) (y : Nat) : String :=
  "│" ++ String.ofList ((List.range Screen.width).map fun x =>
    if cells.toArray.getD (Screen.width * y + x) false then '▄' else ' ') ++ "│"

def lines (cells : Cells) : List String :=
  top :: (List.range Screen.height).map (row cells) ++ [bottom]

end Picture

/-- What a canvas is to paint, and where: its size in cells with a border around it, the first and
the last column, the lowest and the highest row, and the points. -/
structure Chart where
  size : Nat × Nat
  xBounds : Int × Int
  yBounds : Int × Int
  points : List (Int × Int)

/-- Paints a titled box with a cell for each point. -/
abbrev Canvas := Chart → List String

/-- A picture's points as the canvas has them, whose rows grow upwards. -/
def Resolution.chart (r : Resolution) (data : List UInt8) : Chart where
  size := (2 + r.width, 2 + r.height)
  xBounds := (0, r.width - 1)
  yBounds := (-(r.height - 1), 0)
  points := (r.plane data 1).map fun p => (p.1, -p.2)

/-- The box with the cells of the screen. -/
def Picture.box : Canvas := fun chart =>
  lines (paint (chart.points.map fun p => (p.1.toNat, (-p.2).toNat)))

/-- What a terminal shows. -/
structure Terminal where
  lines : List String := []
deriving DecidableEq

/-- Shows a picture on a canvas. One of the wrong size is refused and changes nothing. -/
def Terminal.drawOn (canvas : Canvas) (_ : Terminal) (data : List UInt8) : Option Terminal :=
  if data.length = Resolution.screen.byteCount then
    some ⟨canvas (Resolution.screen.chart data)⟩
  else none

def Terminal.draw (t : Terminal) (data : List UInt8) : Option Terminal :=
  t.drawOn Picture.box data

end Chip8
