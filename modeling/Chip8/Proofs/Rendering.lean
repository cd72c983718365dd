import Chip8.Proofs.Pixels
import Chip8.Terminal.Picture
import Mathlib.Data.List.Induction
import Mathlib.Data.Nat.Bitwise

/-!
What a terminal shows of a screen.

The screen numbers its pixels by column and row, packs them into bytes, and the terminal takes them
out again by their number in the picture, to paint them on a canvas whose rows grow upwards. The
canvas is not ours. All that is assumed of it is that it paints a cell for each point in view.
-/

namespace Chip8

namespace Picture

/-- The cell in a column and a row of what is shown. -/
def cell (lines : List String) (x y : Nat) : Char := (lines.getD y "").toList.getD x ' '

/-- The cells inside the border, row by row. -/
def inside (lines : List String) : List Char :=
  (List.range 2048).map fun i => cell lines (i % 64 + 1) (i / 64 + 1)

/-- A box as large as the screen, with the title and a border around it. -/
structure Bordered (lines : List String) : Prop where
  height : lines.length = 34
  width : ∀ line ∈ lines, line.length = 66
  top : lines.getD 0 "" = top
  bottom : lines.getD 33 "" = bottom
  left : ∀ y < 32, cell lines 0 (y + 1) = '│'
  right : ∀ y < 32, cell lines 65 (y + 1) = '│'

/-- A box that shows pixels: inside the border, there is a block where a pixel is lit and a space
where it is not. -/
structure Depicts (lines : List String) (lit : Nat → Nat → Prop) : Prop extends
    Bordered lines where
  block {x y : Nat} (hx : x < 64) (hy : y < 32) : cell lines (x + 1) (y + 1) = '▄' ↔ lit x y
  space {x y : Nat} (hx : x < 64) (hy : y < 32) : ¬ lit x y → cell lines (x + 1) (y + 1) = ' '

end Picture

/-- Given points that are in view, a canvas as large as the screen paints a block for each of them,
and nothing for any other. -/
def Canvas.Paints (canvas : Canvas) : Prop :=
  ∀ points : List (Int × Int), (∀ p ∈ points, 0 ≤ p.1 ∧ p.1 ≤ 63 ∧ -31 ≤ p.2 ∧ p.2 ≤ 0) →
    Picture.Depicts (canvas ⟨(66, 34), (0, 63), (-31, 0), points⟩) fun x y =>
      ((x : Int), -(y : Int)) ∈ points

/-- A terminal that was given pictures one after another. -/
def Terminal.given (canvas : Canvas) (pictures : List (List UInt8)) : Terminal :=
  pictures.foldl (fun t data => (t.drawOn canvas data).getD t) {}

/-! ### Bits of a picture -/

namespace Resolution

variable {r : Resolution} {data : List UInt8} {b x y : Nat}

/-- The number of a pixel that is in the picture. -/
lemma number_lt (hx : x < r.width) (hy : y < r.height) : r.width * y + x < r.pixelCount :=
  calc r.width * y + x < r.width * y + r.width := Nat.add_lt_add_left hx _
    _ = r.width * (y + 1) := rfl
    _ ≤ r.width * r.height := Nat.mul_le_mul_left _ hy

/-- A plane holds the points of the picture whose bit it is of. -/
lemma mem_plane_iff : (x, y) ∈ r.plane data b ↔
    x < r.width ∧ y < r.height ∧ bit data.toArray (r.width * y + x) = b := by
  simp only [plane, pixelCount, List.mem_map, List.mem_filter, List.mem_range, decide_eq_true_eq,
    Prod.mk.injEq]
  constructor
  · rintro ⟨i, ⟨hi, hbit⟩, rfl, rfl⟩
    have hwidth : 0 < r.width := Nat.pos_of_ne_zero fun h => by simp [h] at hi
    refine ⟨Nat.mod_lt i hwidth, Nat.div_lt_of_lt_mul hi, ?_⟩
    rw [Nat.div_add_mod]
    exact hbit
  · rintro ⟨hx, hy, hbit⟩
    refine ⟨r.width * y + x, ⟨number_lt hx hy, hbit⟩, ?_, ?_⟩
    · rw [Nat.mul_add_mod, Nat.mod_eq_of_lt hx]
    · rw [Nat.mul_add_div (Nat.zero_lt_of_lt hx), Nat.div_eq_of_lt hx, Nat.add_zero]

/-- Coordinates tell points apart. -/
lemma mem_coordinates_iff {l : List (Nat × Nat)} :
    ((x : Int), -(y : Int)) ∈ l.map (fun p => ((p.1 : Int), -(p.2 : Int))) ↔ (x, y) ∈ l := by
  rw [List.mem_map]
  constructor
  · rintro ⟨⟨a, b⟩, hp, h⟩
    rw [Prod.mk.injEq] at h
    obtain rfl : a = x := by omega
    obtain rfl : b = y := by omega
    exact hp
  · exact fun hp => ⟨_, hp, rfl⟩

/-- Pictures of the same size with the same bits are the same. -/
lemma ext_bit {f g : List UInt8} (hlen : f.length = g.length)
    (h : ∀ i < 8 * f.length, bit f.toArray i = 1 ↔ bit g.toArray i = 1) : f = g := by
  refine List.ext_getElem hlen fun i hf hg => Frame.byte_ext fun c hc => ?_
  have hbit := h (8 * i + c) (by omega)
  have hdiv : (8 * i + c) / 8 = i := by omega
  have hmod : (8 * i + c) % 8 = c := by omega
  rw [Bool.eq_iff_iff]
  simpa [bit, hdiv, hmod, hf, hg] using hbit

lemma bit_cons_of_lt (b : UInt8) {c : Nat} (hc : c < 8) :
    bit (b :: data).toArray c = (b.toNat.testBit (7 - c)).toNat := by
  simp [bit, Nat.div_eq_of_lt hc, Nat.mod_eq_of_lt hc]

lemma bit_cons_add (b : UInt8) (i : Nat) :
    bit (b :: data).toArray (8 + i) = bit data.toArray i := by
  have hdiv : (8 + i) / 8 = i / 8 + 1 := by omega
  have hmod : (8 + i) % 8 = i % 8 := by omega
  simp [bit, hdiv, hmod]

/-- The bits that are set, byte by byte and in the whole picture. -/
lemma sum_ones (data : List UInt8) : (data.map Frame.ones).sum =
    (List.range (8 * data.length)).countP fun i => bit data.toArray i = 1 := by
  induction data with
  | nil => rfl
  | cons b data ih =>
    rw [List.map_cons, List.sum_cons, ih, List.length_cons, Nat.mul_succ, Nat.add_comm (8 * _),
      List.range_add, List.countP_append, List.countP_map, Frame.ones]
    congr 1
    · refine List.countP_congr fun c hc => ?_
      rw [List.mem_range] at hc
      simp [bit_cons_of_lt b hc]
    · refine List.countP_congr fun i _ => ?_
      rw [Function.comp_apply, bit_cons_add]

end Resolution

namespace Frame

/-- The number of a pixel in the picture leads to its byte and its bit. -/
lemma bit_eq_one_iff (f : Frame) {x y : Nat} (hx : x < 64) (hy : y < 32) :
    Resolution.bit f.toList.toArray (64 * y + x) = 1 ↔ f.pixel x y = true := by
  have hcolumn : (64 * y + x) % 8 = x % 8 := by omega
  have hbyte : (64 * y + x) / 8 = 8 * y + x / 8 := by omega
  rw [pixel_eq_testBit, Resolution.bit, Bool.toNat_eq_one, hcolumn, hbyte,
    show f.toList.toArray = f.toArray from rfl, getD_locate f hx hy]

/-- There are as many bits set as pixels lit. -/
lemma lit_eq_countP (f : Frame) :
    f.lit = (List.range 2048).countP fun i => f.pixel (i % 64) (i / 64) := by
  rw [lit, ← List.foldl_map, ← List.sum_eq_foldl, Resolution.sum_ones, Vector.length_toList]
  refine List.countP_congr fun i hi => ?_
  have hy : i / 64 < 32 := by
    rw [List.mem_range] at hi
    omega
  rw [decide_eq_true_iff, ← f.bit_eq_one_iff (Nat.mod_lt i (by decide)) hy, Nat.div_add_mod]

end Frame

lemma Screen.lit_eq_countP (s : Screen) :
    s.lit = (List.range 2048).countP fun i => s.pixel (i % 64) (i / 64) :=
  s.frame.lit_eq_countP

/-! ### The box -/

namespace Picture

variable {lines : List String} {lit lit' : Nat → Nat → Prop}

lemma Depicts.congr (h : Depicts lines lit)
    (hlit : ∀ x < 64, ∀ y < 32, lit x y ↔ lit' x y) : Depicts lines lit' where
  toBordered := h.toBordered
  block {x y} hx hy := (h.block hx hy).trans (hlit x hx y hy)
  space {x y} hx hy hnot := h.space hx hy fun hl => hnot ((hlit x hx y hy).mp hl)

/-- There are as many blocks as pixels that are lit. -/
lemma Depicts.count_inside {f : Frame} (h : Depicts lines fun x y => f.pixel x y) :
    (inside lines).count '▄' = f.lit := by
  rw [f.lit_eq_countP, inside, List.count_eq_countP, List.countP_map]
  refine List.countP_congr fun i hi => ?_
  rw [List.mem_range] at hi
  have hblock := h.block (Nat.mod_lt i (show 0 < 64 by decide)) (show i / 64 < 32 by omega)
  simpa using hblock

lemma getElem_foldl_set {points : List (Nat × Nat)} {i : Nat} (hi : i < 2048) (cells : Cells) :
    (points.foldl (fun cells p => cells.setIfInBounds (Screen.width * p.2 + p.1) true) cells)[i] =
      true ↔ cells[i] = true ∨ ∃ p ∈ points, 64 * p.2 + p.1 = i := by
  induction points generalizing cells with
  | nil => simp
  | cons p rest ih =>
    rw [List.foldl_cons, ih, Vector.getElem_setIfInBounds hi]
    simp only [List.mem_cons, exists_eq_or_imp]
    by_cases hp : 64 * p.2 + p.1 = i
    · simp [hp]
    · simp [hp]

lemma getD_paint {points : List (Nat × Nat)} {i : Nat} (hi : i < 2048) :
    (paint points).toArray.getD i false = true ↔ ∃ p ∈ points, 64 * p.2 + p.1 = i := by
  have hget : (paint points).toArray.getD i false = (paint points)[i] := by
    simp [hi]
  rw [hget, paint, getElem_foldl_set hi, Vector.getElem_replicate]
  simp

lemma toList_row (cells : Cells) (y : Nat) : (row cells y).toList = '│' ::
    ((List.range 64).map fun x => if cells.toArray.getD (64 * y + x) false then '▄' else ' ') ++
      ['│'] := by
  simp [row]

lemma getD_lines (cells : Cells) {y : Nat} (hy : y < 32) :
    (Picture.lines cells).getD (y + 1) "" = row cells y := by
  simp [Picture.lines, List.getElem?_append, hy]

lemma cell_lines (cells : Cells) {x y : Nat} (hx : x < 64) (hy : y < 32) :
    cell (Picture.lines cells) (x + 1) (y + 1) =
      if cells.toArray.getD (64 * y + x) false then '▄' else ' ' := by
  rw [cell, getD_lines cells hy, toList_row]
  simp [List.getElem?_append, hx]

lemma length_row (cells : Cells) (y : Nat) : (row cells y).length = 66 := by
  rw [← String.length_toList, toList_row]
  simp

lemma length_bar (n : Nat) : (bar n).length = n := by
  simp [bar]

lemma length_top : top.length = 66 := by
  rw [top, String.length_append, String.length_append, String.length_append, length_bar]
  rfl

lemma length_bottom : bottom.length = 66 := by
  rw [bottom, String.length_append, String.length_append, length_bar]
  rfl

lemma bordered_lines (cells : Cells) : Bordered (Picture.lines cells) where
  height := by simp [Picture.lines]
  width line hline := by
    simp only [Picture.lines, List.mem_append, List.mem_cons, List.mem_map, List.not_mem_nil,
      or_false] at hline
    rcases hline with (rfl | ⟨y, -, rfl⟩) | rfl
    · exact length_top
    · exact length_row cells y
    · exact length_bottom
  top := rfl
  bottom := by
    simp [Picture.lines]
  left y hy := by
    rw [cell, getD_lines cells hy, toList_row]
    rfl
  right y hy := by
    rw [cell, getD_lines cells hy, toList_row]
    simp

/-- The box is a canvas that paints what it is given. -/
lemma box_paints : Canvas.Paints box := by
  intro points hview
  have hlit {x y : Nat} (hx : x < 64) (hy : y < 32) :
      (paint (points.map fun p => (p.1.toNat, (-p.2).toNat))).toArray.getD (64 * y + x) false ↔
        ((x : Int), -(y : Int)) ∈ points := by
    rw [getD_paint (by omega)]
    simp only [List.mem_map, exists_exists_and_eq_and]
    constructor
    · rintro ⟨⟨a, b⟩, hp, h⟩
      have hbounds := hview _ hp
      dsimp only at h hbounds
      obtain rfl : a = x := by omega
      obtain rfl : b = -y := by omega
      exact hp
    · intro hp
      exact ⟨_, hp, by simp⟩
  refine { bordered_lines _ with block := fun hx hy => ?_, space := fun hx hy hnot => ?_ }
  · rw [box, cell_lines _ hx hy, ← hlit hx hy]
    generalize (paint _).toArray.getD _ false = lit
    cases lit <;> simp
  · rw [box, cell_lines _ hx hy, if_neg (mt (hlit hx hy).mp hnot)]

end Picture

/-! ### What is shown -/

namespace Terminal

variable {canvas : Canvas} {t t' u : Terminal} {data f g : List UInt8} {x y : Nat}

lemma drawOn_eq_some_iff : t.drawOn canvas data = some u ↔
    data.length = 256 ∧ u = ⟨canvas (Resolution.screen.chart data)⟩ := by
  rw [drawOn, show Resolution.screen.byteCount = 256 from rfl]
  split
  next h => simp [h, eq_comm]
  next h => simp [h]

lemma drawOn_eq_none_iff : t.drawOn canvas data = none ↔ data.length ≠ 256 := by
  rw [Option.eq_none_iff_forall_ne_some]
  constructor
  · exact fun h hlen => h _ (drawOn_eq_some_iff.mpr ⟨hlen, rfl⟩)
  · exact fun hlen u h => hlen (drawOn_eq_some_iff.mp h).1

lemma mem_chart_iff : ((x : Int), -(y : Int)) ∈ (Resolution.screen.chart data).points ↔
    x < 64 ∧ y < 32 ∧ Resolution.bit data.toArray (64 * y + x) = 1 := by
  have hplane : (x, y) ∈ Resolution.screen.plane data 1 ↔
      x < 64 ∧ y < 32 ∧ Resolution.bit data.toArray (64 * y + x) = 1 := Resolution.mem_plane_iff
  rw [← hplane, Resolution.chart, Resolution.mem_coordinates_iff]

lemma chart_screen (data : List UInt8) : Resolution.screen.chart data =
    ⟨(66, 34), (0, 63), (-31, 0), (Resolution.screen.chart data).points⟩ := by
  simp [Resolution.chart, Resolution.screen, Screen.width, Screen.height]

/-- A picture that is not refused is shown, bit by bit. -/
lemma depicts_of_drawOn (hcanvas : canvas.Paints) (h : t.drawOn canvas data = some u) :
    Picture.Depicts u.lines fun x y => Resolution.bit data.toArray (64 * y + x) = 1 := by
  obtain ⟨-, rfl⟩ := drawOn_eq_some_iff.mp h
  rw [chart_screen]
  refine (hcanvas (Resolution.screen.chart data).points fun p hp => ?_).congr fun x hx y hy => ?_
  · simp only [Resolution.chart, List.mem_map] at hp
    obtain ⟨⟨x, y⟩, hxy, rfl⟩ := hp
    obtain ⟨hx, hy, -⟩ := Resolution.mem_plane_iff.mp hxy
    change x < 64 at hx
    change y < 32 at hy
    omega
  · rw [mem_chart_iff]
    simp [hx, hy]

/-- A refused picture leaves what is shown. -/
lemma given_append_of_refused (before : List (List UInt8)) {after : List (List UInt8)}
    (h : ∀ data ∈ after, data.length ≠ 256) :
    given canvas (before ++ after) = given canvas before := by
  rw [given, List.foldl_append, ← given]
  generalize given canvas before = t
  induction after generalizing t with
  | nil => rfl
  | cons data rest ih =>
    rw [List.foldl_cons, drawOn_eq_none_iff.mpr (h data (List.mem_cons_self ..)), Option.getD_none]
    exact ih (fun data hdata => h data (List.mem_cons_of_mem _ hdata)) t

/-- What is shown is the last picture that was not refused. -/
lemma drawOn_given {before after : List (List UInt8)} (hlen : data.length = 256)
    (h : ∀ data ∈ after, data.length ≠ 256) :
    (given canvas before).drawOn canvas data = some (given canvas (before ++ data :: after)) := by
  obtain ⟨u, hu⟩ : ∃ u, (given canvas before).drawOn canvas data = some u :=
    ⟨_, drawOn_eq_some_iff.mpr ⟨hlen, rfl⟩⟩
  have hgiven : given canvas (before ++ [data]) = u := by
    rw [given, List.foldl_append, ← given, List.foldl_cons, List.foldl_nil, hu, Option.getD_some]
  rw [← List.singleton_append, ← List.append_assoc, given_append_of_refused _ h, hgiven, hu]

lemma drawOn_inj (hcanvas : canvas.Paints) (hf : t.drawOn canvas f = some u)
    (hg : t'.drawOn canvas g = some u) : f = g := by
  have hlen := (drawOn_eq_some_iff.mp hf).1
  refine Resolution.ext_bit (hlen.trans (drawOn_eq_some_iff.mp hg).1.symm) fun i hi => ?_
  have hx : i % 64 < 64 := Nat.mod_lt i (by decide)
  have hy : i / 64 < 32 := by omega
  have hbits := ((depicts_of_drawOn hcanvas hf).block hx hy).symm.trans
    ((depicts_of_drawOn hcanvas hg).block hx hy)
  rwa [Nat.div_add_mod] at hbits

/-- **Pictures are shown as they are**, on any canvas that paints the points in view. A picture of
the wrong size is refused, and changes nothing; so a terminal shows the last of all the others, or
nothing at all. In a packed picture there is a block for each pixel that is lit, and no other; and
packing a screen keeps its pixels. So a picture can be told from what is shown. -/
theorem shows_last_picture (hcanvas : canvas.Paints) :
    (∀ t data, drawOn canvas t data = none ↔ data.length ≠ 256) ∧
    -- a sequence of pictures
    (∀ pictures, (∀ data ∈ pictures, data.length ≠ 256) → given canvas pictures = {}) ∧
    (∀ before data after, data.length = 256 → (∀ data ∈ after, data.length ≠ 256) →
      Picture.Depicts (given canvas (before ++ data :: after)).lines fun x y =>
        Resolution.bit data.toArray (64 * y + x) = 1) ∧
    -- the last one is a packed picture, such as the one of a screen
    (∀ before (f : Frame) after, (∀ data ∈ after, data.length ≠ 256) →
      let shown := given canvas (before ++ f.toList :: after)
      Picture.Depicts shown.lines (fun x y => f.pixel x y) ∧
        (Picture.inside shown.lines).count '▄' = f.lit) ∧
    (∀ s : Screen, (∀ x y, s.frame.pixel x y = s.pixel x y) ∧ s.frame.lit = s.lit) ∧
    -- two pictures that look the same
    ∀ t t' f g u, drawOn canvas t f = some u → drawOn canvas t' g = some u → f = g := by
  have hlast : ∀ before data after, data.length = 256 → (∀ data ∈ after, data.length ≠ 256) →
      Picture.Depicts (given canvas (before ++ data :: after)).lines fun x y =>
        Resolution.bit data.toArray (64 * y + x) = 1 := fun before data after hlen hafter =>
    depicts_of_drawOn hcanvas (drawOn_given hlen hafter)
  refine ⟨fun _ _ => drawOn_eq_none_iff, fun pictures h => ?_, hlast, fun before f after h => ?_,
    fun s => ⟨fun _ _ => rfl, rfl⟩, fun t t' f g u => drawOn_inj hcanvas⟩
  · exact given_append_of_refused [] h
  · have hshown : Picture.Depicts (given canvas (before ++ f.toList :: after)).lines
        fun x y => f.pixel x y :=
      (hlast before f.toList after Vector.length_toList h).congr fun x hx y hy =>
        f.bit_eq_one_iff hx hy
    exact ⟨hshown, hshown.count_inside⟩

/-- A pixel that wraps around both edges, in a picture between two that are refused. -/
theorem shows_last_picture_box : ∃ s u, s = (Screen.blank.toggle 73 36).2 ∧
    given Picture.box [[1, 2, 3], s.frame.toList, []] = u ∧
    drawOn Picture.box {} [1, 2, 3] = none ∧
    Picture.cell u.lines 10 5 = '▄' ∧ Picture.cell u.lines 11 5 = ' ' := by
  obtain ⟨hrefused, -, -, hpacked, hscreen, -⟩ := shows_last_picture Picture.box_paints
  obtain ⟨s, hs⟩ : ∃ s, s = (Screen.blank.toggle 73 36).2 := ⟨_, rfl⟩
  have hlit : s.frame.pixel 9 4 = true := by
    rw [(hscreen s).1, hs, Screen.pixel_toggle, if_pos (by decide), Screen.pixel_blank]
    rfl
  have hdark : s.frame.pixel 10 4 = false := by
    rw [(hscreen s).1, hs, Screen.pixel_toggle, if_neg (by decide), Screen.pixel_blank]
  obtain ⟨hdepicts, -⟩ := hpacked [[1, 2, 3]] s.frame [[]] (by simp)
  refine ⟨s, _, hs, rfl, (hrefused _ _).mpr (by decide), ?_, ?_⟩
  · exact (hdepicts.block (x := 9) (by decide) (by decide)).mpr hlit
  · exact hdepicts.space (x := 10) (by decide) (by decide) (by simp [hdark])

end Terminal

end Chip8
