import Chip8.Proofs.Rendering
import Chip8.Proofs.Safety
import Mathlib.Data.List.Nodup
import Mathlib.Order.Monotone.Defs

/-!
The two planes of a picture share its points.

The number of a pixel is divided by eight to find its bit, and by the width of the picture to find
its point. Rows need not begin with a byte, so the one says nothing about the other; but every
number leads to a bit, and different numbers lead to different points.
-/

namespace Chip8.Resolution

open Checked (place? place?_of_lt)

/-- The points of a plane as coordinates, of which those of the rows grow upwards. -/
def points (r : Resolution) (data : List UInt8) (b : Nat) : List (Int × Int) :=
  (r.plane data b).map fun p => (p.1, -p.2)

/-- Row by row from the top, and from left to right in a row. -/
def Precedes (p q : Int × Int) : Prop := q.2 < p.2 ∨ p.2 = q.2 ∧ p.1 < q.1

/-- The point of a pixel, by its number in the picture. -/
def point (r : Resolution) (i : Nat) : Int × Int := ((i % r.width : Nat), -(i / r.width : Nat))

/-- Remainder and quotient. There are none by zero. -/
def divide? (a b : Nat) : Option (Nat × Nat) := if b = 0 then none else some (a % b, a / b)

/-- The bit of a pixel, for which the data must have a byte. -/
def bit? (data : List UInt8) (i : Nat) : Option Nat := do
  return data[← place? data.length (i / 8)].toNat / 2 ^ (7 - i % 8) % 2

/-- The pixels among the given ones that are in a plane, with all checks. -/
def select? (r : Resolution) (data : List UInt8) (b : Nat) : List Nat → Option (List (Nat × Nat))
  | [] => some []
  | i :: rest => do
    if (← bit? data i) = b then
      let p ← divide? i r.width
      return p :: (← select? r data b rest)
    else select? r data b rest

/-- The number of pixels, which must fit a word of 64 bits. -/
def pixelCount? (r : Resolution) : Option Nat :=
  if r.width * r.height < UInt64.size then some r.pixelCount else none

def plane? (r : Resolution) (data : List UInt8) (b : Nat) : Option (List (Nat × Nat)) := do
  select? r data b (List.range (← r.pixelCount?))

variable {r : Resolution} {data : List UInt8} {b i j x y : Nat} {p : Int × Int}

/-! ### Points -/

lemma points_eq (r : Resolution) (data : List UInt8) (b : Nat) : r.points data b =
    ((List.range r.pixelCount).filter fun i => bit data.toArray i = b).map r.point := by
  rw [points, plane, List.map_map]
  rfl

/-- A pixel with a higher number comes later. -/
lemma precedes_point (r : Resolution) (h : i < j) : Precedes (r.point i) (r.point j) := by
  have hle : i / r.width ≤ j / r.width := Nat.div_le_div_right (Nat.le_of_lt h)
  have hi := Nat.div_add_mod i r.width
  have hj := Nat.div_add_mod j r.width
  rw [Precedes, point, point]
  rcases Nat.lt_or_eq_of_le hle with hlt | heq
  · left
    omega
  · right
    rw [heq] at hi
    omega

lemma pairwise_points (r : Resolution) (data : List UInt8) (b : Nat) :
    (r.points data b).Pairwise Precedes := by
  rw [points_eq, List.pairwise_map]
  exact (List.pairwise_lt_range.filter _).imp r.precedes_point

lemma point_injective (r : Resolution) : Function.Injective r.point := by
  refine .of_lt_imp_ne fun i j h heq => ?_
  have hprecedes := r.precedes_point h
  rw [heq, Precedes] at hprecedes
  omega

/-- A point of a plane is a point of the picture whose bit belongs to the plane. -/
lemma mem_points_iff : p ∈ r.points data b ↔ ∃ x y : Nat, p = ((x : Int), -(y : Int)) ∧
    x < r.width ∧ y < r.height ∧ bit data.toArray (r.width * y + x) = b := by
  simp only [points, List.mem_map, Prod.exists, mem_plane_iff]
  constructor
  · rintro ⟨x, y, hxy, rfl⟩
    exact ⟨x, y, rfl, hxy⟩
  · rintro ⟨x, y, rfl, hxy⟩
    exact ⟨x, y, hxy, rfl⟩

lemma coordinates_mem_points_iff (hx : x < r.width) (hy : y < r.height) :
    ((x : Int), -(y : Int)) ∈ r.points data b ↔ bit data.toArray (r.width * y + x) = b := by
  rw [points, mem_coordinates_iff, mem_plane_iff, and_iff_right hx, and_iff_right hy]

lemma bit_lt_two (data : Array UInt8) (i : Nat) : bit data i < 2 := by
  rw [bit]
  exact Bool.toNat_lt _

/-- Each pixel is in the one plane or in the other. -/
lemma perm_points (r : Resolution) (data : List UInt8) :
    (r.points data 0 ++ r.points data 1).Perm ((List.range r.pixelCount).map r.point) := by
  have hother : ((List.range r.pixelCount).filter fun i => bit data.toArray i = 1) =
      (List.range r.pixelCount).filter fun i => !decide (bit data.toArray i = 0) := by
    refine List.filter_congr fun i _ => ?_
    have := bit_lt_two data.toArray i
    rw [← decide_not, decide_eq_decide]
    omega
  rw [points_eq, points_eq, hother, ← List.map_append]
  exact (List.filter_append_perm _ _).map r.point

lemma nodup_points (r : Resolution) (data : List UInt8) :
    (r.points data 0 ++ r.points data 1).Nodup :=
  (r.perm_points data).nodup_iff.mpr (List.nodup_range.map r.point_injective)

lemma mem_planes_iff : p ∈ r.points data 0 ++ r.points data 1 ↔
    (0 ≤ p.1 ∧ p.1 < r.width) ∧ -r.height < p.2 ∧ p.2 ≤ 0 := by
  rw [List.mem_append, mem_points_iff, mem_points_iff]
  constructor
  · rintro (⟨x, y, rfl, hx, hy, -⟩ | ⟨x, y, rfl, hx, hy, -⟩)
    · omega
    · omega
  · rintro ⟨hx, hy⟩
    obtain ⟨x, hp₁⟩ := Int.eq_ofNat_of_zero_le hx.1
    obtain ⟨y, hp₂⟩ := Int.eq_ofNat_of_zero_le (show 0 ≤ -p.2 by omega)
    have hp : p = ((x : Int), -(y : Int)) := Prod.ext hp₁ (by omega)
    have hbit := bit_lt_two data.toArray (r.width * y + x)
    rcases Nat.lt_or_ge (bit data.toArray (r.width * y + x)) 1 with h | h
    · exact .inl ⟨x, y, hp, by omega, by omega, by omega⟩
    · exact .inr ⟨x, y, hp, by omega, by omega, by omega⟩

/-! ### Checks -/

lemma bit_eq (h : i / 8 < data.length) :
    bit data.toArray i = data[i / 8].toNat / 2 ^ (7 - i % 8) % 2 := by
  have hget : data.toArray.getD (i / 8) 0 = data[i / 8] := by simp [h]
  rw [bit, hget, Nat.toNat_testBit]

lemma bit?_of_lt (h : i / 8 < data.length) : bit? data i = some (bit data.toArray i) := by
  rw [bit?, place?_of_lt h, bit_eq h]
  rfl

lemma select?_eq {l : List Nat} (h : ∀ i ∈ l, i / 8 < data.length ∧ r.width ≠ 0) :
    select? r data b l = some ((l.filter fun i => bit data.toArray i = b).map fun i =>
      (i % r.width, i / r.width)) := by
  induction l with
  | nil => rfl
  | cons i rest ih =>
    obtain ⟨hi, hwidth⟩ := h i List.mem_cons_self
    have hrest := ih fun j hj => h j (List.mem_cons_of_mem i hj)
    rw [select?, bit?_of_lt hi, hrest, divide?, if_neg hwidth]
    by_cases hbit : bit data.toArray i = b
    · simp [hbit]
    · simp [hbit]

/-- The number of a pixel leads to a byte of the data, if these are enough for the picture. -/
lemma div_eight_lt (hdata : (r.width * r.height + 7) / 8 ≤ data.length) (hi : i < r.pixelCount) :
    i / 8 < data.length := by
  rw [pixelCount] at hi
  omega

/-- A picture without columns has no pixels to divide. -/
lemma select?_range (hdata : (r.width * r.height + 7) / 8 ≤ data.length) (b : Nat) :
    select? r data b (List.range r.pixelCount) = some (r.plane data b) := by
  refine select?_eq fun i hi => ⟨div_eight_lt hdata (List.mem_range.mp hi), fun hwidth => ?_⟩
  simp [pixelCount, hwidth] at hi

/-- Where the data are enough, only the number of pixels can be too large. -/
lemma plane?_eq (hdata : (r.width * r.height + 7) / 8 ≤ data.length) (b : Nat) :
    r.plane? data b =
      if r.width * r.height < UInt64.size then some (r.plane data b) else none := by
  rw [plane?, pixelCount?]
  split
  · exact select?_range hdata b
  · rfl

/-- **The planes of a picture** of any size, from data that are enough for it. Together they have
every point of the picture once, each of them row by row; the bit of a point says which plane it is
in, and there are no other planes. No byte is read that the data do not have, nothing is divided by
zero, and with less than `2 ^ 61` bytes of data the number of pixels fits a word. -/
theorem planes_partition_grid (r : Resolution) (data : List UInt8)
    (hdata : (r.width * r.height + 7) / 8 ≤ data.length) :
    -- every point of the picture once, and no other
    (∀ p, (r.points data 0 ++ r.points data 1).count p =
      if (0 ≤ p.1 ∧ p.1 < r.width) ∧ -r.height < p.2 ∧ p.2 ≤ 0 then 1 else 0) ∧
    (∀ b, (r.points data b).Pairwise Precedes) ∧
    -- the bits
    (∀ x y : Nat, x < r.width → y < r.height → ∃ h : (y * r.width + x) / 8 < data.length,
      ∀ b, ((x : Int), -(y : Int)) ∈ r.points data b ↔
        data[(y * r.width + x) / 8].toNat / 2 ^ (7 - (y * r.width + x) % 8) % 2 = b) ∧
    (∀ b > 1, r.points data b = []) ∧
    -- the checks
    (∀ b, select? r data b (List.range r.pixelCount) = some (r.plane data b)) ∧
    (∀ b, r.plane? data b =
      if r.width * r.height < UInt64.size then some (r.plane data b) else none) ∧
    (data.length < 2 ^ 61 → r.width * r.height < UInt64.size) := by
  refine ⟨fun p => ?_, r.pairwise_points data, fun x y hx hy => ?_, fun b hb => ?_,
    select?_range hdata, plane?_eq hdata, fun hlen => ?_⟩
  · rw [(r.nodup_points data).count]
    exact if_congr mem_planes_iff rfl rfl
  · rw [Nat.mul_comm y]
    have hlt := div_eight_lt hdata (number_lt hx hy)
    exact ⟨hlt, fun b => by rw [coordinates_mem_points_iff hx hy, bit_eq hlt]⟩
  · rw [List.eq_nil_iff_forall_not_mem]
    intro p hp
    obtain ⟨x, y, -, -, -, hbit⟩ := mem_points_iff.mp hp
    have := bit_lt_two data.toArray (r.width * y + x)
    omega
  · rw [UInt64.size]
    omega

/-- Three rows of five pixels, of which the second goes on from one byte to the next; and a picture
without columns. -/
theorem planes_partition_grid_five :
    let r : Resolution := ⟨5, 3, 1⟩
    let data : List UInt8 := [0xA5, 0x0F]
    (2, -1) ∈ r.points data 1 ∧ (3, -1) ∈ r.points data 0 ∧
      (r.points data 0 ++ r.points data 1).count (4, -2) = 1 ∧
      r.plane? data 1 = some (r.plane data 1) ∧
      plane? ⟨0, 7, 1⟩ [] 0 = some [] := by
  intro r data
  obtain ⟨hcount, -, hbits, -, -, hplane, -⟩ := planes_partition_grid r data (by decide)
  obtain ⟨-, -, -, -, -, hnone, -⟩ := planes_partition_grid ⟨0, 7, 1⟩ [] (by decide)
  obtain ⟨_, hbit⟩ := hbits 2 1 (by decide) (by decide)
  obtain ⟨_, hbit'⟩ := hbits 3 1 (by decide) (by decide)
  exact ⟨(hbit 1).mpr (by simp [r, data]), (hbit' 0).mpr (by simp [r, data]), hcount (4, -2),
    hplane 1, hnone 0⟩

/-- Fifteen pixels do not fit one byte. -/
example : plane? ⟨5, 3, 1⟩ [0xA5] 0 = none := by decide

end Chip8.Resolution
