import Chip8.Proofs.Pixels
import Chip8.Proofs.Rules
import Mathlib.Data.List.Nodup

/-!
Which pixels a sprite flips.

Pixels of a sprite that fits on the screen never fall together, although they wrap around. So
drawing it flips each pixel that it covers once, and no other.
-/

namespace Chip8

namespace Screen

/-- Where pixels stand among the cells. -/
def places (pixels : List (Nat × Nat)) : List (Fin 2048) := pixels.map fun p => index p.1 p.2

/-- A sprite with its top left corner at `(x, y)` has a pixel that falls on `(px, py)`. -/
def Covers (x y : Nat) (rows : List UInt8) (px py : Nat) : Prop :=
  ∃ r, r < rows.length ∧ ∃ c, c < 8 ∧ (rows.getD r 0).toNat.testBit (7 - c) ∧
    (x + c) % 64 = px % 64 ∧ (y + r) % 32 = py % 32

instance (x y : Nat) (rows : List UInt8) (px py : Nat) : Decidable (Covers x y rows px py) :=
  inferInstanceAs (Decidable (∃ r, r < rows.length ∧ ∃ c, c < 8 ∧ _))

variable {s : Screen} {x y px py a b : Nat} {rows : List UInt8} {pixels : List (Nat × Nat)}

@[simp] lemma places_nil : places [] = [] := rfl

@[simp] lemma places_cons (p : Nat × Nat) (pixels : List (Nat × Nat)) :
    places (p :: pixels) = index p.1 p.2 :: places pixels := rfl

/-- Where a sprite stands on the screen depends on its corner up to wrapping. -/
lemma covers_mod : Covers (x % 64) (y % 32) rows px py ↔ Covers x y rows px py := by
  unfold Covers
  simp only [Nat.mod_add_mod]

lemma mem_spritePixels : (a, b) ∈ spritePixels x y rows ↔ ∃ r, r < rows.length ∧ ∃ c, c < 8 ∧
    (rows.getD r 0).toNat.testBit (7 - c) ∧ x + c = a ∧ y + r = b := by
  induction rows generalizing y with
  | nil => simp
  | cons row rest ih =>
    simp only [spritePixels, List.mem_append, List.mem_map, List.mem_filter, List.mem_range,
      Prod.mk.injEq, ih]
    constructor
    · rintro (⟨c, ⟨hc, hbit⟩, ha, hb⟩ | ⟨r, hr, c, hc, hbit, ha, hb⟩)
      · exact ⟨0, by simp, c, hc, hbit, ha, hb⟩
      · exact ⟨r + 1, by simpa using hr, c, hc, hbit, ha, by omega⟩
    · rintro ⟨_ | r, hr, c, hc, hbit, ha, hb⟩
      · exact .inl ⟨c, ⟨hc, hbit⟩, ha, hb⟩
      · exact .inr ⟨r, by simpa using hr, c, hc, hbit, ha, by omega⟩

lemma covers_iff_mem : Covers x y rows px py ↔ index px py ∈ places (spritePixels x y rows) := by
  constructor
  · rintro ⟨r, hr, c, hc, hbit, hx, hy⟩
    exact List.mem_map.mpr ⟨(x + c, y + r), mem_spritePixels.mpr ⟨r, hr, c, hc, hbit, rfl, rfl⟩,
      index_inj.mpr ⟨hx, hy⟩⟩
  · intro h
    obtain ⟨⟨a, b⟩, hmem, hindex⟩ := List.mem_map.mp h
    obtain ⟨r, hr, c, hc, hbit, rfl, rfl⟩ := mem_spritePixels.mp hmem
    obtain ⟨hx, hy⟩ := index_inj.mp hindex
    exact ⟨r, hr, c, hc, hbit, hx, hy⟩

/-- Pixels that share a cell share their row and column up to wrapping, and a sprite that fits has
only one such pixel. -/
lemma nodup_places (h : rows.length ≤ 32) : (places (spritePixels x y rows)).Nodup := by
  induction rows generalizing y with
  | nil => simp
  | cons row rest ih =>
    rw [List.length_cons] at h
    rw [spritePixels, places, List.map_append, List.nodup_append', List.map_map]
    refine ⟨?_, ih (by omega), ?_⟩
    · refine List.Nodup.map_on ?_ (List.nodup_range.filter _)
      intro c hc c' hc' heq
      rw [List.mem_filter, List.mem_range] at hc hc'
      obtain ⟨hx, -⟩ := index_inj.mp heq
      simp only at hx
      omega
    · intro i hrow hrest
      obtain ⟨c, -, rfl⟩ := List.mem_map.mp hrow
      obtain ⟨r, hr, c', hc', -, -, hy⟩ := covers_iff_mem.mpr hrest
      simp only at hy
      omega

/-- Flipping pixels that do not fall together flips the cells where they stand. -/
lemma pixel_blit (h : (places pixels).Nodup) :
    (s.blit pixels).2.pixel px py = (s.pixel px py ^^ (places pixels).contains (index px py)) := by
  induction pixels generalizing s with
  | nil => simp
  | cons p rest ih =>
    rw [places_cons, List.nodup_cons] at h
    obtain ⟨hp, hrest⟩ := h
    rw [blit_cons, ih hrest, pixel_toggle, places_cons, List.contains_cons]
    by_cases heq : index p.1 p.2 = index px py
    · rw [if_pos heq, ← heq]
      simp [hp]
    · rw [if_neg heq]
      simp [Ne.symm heq]

/-- Drawing a sprite flips the pixels that it covers. -/
lemma pixel_blit_spritePixels (h : rows.length ≤ 32) :
    (s.blit (spritePixels x y rows)).2.pixel px py =
      (s.pixel px py ^^ decide (Covers x y rows px py)) := by
  have hcovers : (places (spritePixels x y rows)).contains (index px py) =
      decide (Covers x y rows px py) := by
    rw [Bool.eq_iff_iff, List.contains_iff_mem, decide_eq_true_iff, covers_iff_mem]
  rw [pixel_blit (nodup_places h), hcovers]

end Screen

/-- What a draw instruction does to the pixels of the screen. -/
lemma Machine.pixel_blitAt (m : Machine) (x y : Nibble) {rows : List UInt8}
    (h : rows.length ≤ 32) (px py : Nat) : (m.blitAt x y rows).2.pixel px py =
      (m.screen.pixel px py ^^
        decide (Screen.Covers (m.v.get x).toNat (m.v.get y).toNat rows px py)) := by
  rw [blitAt, Screen.pixel_blit_spritePixels h, decide_eq_decide.mpr Screen.covers_mod]

end Chip8
