import Chip8.Proofs.Rendering
import Mathlib.Data.List.DropRight

/-!
The screen is a table of parities.

A pixel is lit if its cell was flipped an odd number of times since the screen was last cleared. So
the order in which pixels are flipped does not matter, and neither does who looked in between.
-/

namespace Chip8.Screen

inductive Action where
  | toggle (x y : Nat)
  | clear
  | clean
  | takeFrame
deriving DecidableEq

namespace Action

/-- The action flips the cell of a pixel. -/
def flips (x y : Nat) : Action → Bool
  | toggle x' y' => decide (x' % 64 = x % 64 ∧ y' % 32 = y % 32)
  | _ => false

def isToggle : Action → Bool
  | toggle _ _ => true
  | _ => false

/-- The action changes the picture, or counts as if it did. -/
def draws : Action → Bool
  | toggle _ _ | clear => true
  | clean | takeFrame => false

end Action

def act (s : Screen) : Action → Screen
  | .toggle x y => (s.toggle x y).2
  | .clear => s.clear
  | .clean => s.clean
  | .takeFrame => s.takeFrame.2

/-- The screen after a history. -/
def after (s : Screen) (history : List Action) : Screen := history.foldl act s

/-- What was done since the screen was last cleared. -/
def sinceClear (history : List Action) : List Action := history.rtakeWhile (· != .clear)

/-- How often the cell of a pixel was flipped since the screen was last cleared. -/
def flips (history : List Action) (x y : Nat) : Nat :=
  (sinceClear history).countP (Action.flips x y)

/-- The cell was flipped an odd number of times. -/
def odd (history : List Action) (x y : Nat) : Bool := flips history x y % 2 = 1

variable {s t : Screen} {a : Action} {history : List Action} {x y : Nat}

lemma after_append (s : Screen) (as bs : List Action) :
    s.after (as ++ bs) = (s.after as).after bs := List.foldl_append

lemma after_concat (s : Screen) (history : List Action) (a : Action) :
    s.after (history ++ [a]) = (s.after history).act a := by
  rw [after_append]
  rfl

/-! ### Counting -/

lemma sinceClear_concat (history : List Action) (a : Action) :
    sinceClear (history ++ [a]) = if a = .clear then [] else sinceClear history ++ [a] := by
  rw [sinceClear, List.rtakeWhile_concat]
  by_cases ha : a = .clear
  · simp [ha]
  · simp [ha, sinceClear]

lemma sinceClear_append (as bs : List Action) : sinceClear (as ++ bs) =
    if .clear ∈ bs then sinceClear bs else sinceClear as ++ bs := by
  induction bs using List.reverseRecOn with
  | nil => simp
  | append_singleton bs b ih =>
    rw [← List.append_assoc, sinceClear_concat, sinceClear_concat, ih]
    by_cases hb : b = .clear
    · simp [hb]
    · by_cases hbs : Action.clear ∈ bs
      · simp [hb, hbs]
      · simp [hb, hbs, Ne.symm hb]

lemma flips_append (as bs : List Action) (x y : Nat) : flips (as ++ bs) x y =
    if .clear ∈ bs then flips bs x y else flips as x y + bs.countP (Action.flips x y) := by
  rw [flips, sinceClear_append]
  split
  · rfl
  · rw [List.countP_append, flips]

/-- Only toggles count, and it does not matter in which order. -/
lemma countP_flips_of_perm {as bs : List Action}
    (h : (as.filter Action.isToggle).Perm (bs.filter Action.isToggle)) :
    as.countP (Action.flips x y) = bs.countP (Action.flips x y) := by
  have hfilter (l : List Action) :
      (l.filter Action.isToggle).countP (Action.flips x y) = l.countP (Action.flips x y) := by
    rw [List.countP_filter]
    refine List.countP_congr fun a _ => ?_
    cases a <;> simp [Action.flips, Action.isToggle]
  rw [← hfilter as, ← hfilter bs, h.countP_eq]

/-! ### Pixels -/

/-- An action flips the pixels that it is said to flip, unless it clears the screen. -/
lemma pixel_act (s : Screen) (ha : a ≠ .clear) :
    (s.act a).pixel x y = (s.pixel x y ^^ a.flips x y) := by
  cases a with
  | toggle x' y' =>
    simp only [act, pixel_toggle, index_inj, Action.flips]
    by_cases h : x' % 64 = x % 64 ∧ y' % 32 = y % 32
    · simp [h]
    · simp [h]
  | clear => exact absurd rfl ha
  | clean => simp [act, clean, pixel, Action.flips]
  | takeFrame =>
    simp only [act, takeFrame, Action.flips, Bool.xor_false]
    split <;> rfl

lemma pixel_after (history : List Action) (x y : Nat) :
    (blank.after history).pixel x y = odd history x y := by
  induction history using List.reverseRecOn with
  | nil =>
    rw [after, List.foldl_nil, pixel_blank]
    rfl
  | append_singleton history a ih =>
    rw [after_concat, odd, flips_append]
    by_cases ha : a = .clear
    · rw [ha, act, pixel_clear, if_pos (List.mem_singleton_self _)]
      rfl
    · rw [pixel_act _ ha, ih, odd, if_neg (by simpa using Ne.symm ha), List.countP_singleton]
      rcases Nat.mod_two_eq_zero_or_one (flips history x y) with h | h
      · cases a.flips x y <;> simp [Nat.add_mod, h]
      · cases a.flips x y <;> simp [Nat.add_mod, h]

lemma testBit_frame (s : Screen) (hx : x < 64) (hy : y < 32) :
    (s.frame.toArray.getD (8 * y + x / 8) 0).toNat.testBit (7 - x % 8) = s.pixel x y := by
  rw [Frame.getD_locate _ hx hy, pixel, Frame.pixel_eq_testBit]

/-! ### The mark -/

/-- Whatever was done before, the last action decides. -/
lemma dirty_act (s : Screen) (a : Action) : (s.act a).dirty = a.draws := by
  cases a with
  | toggle | clear | clean => rfl
  | takeFrame =>
    rw [act, takeFrame]
    split
    next => rfl
    next h => simpa [Action.draws] using h

lemma dirty_after : (blank.after history).dirty = true ↔
    ∃ earlier a later, history = earlier ++ a :: later ∧ a.draws = true ∧
      .clean ∉ later ∧ .takeFrame ∉ later := by
  rcases List.eq_nil_or_concat history with rfl | ⟨history, a, rfl⟩
  · simp [after, blank]
  · rw [List.concat_eq_append, after_concat, dirty_act]
    constructor
    · intro ha
      exact ⟨history, a, [], rfl, ha, List.not_mem_nil, List.not_mem_nil⟩
    · rintro ⟨earlier, b, later, heq, hb, hclean, htake⟩
      have hlast : (b :: later).getLast? = some a := by
        have := congrArg List.getLast? heq
        rw [List.getLast?_concat, List.getLast?_append_cons] at this
        exact this.symm
      rcases List.mem_cons.mp (List.mem_of_getLast? hlast) with rfl | ha
      · exact hb
      · cases a with
        | toggle | clear => rfl
        | clean => exact absurd ha hclean
        | takeFrame => exact absurd ha htake

/-- **The screen is a table of parities.** -/
theorem pixels_are_parities (history : List Action) :
    let s := blank.after history
    (∀ x y, s.pixel x y = odd history x y) ∧
    -- flipping a pixel says what it was
    (∀ x y, (s.toggle x y).1 = odd history x y) ∧
    (s.lit = (List.range 2048).countP fun i => odd history (i % 64) (i / 64)) ∧
    -- the bytes are made of the pixels
    (∀ x < 64, ∀ y < 32,
      (s.frame.toArray.getD (8 * y + x / 8) 0).toNat.testBit (7 - x % 8) = s.pixel x y) ∧
    -- the order in which pixels are flipped between two clears does not matter
    (∀ earlier flipped flipped' later, history = earlier ++ flipped ++ later →
      .clear ∉ flipped → .clear ∉ flipped' →
      (flipped.filter Action.isToggle).Perm (flipped'.filter Action.isToggle) →
      (blank.after (earlier ++ flipped' ++ later)).frame = s.frame) ∧
    -- the mark waits for somebody to take the picture, or to wipe it
    (s.dirty = true ↔ ∃ earlier a later, history = earlier ++ a :: later ∧ a.draws = true ∧
      .clean ∉ later ∧ .takeFrame ∉ later) ∧
    ∀ f, s.takeFrame.1 = some f ↔ s.dirty = true ∧ f = s.frame := by
  intro s
  refine ⟨pixel_after history, pixel_after history, ?_, fun x hx y hy => s.testBit_frame hx hy, ?_,
    dirty_after, fun f => ?_⟩
  · rw [lit_eq_countP]
    simp only [s, pixel_after]
  · rintro earlier flipped flipped' later rfl hclear hclear' hperm
    refine frame_ext fun x y => ?_
    simp only [s, pixel_after, odd, flips_append, hclear, hclear', if_false,
      countP_flips_of_perm hperm]
  · rw [takeFrame]
    split
    next h => simp [h, eq_comm]
    next h => simp [h]

/-- Pixels that wrap around, a clear, and a look at the picture. -/
def wraps : List Action :=
  [.toggle 0 0, .clear, .toggle 127 63, .takeFrame, .toggle 64 32, .toggle 63 31]

/-- The last cell is flipped twice since then, and the first one once. In another order they make
the same picture. -/
theorem pixels_are_parities_wraps :
    let s := blank.after wraps
    s.pixel 63 31 = false ∧ s.pixel 0 0 = true ∧ (s.toggle 128 0).1 = true ∧ s.dirty = true ∧
    (s.frame.toArray.getD 0 0).toNat.testBit 7 = true ∧
    (blank.after [.toggle 0 0, .clear, .toggle 64 32, .toggle 63 31, .toggle 127 63]).frame =
      s.frame := by
  intro s
  obtain ⟨hpixel, htoggle, -, hbit, horder, hdirty, -⟩ := pixels_are_parities wraps
  refine ⟨(hpixel 63 31).trans (by decide), (hpixel 0 0).trans (by decide),
    (htoggle 128 0).trans (by decide), hdirty.mpr ?_, ?_, ?_⟩
  · exact ⟨wraps.take 5, .toggle 63 31, [], rfl, rfl, nofun, nofun⟩
  · exact (hbit 0 (by decide) 0 (by decide)).trans ((hpixel 0 0).trans (by decide))
  · exact horder [.toggle 0 0, .clear] (wraps.drop 2)
      [.toggle 64 32, .toggle 63 31, .toggle 127 63] [] rfl (by decide) (by decide) (by decide)

end Chip8.Screen
