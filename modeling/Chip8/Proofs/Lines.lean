import Chip8.Proofs.Numerals

/-!
Texts that are written line by line, and how they come apart again.

A text whose lines hold no line end of their own is the list of its lines.
-/

namespace Chip8.Text

/-- The lines of a text; each has a line end behind it. -/
def lines (s : String) : List String := ((s.toList.splitOn '\n').dropLast).map String.ofList

/-- A text that fits on a line. -/
def OneLine (s : String) : Prop := '\n' ∉ s.toList

instance (s : String) : Decidable (OneLine s) := inferInstanceAs (Decidable ('\n' ∉ s.toList))

lemma lines_empty : lines "" = [] := rfl

lemma lines_cons {l : String} (h : OneLine l) (rest : String) :
    lines (l ++ "\n" ++ rest) = l :: lines rest := by
  have hsplit : (l ++ "\n" ++ rest).toList.splitOn '\n' = l.toList :: rest.toList.splitOn '\n' := by
    rw [String.toList_append, String.toList_append, List.append_assoc]
    exact List.splitOn_append_cons_self_of_not_mem h rest.toList
  have hne : rest.toList.splitOn '\n' ≠ [] := by simp
  unfold lines
  rw [hsplit, List.dropLast_cons_of_ne_nil hne, List.map_cons, String.ofList_toList]

/-- Lines that are put together can be taken apart. -/
theorem lines_join {ls : List String} (h : ∀ l ∈ ls, OneLine l) :
    lines (String.join (ls.map (· ++ "\n"))) = ls := by
  induction ls with
  | nil => exact lines_empty
  | cons l ls ih =>
    have hl : OneLine l := h l List.mem_cons_self
    have hls : ∀ l ∈ ls, OneLine l := fun l' hl' => h l' (List.mem_cons_of_mem _ hl')
    rw [List.map_cons, String.join_cons, lines_cons hl, ih hls]

/-! ### What fits on a line -/

@[simp] lemma oneLine_append {s t : String} : OneLine (s ++ t) ↔ OneLine s ∧ OneLine t := by
  simp [OneLine]

lemma oneLine_intercalate {sep : String} {ls : List String} (hsep : OneLine sep)
    (h : ∀ l ∈ ls, OneLine l) : OneLine (sep.intercalate ls) := by
  induction ls with
  | nil =>
    rw [String.intercalate_nil]
    decide
  | cons l ls ih =>
    have hl : OneLine l := h l List.mem_cons_self
    have hls : OneLine (sep.intercalate ls) := ih fun l' hl' => h l' (List.mem_cons_of_mem _ hl')
    cases ls with
    | nil => rwa [String.intercalate_singleton]
    | cons l' ls =>
      rw [String.intercalate_cons_cons, oneLine_append, oneLine_append]
      exact ⟨⟨hl, hsep⟩, hls⟩

lemma oneLine_padded {digits : Bank Char} (h : '\n' ∉ digits.toList) (w n : Nat) :
    OneLine (String.ofList (Hex.padded digits w n)) := by
  unfold OneLine
  rw [String.toList_ofList]
  exact fun hmem => h (Hex.mem_of_mem_padded digits hmem)

@[simp] lemma oneLine_lower (w n : Nat) : OneLine (Hex.lower w n) :=
  oneLine_padded (by decide) w n

@[simp] lemma oneLine_upper (w n : Nat) : OneLine (Hex.upper w n) :=
  oneLine_padded (by decide) w n

lemma isDigit_of_mem_repr {n : Nat} {c : Char} (h : c ∈ n.repr.toList) : c.isDigit = true := by
  rw [Nat.repr_eq_ofList_toDigits, String.toList_ofList] at h
  exact Nat.isDigit_of_mem_toDigits (by decide) (by decide) h

@[simp] lemma oneLine_repr (n : Nat) : OneLine n.repr :=
  fun hmem => absurd (isDigit_of_mem_repr hmem) (by decide)

end Chip8.Text
