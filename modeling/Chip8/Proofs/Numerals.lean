import Chip8.Hex
import Mathlib.Algebra.Ring.Nat
import Mathlib.Data.List.Nodup
import Mathlib.Tactic.Lemma

/-!
Reading numbers in base sixteen back from their digits.

The digits are those of any bank in which no two are alike. A number that has been written in full
reads back as itself; one that lost places on the left reads back as its remainder.
-/

namespace Chip8.Hex

section
variable (digits : Bank Char)

/-- The value of a digit. -/
def digit? (c : Char) : Option Nat := digits.toList.idxOf? c

/-- The number that a row of digits spells. -/
def number? (cs : List Char) : Option Nat :=
  cs.foldlM (fun n c => (digit? digits c).map (16 * n + ·)) 0

@[simp] lemma number?_nil : number? digits [] = some 0 := rfl

lemma number?_concat (cs : List Char) (c : Char) : number? digits (cs ++ [c]) =
    (number? digits cs).bind fun n => (digit? digits c).map (16 * n + ·) := by
  unfold number?
  rw [List.foldlM_append]
  simp

lemma nth_mem (n : Nat) : digits.nth n ∈ digits.toList := by
  rw [Vector.mem_toList_iff]
  exact Vector.getElem_mem _

lemma mem_of_mem_places {w n : Nat} {c : Char} (h : c ∈ places digits w n) :
    c ∈ digits.toList := by
  induction w generalizing n with
  | zero => simp at h
  | succ w ih =>
    rw [places_succ, List.mem_append, List.mem_singleton] at h
    rcases h with h | rfl
    · exact ih h
    · exact nth_mem digits n

lemma mem_of_mem_padded {w n : Nat} {c : Char} (h : c ∈ padded digits w n) : c ∈ digits.toList :=
  mem_of_mem_places digits h

end

/-- A number needs no more places than its width. -/
lemma lt_pow_width (n : Nat) : n < 16 ^ width n := by
  have hlog : n.log2 + 1 ≤ 4 * width n := by
    unfold width
    omega
  calc n < 2 ^ (n.log2 + 1) := Nat.lt_log2_self
    _ ≤ 2 ^ (4 * width n) := Nat.pow_le_pow_right (by decide) hlog
    _ = 16 ^ width n := by rw [Nat.pow_mul]

variable {digits : Bank Char}

lemma digit?_nth (h : digits.toList.Nodup) (n : Nat) :
    digit? digits (digits.nth n) = some (n % 16) := by
  have hlen : n % 16 < digits.toList.length := by
    rw [Vector.length_toList]
    exact Nat.mod_lt n (by decide)
  have hnth : digits.nth n = digits.toList[n % 16] := by
    rw [Vector.getElem_toList]
    rfl
  unfold digit?
  rw [List.idxOf?_eq_some_iff]
  refine ⟨hlen, hnth.symm, fun j hj => ?_⟩
  rw [hnth]
  intro heq
  have hij := (h.getElem_inj_iff).mp heq
  omega

lemma number?_places (h : digits.toList.Nodup) (w n : Nat) :
    number? digits (places digits w n) = some (n % 16 ^ w) := by
  induction w generalizing n with
  | zero => simp [Nat.mod_one]
  | succ w ih =>
    have hsplit : n % 16 ^ (w + 1) = 16 * (n / 16 % 16 ^ w) + n % 16 := by
      rw [Nat.pow_succ', Nat.mod_mul, Nat.add_comm]
    rw [places_succ, number?_concat, ih, digit?_nth h, hsplit]
    rfl

/-- A number written in full reads back as itself. -/
theorem number?_padded (h : digits.toList.Nodup) (w n : Nat) :
    number? digits (padded digits w n) = some n := by
  have hwide : n < 16 ^ max w (width n) :=
    Nat.lt_of_lt_of_le (lt_pow_width n) (Nat.pow_le_pow_right (by decide) (Nat.le_max_right ..))
  unfold padded
  rw [number?_places h, Nat.mod_eq_of_lt hwide]

lemma nodup_lowerDigits : lowerDigits.toList.Nodup := by decide

lemma nodup_upperDigits : upperDigits.toList.Nodup := by decide

end Chip8.Hex
