import Chip8.HexDump
import Chip8.Proofs.Lines

/-!
How a dump is laid out, and reading bytes back from it.

A dump is read line by line and word by word, without counting either. So what is read back does
not rest on the layout.
-/

namespace Chip8.Hex

/-- A byte takes two places. -/
lemma width_byte_le (b : UInt8) : width b.toNat ≤ 2 := by
  have hlog : b.toNat.log2 ≤ 7 := by
    by_cases hb : b.toNat = 0
    · simp [hb]
    · have hlt := (Nat.log2_lt hb).mpr b.toNat_lt
      omega
  unfold width
  omega

/-- Two upper-case digits. -/
def IsByte (word : String) : Prop := word.length = 2 ∧ ∀ c ∈ word.toList, c ∈ upperDigits.toList

lemma isByte_upper (b : UInt8) : IsByte (upper 2 b.toNat) := by
  have hwidth := width_byte_le b
  constructor
  · rw [upper, String.length_ofList, length_padded]
    omega
  · rw [upper, String.toList_ofList]
    exact fun c hc => mem_of_mem_padded upperDigits hc

/-- The byte that a word spells. -/
def byte? (word : String) : Option UInt8 :=
  (number? upperDigits word.toList).map UInt8.ofNat

lemma byte?_upper (b : UInt8) : byte? (upper 2 b.toNat) = some b := by
  rw [byte?, upper, String.toList_ofList, number?_padded nodup_upperDigits, Option.map_some,
    UInt8.ofNat_toNat]

end Chip8.Hex

namespace Chip8.HexDump

variable {p q : List UInt8}

/-! ### Rows -/

lemma flatten_rows (p : List UInt8) : (rows p).flatten = p := by
  fun_induction rows p with
  | case1 => rfl
  | case2 b rest ih =>
    rw [List.flatten_cons, ih, List.cons_append, List.take_append_drop]

lemma length_rows (p : List UInt8) : (rows p).length = (p.length + 15) / 16 := by
  fun_induction rows p with
  | case1 => rfl
  | case2 b rest ih =>
    rw [List.length_cons, ih, List.length_drop, List.length_cons]
    omega

/-- A row has sixteen bytes, or what is left. -/
lemma length_row (p : List UInt8) (i : Nat) (hi : i < (rows p).length) :
    (rows p)[i].length = min 16 (p.length - 16 * i) := by
  fun_induction rows p generalizing i with
  | case1 => simp at hi
  | case2 b rest ih =>
    cases i with
    | zero =>
      rw [List.getElem_cons_zero, List.length_cons, List.length_take, List.length_cons]
      omega
    | succ i =>
      rw [List.getElem_cons_succ, ih, List.length_drop, List.length_cons]
      omega

lemma ne_nil_of_mem_rows {r : List UInt8} (h : r ∈ rows p) : r ≠ [] := by
  fun_induction rows p with
  | case1 => cases h
  | case2 b rest ih =>
    rcases List.mem_cons.mp h with rfl | h
    · simp
    · exact ih h

/-! ### Lines and words -/

/-- The words of a line, with one space between any two. -/
def words (line : String) : List String := (line.toList.splitOn ' ').map String.ofList

lemma words_row {r : List UInt8} (hr : r ≠ []) :
    words (row r) = r.map fun b => Hex.upper 2 b.toNat := by
  have hspace : ∀ cs ∈ r.map (fun b => (Hex.upper 2 b.toNat).toList), ' ' ∉ cs := by
    simp only [List.mem_map, forall_exists_index, and_imp, forall_apply_eq_imp_iff₂]
    exact fun b _ hmem => absurd ((Hex.isByte_upper b).2 _ hmem) (by decide)
  have hrow : (row r).toList = [' '].intercalate (r.map fun b => (Hex.upper 2 b.toNat).toList) := by
    rw [row, String.toList_intercalate, List.map_map]
    rfl
  unfold words
  rw [hrow, List.splitOn_intercalate ' ' hspace (by simpa using hr), List.map_map]
  simp [Function.comp_def]

lemma oneLine_row (r : List UInt8) : Text.OneLine (row r) := by
  refine Text.oneLine_intercalate (by decide) fun word hword => ?_
  obtain ⟨b, -, rfl⟩ := List.mem_map.mp hword
  exact Text.oneLine_upper 2 b.toNat

/-- A dump is its rows, each with a line end behind it. -/
lemma text_eq_join (p : List UInt8) :
    text p = String.join (((rows p).map row).map (· ++ "\n")) := by
  rw [text, List.map_map]
  rfl

lemma lines_text (p : List UInt8) : Text.lines (text p) = (rows p).map row := by
  rw [text_eq_join]
  refine Text.lines_join fun l hl => ?_
  obtain ⟨r, -, rfl⟩ := List.mem_map.mp hl
  exact oneLine_row r

/-- A line of a dump holds sixteen words, or what is left. -/
lemma length_words_line (p : List UInt8) (i : Nat) (hi : i < (Text.lines (text p)).length) :
    (words (Text.lines (text p))[i]).length = min 16 (p.length - 16 * i) := by
  simp only [lines_text, List.length_map] at hi
  simp only [lines_text, List.getElem_map]
  rw [words_row (ne_nil_of_mem_rows (List.getElem_mem hi)), List.length_map, length_row]

/-- A dump of `n` bytes: every line is full but the last, which holds what is left. -/
structure Formatted (n : Nat) (dump : String) : Prop where
  ended : dump = String.join ((Text.lines dump).map (· ++ "\n"))
  length_lines : (Text.lines dump).length = (n + 15) / 16
  full (i : Nat) (hi : i + 1 < (Text.lines dump).length) : (words (Text.lines dump)[i]).length = 16
  last (i : Nat) (hi : i < (Text.lines dump).length) (hlast : i + 1 = (Text.lines dump).length) :
    16 * i + (words (Text.lines dump)[i]).length = n ∧
      1 ≤ (words (Text.lines dump)[i]).length ∧ (words (Text.lines dump)[i]).length ≤ 16
  isByte : ∀ line ∈ Text.lines dump, ∀ word ∈ words line, Hex.IsByte word

lemma formatted_text (p : List UInt8) : Formatted p.length (text p) where
  ended := by rw [lines_text, ← text_eq_join]
  length_lines := by rw [lines_text, List.length_map, length_rows]
  full i hi := by
    rw [length_words_line]
    rw [lines_text, List.length_map, length_rows] at hi
    omega
  last i hi hlast := by
    rw [length_words_line]
    rw [lines_text, List.length_map, length_rows] at hi hlast
    omega
  isByte line hline word hword := by
    rw [lines_text] at hline
    obtain ⟨r, hr, rfl⟩ := List.mem_map.mp hline
    rw [words_row (ne_nil_of_mem_rows hr)] at hword
    obtain ⟨b, -, rfl⟩ := List.mem_map.mp hword
    exact Hex.isByte_upper b

/-! ### Reading back -/

/-- The bytes that a dump shows, line by line. -/
def bytes? (dump : String) : Option (List UInt8) :=
  ((Text.lines dump).flatMap words).mapM Hex.byte?

lemma mapM_byte?_upper (p : List UInt8) :
    (p.map fun b => Hex.upper 2 b.toNat).mapM Hex.byte? = some p := by
  induction p with
  | nil => rfl
  | cons b p ih => simp [List.mapM_cons, Hex.byte?_upper, ih]

/-- What is read back is what was dumped. -/
lemma bytes?_text (p : List UInt8) : bytes? (text p) = some p := by
  have hwords : (Text.lines (text p)).flatMap words = p.map fun b => Hex.upper 2 b.toNat := by
    calc (Text.lines (text p)).flatMap words
        = (rows p).flatMap fun r => words (row r) := by rw [lines_text, List.flatMap_map]
      _ = (rows p).flatMap fun r => r.map fun b => Hex.upper 2 b.toNat :=
          List.flatMap_congr fun r hr => words_row (ne_nil_of_mem_rows hr)
      _ = (rows p).flatten.map fun b => Hex.upper 2 b.toNat := by
          rw [List.map_flatten, List.flatMap_def]
      _ = p.map fun b => Hex.upper 2 b.toNat := by rw [flatten_rows]
  rw [bytes?, hwords, mapM_byte?_upper]

/-- A dump has the layout for these bytes, and reads back as them. -/
structure Spells (p : List UInt8) (dump : String) : Prop where
  formatted : Formatted p.length dump
  bytes?_eq : bytes? dump = some p

lemma spells_text (p : List UInt8) : Spells p (text p) := ⟨formatted_text p, bytes?_text p⟩

lemma text_inj : text p = text q ↔ p = q := by
  refine ⟨fun h => ?_, congrArg text⟩
  have hbytes := congrArg bytes? h
  rw [bytes?_text, bytes?_text] at hbytes
  exact Option.some.inj hbytes

end Chip8.HexDump
