import Chip8.Disassembly
import Chip8.Proofs.Lines
import Chip8.Proofs.Opcodes

/-!
Assembly text read back.

A text comes apart into a mnemonic and its operands, and from these its instruction can be put
together again. So no two instructions are written alike, and the texts of a listing tell its words,
up to digits that do not count.
-/

namespace Chip8

namespace Text

def isSeparator (c : Char) : Bool := c = ' ' || c = ','

/-- The words of a text: what stands between separators. -/
def words (s : String) : List String :=
  ((s.toList.splitOnP isSeparator).filter (· ≠ [])).map String.ofList

/-- A text without separators. -/
def OneWord (s : String) : Prop := s ≠ "" ∧ s.toList.any isSeparator = false

instance (s : String) : Decidable (OneWord s) :=
  inferInstanceAs (Decidable (s ≠ "" ∧ s.toList.any isSeparator = false))

lemma words_word {s : String} (h : OneWord s) : words s = [s] := by
  have hsplit : s.toList.splitOnP isSeparator = [s.toList] :=
    List.splitOnP_eq_singleton fun c hc =>
      Bool.eq_false_iff.mpr (List.any_eq_false.mp h.2 c hc)
  simp [words, hsplit, h.1]

/-- A separator ends a word. -/
lemma words_append {s rest : String} {c : Char} (hc : isSeparator c = true) :
    words (s ++ String.singleton c ++ rest) = words s ++ words rest := by
  have hsplit := List.splitOnP_append_cons s.toList rest.toList hc
  simp [words, hsplit]

lemma words_blank {name operand : String} (hname : OneWord name) (hoperand : OneWord operand) :
    words (name ++ " " ++ operand) = [name, operand] := by
  rw [show " " = String.singleton ' ' from rfl, words_append rfl, words_word hname,
    words_word hoperand]
  rfl

lemma words_comma (s : String) {operand : String} (h : OneWord operand) :
    words (s ++ ", " ++ operand) = words s ++ [operand] := by
  have htext : s ++ ", " ++ operand =
      s ++ String.singleton ',' ++ ("" ++ String.singleton ' ' ++ operand) := by
    rw [← String.toList_inj]
    simp
  rw [htext, words_append rfl, words_append rfl, words_word h]
  rfl

lemma oneWord_append {s t : String} (hs : OneWord s) (ht : t.toList.any isSeparator = false) :
    OneWord (s ++ t) := by
  refine ⟨by simp [hs.1], ?_⟩
  rw [String.toList_append, List.any_append, hs.2, ht]
  rfl

lemma oneWord_padded {digits : Bank Char} (h : digits.toList.any isSeparator = false) {s : String}
    (hs : OneWord s) (w n : Nat) : OneWord (s ++ String.ofList (Hex.padded digits w n)) := by
  refine oneWord_append hs (List.any_eq_false.mpr fun c hc => ?_)
  rw [String.toList_ofList] at hc
  exact List.any_eq_false.mp h c (Hex.mem_of_mem_padded digits hc)

lemma oneWord_repr (n : Nat) : OneWord n.repr := by
  refine ⟨Nat.repr_ne_empty, List.any_eq_false.mpr fun c hc hsep => ?_⟩
  have hdigit := isDigit_of_mem_repr hc
  simp only [isSeparator, Bool.or_eq_true, decide_eq_true_eq] at hsep
  rcases hsep with rfl | rfl
  · exact absurd hdigit (by decide)
  · exact absurd hdigit (by decide)

end Text

/-! ### Operands -/

namespace Instruction

/-- An operand as it is written. -/
inductive Operand (registers : Nat) where
  | register (x : Fin registers)
  /-- Hex digits behind `0x`. -/
  | hex (n : Nat)
  | decimal (n : Nat)
  | name (word : String)

variable {registers : Nat}

def Operand.ofWord (word : String) : Operand registers :=
  let read : Option (Operand registers) := match word.toList with
    | 'V' :: digits => do
      let n ← Hex.number? Hex.upperDigits digits
      if h : n < registers then some (.register ⟨n, h⟩) else none
    | '0' :: 'x' :: digits => (Hex.number? Hex.lowerDigits digits).map .hex
    | cs => if cs.all Char.isDigit then some (.decimal (Nat.ofDigitChars 10 cs 0)) else none
  read.getD (.name word)

@[simp] lemma ofWord_registerText (x : Fin registers) :
    Operand.ofWord (registerText x) = .register x := by
  have htext : (registerText x).toList = 'V' :: Hex.padded Hex.upperDigits 1 x := by
    simp [registerText, Hex.upper]
  simp only [Operand.ofWord, htext, Hex.number?_padded Hex.nodup_upperDigits]
  simp

lemma ofWord_lower (w n : Nat) :
    Operand.ofWord ("0x" ++ Hex.lower w n) = (.hex n : Operand registers) := by
  have htext : ("0x" ++ Hex.lower w n).toList = '0' :: 'x' :: Hex.padded Hex.lowerDigits w n := by
    simp [Hex.lower]
  simp only [Operand.ofWord, htext, Hex.number?_padded Hex.nodup_lowerDigits]
  rfl

@[simp] lemma ofWord_byte (b : UInt8) :
    Operand.ofWord (Hex.byte b) = (.hex b.toNat : Operand registers) := ofWord_lower ..

@[simp] lemma ofWord_address (a : UInt16) :
    Operand.ofWord (Hex.address a) = (.hex a.toNat : Operand registers) := ofWord_lower ..

@[simp] lemma ofWord_word (w : UInt16) :
    Operand.ofWord (Hex.word w) = (.hex w.toNat : Operand registers) := ofWord_lower ..

lemma ofWord_eq {word : String} (hV : 'V' ∉ word.toList) (hx : 'x' ∉ word.toList) :
    Operand.ofWord word = (if word.toList.all Char.isDigit then
      .decimal (Nat.ofDigitChars 10 word.toList 0) else .name word : Operand registers) := by
  unfold Operand.ofWord
  split
  next h => simp [h] at hV
  next h => simp [h] at hx
  next => split <;> rfl

@[simp] lemma ofWord_repr (n : Nat) :
    Operand.ofWord n.repr = (.decimal n : Operand registers) := by
  have hdigit {c : Char} (hc : c ∈ n.repr.toList) : c.isDigit = true := Text.isDigit_of_mem_repr hc
  rw [ofWord_eq (fun h => absurd (hdigit h) (by decide)) fun h => absurd (hdigit h) (by decide),
    if_pos (List.all_eq_true.mpr fun _ => hdigit), Nat.toList_repr,
    Nat.ofDigitChars_toDigits (by decide) (by decide)]

/-! ### Texts -/

/-- The instruction of a mnemonic and its operands. -/
def ofParts? : String → List (Operand registers) → Option (Instruction registers)
  | "JP", [.hex a] => some (jump (.ofNat a))
  | "JP", [_, .hex a] => some (jumpOffset (.ofNat a))
  | mnemonic, [] => match mnemonic with
    | "CLS" => some clearScreen
    | "RET" => some ret
    | _ => none
  | mnemonic, [.hex a] => match mnemonic with
    | "CALL" => some (call (.ofNat a))
    | "DW" => some (unknown (.ofNat a))
    | _ => none
  | mnemonic, [.register x] => match mnemonic with
    | "SHR" => some (shiftRight x)
    | "SHL" => some (shiftLeft x)
    | "SKP" => some (skipKeyDown x)
    | "SKNP" => some (skipKeyUp x)
    | _ => none
  | mnemonic, [.register x, .hex b] => match mnemonic with
    | "SE" => some (skipEqByte x (.ofNat b))
    | "SNE" => some (skipNeByte x (.ofNat b))
    | "LD" => some (setByte x (.ofNat b))
    | "ADD" => some (addByte x (.ofNat b))
    | "RND" => some (random x (.ofNat b))
    | _ => none
  | mnemonic, [.register x, .register y] => match mnemonic with
    | "SE" => some (skipEq x y)
    | "SNE" => some (skipNe x y)
    | "LD" => some (copy x y)
    | "OR" => some (bitOr x y)
    | "AND" => some (bitAnd x y)
    | "XOR" => some (bitXor x y)
    | "ADD" => some (add x y)
    | "SUB" => some (sub x y)
    | "SUBN" => some (subFrom x y)
    | _ => none
  | mnemonic, [.register x, .name source] => match mnemonic, source with
    | "LD", "DT" => some (getDelay x)
    | "LD", "K" => some (waitKey x)
    | "LD", "[I]" => some (restore x)
    | _, _ => none
  | mnemonic, [.name target, .register x] => match mnemonic, target with
    | "LD", "DT" => some (setDelay x)
    | "LD", "ST" => some (setSound x)
    | "LD", "F" => some (glyph x)
    | "LD", "B" => some (decimal x)
    | "LD", "[I]" => some (save x)
    | "ADD", "I" => some (addIndex x)
    | _, _ => none
  | "LD", [.name "I", .hex a] => some (setIndex (.ofNat a))
  | "DRW", [.register x, .register y, .decimal n] => some (draw x y (.ofNat n))
  | _, _ => none

/-- The instruction that a text stands for. -/
def ofText? (s : String) : Option (Instruction registers) :=
  match Text.words s with
  | [] => none
  | mnemonic :: operands => ofParts? mnemonic (operands.map .ofWord)

section
open Text

lemma oneWord_registerText (x : Fin registers) : OneWord (registerText x) :=
  oneWord_padded (by decide) (by decide) 1 x

lemma oneWord_byte (b : UInt8) : OneWord (Hex.byte b) :=
  oneWord_padded (by decide) (by decide) 2 b.toNat

lemma oneWord_address (a : UInt16) : OneWord (Hex.address a) :=
  oneWord_padded (by decide) (by decide) 3 a.toNat

lemma oneWord_word (w : UInt16) : OneWord (Hex.word w) :=
  oneWord_padded (by decide) (by decide) 4 w.toNat

lemma ofText?_word {mnemonic : String} (h : OneWord mnemonic) :
    (ofText? mnemonic : Option (Instruction registers)) = ofParts? mnemonic [] := by
  rw [ofText?, words_word h]
  rfl

lemma ofText?_unary {mnemonic operand : String} (h : OneWord mnemonic) (ho : OneWord operand) :
    (ofText? (mnemonic ++ " " ++ operand) : Option (Instruction registers)) =
      ofParts? mnemonic [.ofWord operand] := by
  rw [ofText?, words_blank h ho]
  rfl

lemma ofText?_binary {mnemonic first second : String} (h : OneWord mnemonic) (hf : OneWord first)
    (hs : OneWord second) :
    (ofText? (binary mnemonic first second) : Option (Instruction registers)) =
      ofParts? mnemonic [.ofWord first, .ofWord second] := by
  rw [ofText?, binary, words_comma _ hs, words_blank h hf]
  rfl

/-- A text stands for the instruction that it was written for. -/
theorem ofText?_text (i : Instruction registers) : ofText? i.text = some i := by
  have haddress := oneWord_address
  have hbyte := oneWord_byte
  have hregister (x : Fin registers) := oneWord_registerText x
  -- A mnemonic before a single operand is written with its blank.
  cases i with
  | clearScreen | ret => simp +decide [text, ofText?_word, ofParts?]
  | jump a =>
    rw [text, show "JP " = "JP" ++ " " from rfl, ofText?_unary (by decide) (haddress a)]
    simp [ofParts?]
  | call a =>
    rw [text, show "CALL " = "CALL" ++ " " from rfl, ofText?_unary (by decide) (haddress a)]
    simp [ofParts?]
  | unknown w =>
    rw [text, show "DW " = "DW" ++ " " from rfl, ofText?_unary (by decide) (oneWord_word w)]
    simp [ofParts?]
  | shiftRight x =>
    rw [text, show "SHR " = "SHR" ++ " " from rfl, ofText?_unary (by decide) (hregister x)]
    simp [ofParts?]
  | shiftLeft x =>
    rw [text, show "SHL " = "SHL" ++ " " from rfl, ofText?_unary (by decide) (hregister x)]
    simp [ofParts?]
  | skipKeyDown x =>
    rw [text, show "SKP " = "SKP" ++ " " from rfl, ofText?_unary (by decide) (hregister x)]
    simp [ofParts?]
  | skipKeyUp x =>
    rw [text, show "SKNP " = "SKNP" ++ " " from rfl, ofText?_unary (by decide) (hregister x)]
    simp [ofParts?]
  | draw x y n =>
    rw [text, show "DRW " = "DRW" ++ " " from rfl, Nat.toString_eq_repr, ofText?,
      words_comma _ (oneWord_repr _), words_comma _ (hregister y),
      words_blank (by decide) (hregister x)]
    simp [ofParts?]
  | _ => simp +decide [text, ofText?_binary, hregister, hbyte, haddress, ofParts?, ofWord_eq]

end

/-- No two instructions are written alike. -/
theorem text_injective {i j : Instruction registers} (h : i.text = j.text) : i = j := by
  have hread : (ofText? i.text : Option (Instruction registers)) = ofText? j.text := by rw [h]
  rw [ofText?_text, ofText?_text] at hread
  exact Option.some.inj hread

end Instruction

/-! ### Digits of a word -/

namespace Word

/-- The digits that do not count: the last one of `5xy_` and `9xy_`, and the third one of `8x_6` and
`8x_E`. -/
def Ignores (w : UInt16) (k : Nat) : Prop :=
  (opcode w = 0x5000 ∨ opcode w = 0x9000) ∧ k = 0 ∨
    (opcode w = 0x8006 ∨ opcode w = 0x800E) ∧ k = 1

instance (w : UInt16) (k : Nat) : Decidable (Ignores w k) :=
  inferInstanceAs (Decidable (_ ∧ _ ∨ _ ∧ _))

/-- The digits of a word that count, the first one first. -/
def digits (w : UInt16) : List (Option Nat) :=
  [3, 2, 1, 0].map fun k => if Ignores w k then none else some (nibble w k)

lemma opcode_cases (w : UInt16) :
    w.toNat / 4096 = 0x0 ∧ opcode w = w.toNat ∨
    w.toNat / 4096 = 0x8 ∧ opcode w = 0x8000 + w.toNat % 16 ∨
    w.toNat / 4096 = 0xE ∧ opcode w = 0xE000 + w.toNat % 256 ∨
    w.toNat / 4096 = 0xF ∧ opcode w = 0xF000 + w.toNat % 256 ∨
    w.toNat / 4096 ∉ [0x0, 0x8, 0xE, 0xF] ∧ opcode w = 4096 * (w.toNat / 4096) := by
  unfold opcode
  split <;> simp_all

end Word

namespace Instruction

open Word

def addressDigits (d : Nat) (a : UInt16) : List (Option Nat) :=
  [some d, some (nibble a 2), some (nibble a 1), some (nibble a 0)]

def byteDigits (d x : Nat) (b : UInt8) : List (Option Nat) :=
  [some d, some x, some (b.toNat / 16), some (b.toNat % 16)]

/-- The digits that an instruction is written with in the table. -/
def digits : Instruction 16 → List (Option Nat)
  | clearScreen => byteDigits 0x0 0x0 0xE0
  | ret => byteDigits 0x0 0x0 0xEE
  | jump a => addressDigits 0x1 a
  | call a => addressDigits 0x2 a
  | skipEqByte x b => byteDigits 0x3 x b
  | skipNeByte x b => byteDigits 0x4 x b
  | skipEq x y => [some 0x5, some x, some y, none]
  | setByte x b => byteDigits 0x6 x b
  | addByte x b => byteDigits 0x7 x b
  | copy x y => [some 0x8, some x, some y, some 0x0]
  | bitOr x y => [some 0x8, some x, some y, some 0x1]
  | bitAnd x y => [some 0x8, some x, some y, some 0x2]
  | bitXor x y => [some 0x8, some x, some y, some 0x3]
  | add x y => [some 0x8, some x, some y, some 0x4]
  | sub x y => [some 0x8, some x, some y, some 0x5]
  | shiftRight x => [some 0x8, some x, none, some 0x6]
  | subFrom x y => [some 0x8, some x, some y, some 0x7]
  | shiftLeft x => [some 0x8, some x, none, some 0xE]
  | skipNe x y => [some 0x9, some x, some y, none]
  | setIndex a => addressDigits 0xA a
  | jumpOffset a => addressDigits 0xB a
  | random x mask => byteDigits 0xC x mask
  | draw x y n => [some 0xD, some x, some y, some (n.toNat % 16)]
  | skipKeyDown x => byteDigits 0xE x 0x9E
  | skipKeyUp x => byteDigits 0xE x 0xA1
  | getDelay x => byteDigits 0xF x 0x07
  | waitKey x => byteDigits 0xF x 0x0A
  | setDelay x => byteDigits 0xF x 0x15
  | setSound x => byteDigits 0xF x 0x18
  | addIndex x => byteDigits 0xF x 0x1E
  | glyph x => byteDigits 0xF x 0x29
  | decimal x => byteDigits 0xF x 0x33
  | save x => byteDigits 0xF x 0x55
  | restore x => byteDigits 0xF x 0x65
  | unknown w => Word.digits w

lemma digits_decode (w : UInt16) : (decode w).digits = Word.digits w := by
  have hw := opcode_cases w
  simp only [List.mem_cons, List.not_mem_nil, or_false, not_or] at hw
  rw [decode_eq_table]
  unfold table
  split
  case h_35 => rfl
  all_goals
    next h =>
      simp [digits, addressDigits, byteDigits, Word.digits, Ignores, h,
        Nat.shiftRight_eq_div_pow]
      omega

variable {w w' : UInt16} {k : Nat}

/-- A word is known by its digits. -/
lemma word_ext (h : ∀ k < 4, nibble w k = nibble w' k) : w = w' := by
  have hvalue (k : Nat) (hk : k < 4) : (w.toNat >>> (4 * k)) % 16 = (w'.toNat >>> (4 * k)) % 16 :=
    congrArg Fin.val (h k hk)
  have h0 := hvalue 0 (by decide)
  have h1 := hvalue 1 (by decide)
  have h2 := hvalue 2 (by decide)
  have h3 := hvalue 3 (by decide)
  simp only [Nat.shiftRight_eq_div_pow, Nat.reduceMul, Nat.reducePow] at h0 h1 h2 h3
  have := w.toNat_lt
  have := w'.toNat_lt
  exact UInt16.toNat_inj.mp (by omega)

/-- Where a digit does not count, the opcode is told by the first digit and the last. -/
lemma opcode_eq_of_ignores (hw : Ignores w k) (hw' : Ignores w' k)
    (h : ∀ j < 4, j ≠ k → nibble w j = nibble w' j) : opcode w = opcode w' := by
  have hcases := opcode_cases w
  have hcases' := opcode_cases w'
  simp only [List.mem_cons, List.not_mem_nil, or_false, not_or] at hcases hcases'
  have hvalue (j : Nat) (hj : j < 4) (hne : j ≠ k) := congrArg Fin.val (h j hj hne)
  rcases hw with ⟨hop, rfl⟩ | ⟨hop, rfl⟩
  · have h3 := hvalue 3 (by decide) (by decide)
    simp only [val_nibble, Nat.shiftRight_eq_div_pow, Nat.reduceMul, Nat.reducePow] at h3
    simp only [Ignores, and_true, Nat.zero_ne_one, and_false, or_false] at hw'
    omega
  · have h0 := hvalue 0 (by decide) (by decide)
    simp only [val_nibble, Nat.shiftRight_eq_div_pow, Nat.reduceMul, Nat.reducePow] at h0
    simp only [Ignores, and_true, Nat.one_ne_zero, and_false, false_or] at hw'
    omega

lemma decode_eq_of_ignores (hw : Ignores w k) (hw' : Ignores w' k)
    (h : ∀ j < 4, j ≠ k → nibble w j = nibble w' j) : decode w = decode w' := by
  have hop := opcode_eq_of_ignores hw hw' h
  rw [decode_eq_table, decode_eq_table]
  rcases hw with ⟨hw | hw, rfl⟩ | ⟨hw | hw, rfl⟩
  · simp [table, ← hop, hw, h]
  · simp [table, ← hop, hw, h]
  · simp [table, ← hop, hw, h]
  · simp [table, ← hop, hw, h]

/-- **Words are the same instruction** if they differ in digits that do not count, and only then. -/
theorem decode_eq_iff : decode w = decode w' ↔
    ∀ k < 4, Ignores w k ∧ Ignores w' k ∨ nibble w k = nibble w' k := by
  constructor
  · intro h k hk
    have hdigits : Word.digits w = Word.digits w' := by
      rw [← digits_decode, ← digits_decode, h]
    have hk' : k ∈ [3, 2, 1, 0] := by
      simp only [List.mem_cons, List.not_mem_nil, or_false]
      omega
    have heq := List.map_inj_left.mp hdigits k hk'
    by_cases hw : Ignores w k
    · by_cases hw' : Ignores w' k
      · exact .inl ⟨hw, hw'⟩
      · simp [hw, hw'] at heq
    · by_cases hw' : Ignores w' k
      · simp [hw, hw'] at heq
      · exact .inr (Fin.ext (by simpa [hw, hw'] using heq))
  · intro h
    by_cases hk : ∃ k < 4, Ignores w k ∧ Ignores w' k
    · obtain ⟨k, -, hw, hw'⟩ := hk
      refine decode_eq_of_ignores hw hw' fun j hj hne => (h j hj).resolve_left fun hboth => hne ?_
      have hj := hboth.1
      unfold Ignores at hw hj
      omega
    · rw [word_ext fun k hlt => (h k hlt).resolve_left fun hboth => hk ⟨k, hlt, hboth⟩]

end Instruction

namespace Disassembly

open Instruction Word

/-- **Texts tell instructions apart.** No two instructions are written alike, however many registers
there are. So the texts of a listing tell the words of the program, digit by digit, but for the
digits that do not count. -/
theorem texts_tell_words :
    (∀ (registers : Nat) (i j : Instruction registers), i.text = j.text → i = j) ∧
    ∀ (p q : List UInt8) (origin origin' : UInt16), p.length = q.length →
      ((rows p origin).map Row.text = (rows q origin').map Row.text ↔
        ∀ n (hp : n < (rows p origin).length) (hq : n < (rows q origin').length),
          let w := (rows p origin)[n].word
          let w' := (rows q origin')[n].word
          ∀ k < 4, Ignores w k ∧ Ignores w' k ∨ nibble w k = nibble w' k) := by
  refine ⟨fun _ _ _ => text_injective, fun p q origin origin' hlen => ?_⟩
  have hrows : (rows p origin).length = (rows q origin').length := by
    rw [length_rows, length_rows, hlen]
  constructor
  · intro h n hp hq
    refine decode_eq_iff.mp (text_injective ?_)
    have hn : ((rows p origin).map Row.text)[n]? = ((rows q origin').map Row.text)[n]? := by rw [h]
    rw [List.getElem?_map, List.getElem?_map, List.getElem?_eq_getElem hp,
      List.getElem?_eq_getElem hq] at hn
    exact Option.some.inj hn
  · intro h
    refine List.ext_getElem (by rw [List.length_map, List.length_map, hrows]) fun n hp hq => ?_
    rw [List.length_map] at hp hq
    rw [List.getElem_map, List.getElem_map, Row.text, Row.text, Row.instruction, Row.instruction,
      decode_eq_iff.mpr (h n hp hq)]

/-- Two programs that are listed alike. -/
theorem texts_tell_words_shift :
    let p : List UInt8 := [0x81, 0x26, 0x51, 0x20]
    let q : List UInt8 := [0x81, 0xA6, 0x51, 0x2F]
    p.length = q.length ∧ (rows p 0x200).map Row.text = ["SHR V1", "SE V1, V2"] ∧
    (rows q 0x200).map Row.text = ["SHR V1", "SE V1, V2"] ∧
    (decode 0x8126).text = (decode 0x81A6).text ∧ decode 0x8126 = decode 0x81A6 := by
  intro p q
  obtain ⟨htext, hrows⟩ := texts_tell_words
  have hp : (rows p 0x200).map Row.text = ["SHR V1", "SE V1, V2"] := by decide
  have hq : (rows p 0x200).map Row.text = (rows q 0x200).map Row.text :=
    (hrows p q 0x200 0x200 rfl).mpr (by decide)
  have hsame : (decode 0x8126).text = (decode 0x81A6).text := by decide
  exact ⟨rfl, hp, hq ▸ hp, hsame, htext 16 _ _ hsame⟩

end Disassembly

end Chip8
