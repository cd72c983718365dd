import Chip8.CommandLine.Disk
import Chip8.CommandLine.Run
import Chip8.Proofs.Lines
import Chip8.Proofs.Listing
import Chip8.Proofs.Options
import Mathlib

/-!
A listing shows what the machine fetches, and a program can be read back from it.

What is read back is the program without a last byte that has no partner.
-/

namespace Chip8

/-- The two bytes of a word, the high one first. -/
def Word.bytes (w : UInt16) : List UInt8 :=
  [UInt8.ofNat (w.toNat / 256), UInt8.ofNat (w.toNat % 256)]

@[simp] lemma Word.bytes_ofBytes (hi lo : UInt8) : bytes (ofBytes hi lo) = [hi, lo] := by
  have hlo := lo.toNat_lt
  have hhigh : (256 * hi.toNat + lo.toNat) / 256 = hi.toNat := by omega
  have hlow : (256 * hi.toNat + lo.toNat) % 256 = lo.toNat := by omega
  unfold bytes
  rw [toNat_ofBytes, hhigh, hlow, UInt8.ofNat_toNat, UInt8.ofNat_toNat]

/-! ### What fits on a line -/

namespace Instruction

open Text

variable {registers : Nat}

/-- The text of an instruction is put together from pieces that fit on a line. -/
lemma oneLine_text (i : Instruction registers) : OneLine i.text := by
  cases i <;>
    simp +decide [text, binary, registerText, Hex.address, Hex.byte, Hex.word]

end Instruction

namespace Disassembly

/-- The bytes of a program that have a partner: all, or all but the last. -/
def paired (p : List UInt8) : List UInt8 := if p.length % 2 = 1 then p.dropLast else p

lemma paired_cons_cons (hi lo : UInt8) (rest : List UInt8) :
    paired (hi :: lo :: rest) = hi :: lo :: paired rest := by
  have hparity : (hi :: lo :: rest).length % 2 = rest.length % 2 := by
    rw [List.length_cons, List.length_cons]
    omega
  unfold paired
  rw [hparity]
  split
  next hodd =>
    have hne : rest ≠ [] := by
      rintro rfl
      simp at hodd
    rw [List.dropLast_cons_of_ne_nil (by simp), List.dropLast_cons_of_ne_nil hne]
  next => rfl

/-! ### Rows -/

/-- Row by row, addresses count up from the origin and wrap around. -/
lemma address_rows (p : List UInt8) (origin : UInt16) (i : Nat)
    (hi : i < (rows p origin).length) :
    (rows p origin)[i].address.toNat = (origin.toNat + 2 * i) % 65536 := by
  fun_induction rows p origin generalizing i with
  | case1 hi lo rest a ih =>
    cases i with
    | zero => exact (Nat.mod_eq_of_lt a.toNat_lt).symm
    | succ i =>
      have hnext : (a + 2).toNat = (a.toNat + 2) % 65536 := UInt16.toNat_add a 2
      rw [List.getElem_cons_succ, ih, hnext]
      omega
  | case2 => simp at hi

/-- The words of the rows, byte by byte, are the program. -/
lemma flatMap_bytes_rows (p : List UInt8) (origin : UInt16) :
    (rows p origin).flatMap (fun r => Word.bytes r.word) = paired p := by
  fun_induction rows p origin with
  | case1 hi lo rest a ih =>
    rw [List.flatMap_cons, ih, Word.bytes_ofBytes, paired_cons_cons]
    rfl
  | case2 p a hp =>
    rcases p with _ | ⟨hi, _ | ⟨lo, rest⟩⟩
    · rfl
    · rfl
    · exact absurd rfl (hp hi lo rest)

/-! ### Reading a listing back -/

/-- The word that a line of a listing shows: what stands between the colon and the text. -/
def word? (line : String) : Option UInt16 :=
  (Hex.number? Hex.lowerDigits
    (((line.toList.dropWhile (· ≠ ':')).drop 2).takeWhile (· ≠ ' '))).map UInt16.ofNat

/-- The bytes of the words that a listing shows. -/
def program? (listing : String) : Option (List UInt8) := do
  let words ← (Text.lines listing).mapM word?
  return words.flatMap Word.bytes

lemma mem_padded_ne {c d : Char} {w n : Nat} (hd : d ∉ Hex.lowerDigits.toList)
    (hc : c ∈ Hex.padded Hex.lowerDigits w n) : decide (c ≠ d) = true := by
  have hmem := Hex.mem_of_mem_padded _ hc
  rw [decide_eq_true_iff]
  rintro rfl
  exact hd hmem

lemma word?_line (r : Row) : word? r.line = some r.word := by
  let address := Hex.padded Hex.lowerDigits 3 r.address.toNat
  let word := Hex.padded Hex.lowerDigits 4 r.word.toNat
  have hline : r.line.toList = address ++ ':' :: ' ' :: (word ++ ' ' :: ' ' :: r.text.toList) := by
    simp [Row.line, Hex.lower, address, word]
  have haddress : r.line.toList.dropWhile (· ≠ ':') =
      ':' :: ' ' :: (word ++ ' ' :: ' ' :: r.text.toList) := by
    rw [hline, List.dropWhile_append_of_pos fun c hc => mem_padded_ne (by decide) hc]
    rfl
  have hword : (word ++ ' ' :: ' ' :: r.text.toList).takeWhile (· ≠ ' ') = word := by
    rw [List.takeWhile_append_of_pos fun c hc => mem_padded_ne (by decide) hc,
      List.takeWhile_cons_of_neg (by decide), List.append_nil]
  unfold word?
  rw [haddress, List.drop_succ_cons, List.drop_succ_cons, List.drop_zero, hword,
    Hex.number?_padded Hex.nodup_lowerDigits, Option.map_some, UInt16.ofNat_toNat]

lemma oneLine_line (r : Row) : Text.OneLine r.line := by
  have htext : Text.OneLine r.text := Instruction.oneLine_text _
  simp +decide [Row.line, htext]

/-- A listing has a line for each row. -/
lemma lines_listing (p : List UInt8) (origin : UInt16) :
    Text.lines (listing p origin) = (rows p origin).map Row.line := by
  have hlisting : listing p origin =
      String.join (((rows p origin).map Row.line).map (· ++ "\n")) := by
    rw [List.map_map]
    rfl
  rw [hlisting]
  refine Text.lines_join fun l hl => ?_
  obtain ⟨r, -, rfl⟩ := List.mem_map.mp hl
  exact oneLine_line r

lemma mapM_word?_lines (rs : List Row) :
    (rs.map Row.line).mapM word? = some (rs.map Row.word) := by
  induction rs with
  | nil => rfl
  | cons r rs ih => simp [List.mapM_cons, word?_line, ih]

lemma program?_listing (p : List UInt8) (origin : UInt16) :
    program? (listing p origin) = some (paired p) := by
  unfold program?
  rw [lines_listing, mapM_word?_lines, ← flatMap_bytes_rows p origin]
  simp [List.flatMap_map]

end Disassembly

/-! ### Rows in memory, and lines on the command line -/

lemma Machine.Fresh.fetch_row {p : List UInt8} {t : Machine} (h : Fresh p t)
    (hfits : p.length ≤ 3584) {r : Disassembly.Row} (hr : r ∈ Disassembly.rows p 0x200) :
    t.memory.fetch r.address = .ok r.word := by
  obtain ⟨a, w⟩ := r
  obtain ⟨hstart, -, hend, rfl⟩ := (Disassembly.mem_rows_program_iff hfits).mp hr
  exact h.fetch hstart (by dsimp only; omega)

lemma Machine.length_le_of_load {p : List UInt8} {c t : Machine} (h : (load p).run c = .ok () t) :
    p.length ≤ 3584 := by
  obtain ⟨memory, hm, -⟩ := load_eq_ok_iff.mp h
  exact (Memory.load_eq_ok_iff.mp hm).2.1

namespace CommandLine

variable {σ : Type} {parse : List String → Except Halt Arguments} {files : Files (StateM σ)}
  {disk disk' : σ}

/-- A listing is all that is done, whatever else is asked for. -/
lemma run_listing {args : List String} {parsed : Arguments} {p : List UInt8}
    (hparse : parse args = .ok parsed) (hflag : parsed.disassemble = true)
    (hread : (files.read parsed.rom).run disk = (.ok p, disk')) :
    (run parse files args).run disk = (.done (Disassembly.listing p 0x200) [], disk') := by
  unfold run
  rw [hparse]
  dsimp only [start]
  rw [StateT.run_bind, hread, hflag]
  rfl

end CommandLine

namespace Disassembly

open Machine CommandLine

/-- **A listing shows what the machine fetches**, and loses no more than a last byte without a
partner. There is a row for each pair of bytes, at its place behind the origin, whatever the length
of the program. Where the program has been loaded, a row's word is what is fetched at its address,
and its instruction is what a step there carries out. The lines that the command line prints give
the program back. -/
theorem listing_faithful (p : List UInt8) :
    -- for any origin
    (∀ origin, (rows p origin).length = p.length / 2 ∧
      (∀ i (hi : i < (rows p origin).length),
        (rows p origin)[i].address.toNat = (origin.toNat + 2 * i) % 65536) ∧
      (rows p origin).flatMap (fun r => Word.bytes r.word) = paired p) ∧
    -- right after a load
    (∀ c t : Machine, (load p).run c = .ok () t → ∀ i (hi : i < (rows p 0x200).length),
      let r := (rows p 0x200)[i]
      r.address.toNat = 0x200 + 2 * i ∧ t.memory.fetch r.address = .ok r.word ∧
      ∀ m : Machine, m.memory = t.memory → m.pc = r.address →
        step.run m = match (execute r.instruction).run m with
          | .error e u => .error e u
          | .ok f u => .ok () (u.finish (f.target m.pc))) ∧
    -- on a command line that asks for a listing, whatever reads it
    (∀ (σ : Type) (parse : List String → Except Halt Arguments) (files : Files (StateM σ))
      (disk disk' : σ) (args : List String) (parsed : Arguments),
      parse args = .ok parsed → parsed.disassemble = true →
      (files.read parsed.rom).run disk = (.ok p, disk') →
      ∃ out, (run parse files args).run disk = (.done out [], disk') ∧
        Text.lines out = (rows p 0x200).map Row.line ∧ program? out = some (paired p)) ∧
    -- which command lines do
    ∀ (args : List String) (parsed : Arguments), Arguments.parse args = .ok parsed →
      (parsed.disassemble = true ↔ "--disassemble" ∈ args.takeWhile (· ≠ "--")) := by
  refine ⟨fun origin => ?_, fun c t hload i hi => ?_,
    fun σ parse files disk disk' args parsed hparse hflag hread => ?_,
    fun args parsed => disassemble_iff⟩
  · exact ⟨length_rows p origin, address_rows p origin, flatMap_bytes_rows p origin⟩
  · intro r
    have hfits := length_le_of_load hload
    have hfetch : t.memory.fetch r.address = .ok r.word :=
      (fresh_of_load hload).fetch_row hfits (List.getElem_mem hi)
    refine ⟨?_, hfetch, fun m hmemory hpc => ?_⟩
    · have haddress : r.address.toNat = (0x200 + 2 * i) % 65536 := address_rows p 0x200 i hi
      rw [length_rows] at hi
      omega
    · rw [run_step, hmemory, hpc, hfetch]
      rfl
  · exact ⟨listing p 0x200, run_listing hparse hflag hread, lines_listing p 0x200,
      program?_listing p 0x200⟩

/-- A program of three bytes: the last is not listed. -/
theorem listing_faithful_odd : ∃ t u : Machine, ∃ out : String,
    let p : List UInt8 := [0x60, 0x05, 0x12]
    let disk : Disk := { nodes := [(["c8"], .file p)], working := [] }
    rows p 0xFFFF = [⟨0xFFFF, 0x6005⟩] ∧
    (load p).run (new {} (.chaCha .zero)) = .ok () t ∧ t.memory.fetch 0x200 = .ok 0x6005 ∧
    step.run t = .ok () u ∧ u.v.get 0 = 5 ∧
    (run Arguments.parse Disk.files ["--disassemble", "c8"]).run disk = (.done out [], disk) ∧
    Text.lines out = ["200: 6005  LD V0, 0x05"] ∧ program? out = some [0x60, 0x05] := by
  let disk : Disk := { nodes := [(["c8"], .file [0x60, 0x05, 0x12])], working := [] }
  have hparse : Arguments.parse ["--disassemble", "c8"] = .ok {
      rom := "c8", config := {}, mute := false, frames := none, disassemble := true,
      dump := none } := rfl
  have hread : disk.read "c8" = .ok [0x60, 0x05, 0x12] := by cbv
  obtain ⟨t, ht⟩ := (new {} (.chaCha .zero)).load_accepted (p := [0x60, 0x05, 0x12])
    (by decide) (by decide)
  obtain ⟨-, hmemory, hcommand, hasks⟩ := listing_faithful [0x60, 0x05, 0x12]
  obtain ⟨-, hfetch, hstep⟩ := hmemory _ t ht 0 (by decide)
  simp only [rows_cons_cons, List.getElem_cons_zero] at hfetch hstep
  have hinstruction : Row.instruction ⟨0x200, Word.ofBytes 0x60 0x05⟩ = .setByte 0 5 := by decide
  have hrun := (Executes.setByte (m := t) 0 5).run
  have hset := hstep t rfl (fresh_of_load ht).pc
  rw [hinstruction, hrun] at hset
  obtain ⟨out, hout, hlines, hprogram⟩ := hcommand Disk Arguments.parse Disk.files disk disk _ _
    hparse ((hasks _ _ hparse).mpr (by decide)) (congrArg (·, disk) hread)
  refine ⟨t, _, out, rfl, ht, hfetch, hset, Bank.get_set_self .., hout, ?_, hprogram⟩
  rw [hlines]
  decide

end Disassembly

end Chip8
