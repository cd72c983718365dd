import Chip8.Disassembly
import Chip8.Proofs.Footprint

/-!
Which of the words that a machine can fetch have a row in the listing of its program.

A listing drops the last byte of a program of odd length. The machine does not: it can fetch that
byte together with the zero that follows it in memory.
-/

namespace Chip8

namespace Disassembly

/-- A row for each pair of bytes, as long as the addresses do not wrap around. -/
lemma mem_rows_iff {p : List UInt8} {a b w : UInt16}
    (h : a.toNat + p.length < 65536) : ⟨b, w⟩ ∈ rows p a ↔ ∃ i, 2 * i + 1 < p.length ∧
      b.toNat = a.toNat + 2 * i ∧ w = Word.ofBytes (p.getD (2 * i) 0) (p.getD (2 * i + 1) 0) := by
  fun_induction rows p a with
  | case1 hi lo rest a ih =>
    rw [List.length_cons, List.length_cons] at h
    have ha : (a + 2).toNat = a.toNat + 2 := by
      rw [UInt16.toNat_add]
      exact Nat.mod_eq_of_lt (by change a.toNat + 2 < 65536; omega)
    rw [List.mem_cons, ih (by omega), ha]
    constructor
    · rintro (hrow | ⟨i, hi, hb, hw⟩)
      · obtain ⟨rfl, rfl⟩ := Row.mk.inj hrow
        exact ⟨0, by simp, by simp, by simp⟩
      · exact ⟨i + 1, by simp; omega, by omega, hw⟩
    · rintro ⟨i, hi, hb, hw⟩
      cases i with
      | zero =>
        obtain rfl : b = a := UInt16.toNat_inj.mp hb
        exact .inl (by rw [hw]; rfl)
      | succ i => exact .inr ⟨i, by simp at hi; omega, by omega, hw⟩
  | case2 p a hp =>
    rcases p with _ | ⟨hi, _ | ⟨lo, rest⟩⟩
    · simp
    · simp
    · exact absurd rfl (hp hi lo rest)

/-- The rows of a program at the place where it is loaded. -/
lemma mem_rows_program_iff {p : List UInt8} (hp : p.length ≤ 3584) {a w : UInt16} :
    ⟨a, w⟩ ∈ rows p 0x200 ↔ 0x200 ≤ a.toNat ∧ a.toNat % 2 = 0 ∧ a.toNat + 1 < 0x200 + p.length ∧
      w = Word.ofBytes (p.getD (a.toNat - 0x200) 0) (p.getD (a.toNat + 1 - 0x200) 0) := by
  have horigin : (0x200 : UInt16).toNat = 0x200 := rfl
  rw [mem_rows_iff (by omega), horigin]
  constructor
  · rintro ⟨i, hi, ha, rfl⟩
    refine ⟨by omega, by omega, by omega, ?_⟩
    rw [ha, show 0x200 + 2 * i - 0x200 = 2 * i by omega,
      show 0x200 + 2 * i + 1 - 0x200 = 2 * i + 1 by omega]
  · rintro ⟨hstart, heven, hend, rfl⟩
    refine ⟨(a.toNat - 0x200) / 2, by omega, by omega, ?_⟩
    rw [show 2 * ((a.toNat - 0x200) / 2) = a.toNat - 0x200 by omega,
      show a.toNat - 0x200 + 1 = a.toNat + 1 - 0x200 by omega]

end Disassembly

/-! ### The program in memory -/

lemma Memory.length_program (m : Memory) : m.program.length = m.programSize.getD 0 :=
  length_slice ..

lemma Memory.getD_program {m : Memory} {i : Nat} (h : i < m.program.length) :
    m.program.getD i 0 = m.byte (0x200 + i) := by
  rw [List.getD_eq_getElem?_getD, List.getElem?_eq_getElem h, Option.getD_some]
  exact getElem_slice _ h

namespace Machine

variable {m t : Machine} {p : List UInt8}

lemma programSize_act {a : Action} (ha : ∀ q, a ≠ .load q) :
    (m.act a).memory.programSize = m.memory.programSize := by
  cases a with
  | load q => exact absurd rfl (ha q)
  | step =>
    rcases act_step m with ⟨-, ht⟩ | ht
    · rw [ht]
    · obtain ⟨i, f, u, -, hr, hu⟩ := step_eq_ok_iff.mp ht
      rw [hu, memory_finish, hr.programSize]
  | _ => rfl

/-- Only loads change the size of the program. -/
lemma programSize_after {history : List Action} (h : ∀ q, .load q ∉ history) :
    (m.after history).memory.programSize = m.memory.programSize := by
  induction history generalizing m with
  | nil => rfl
  | cons a as ih =>
    rw [after_cons, ih fun q hq => h q (List.mem_cons_of_mem _ hq)]
    exact programSize_act fun q hq => h q (hq ▸ List.mem_cons_self)

/-- A machine that has run on after program `p` was loaded. -/
structure Loaded (p : List UInt8) (t m : Machine) : Prop where
  fresh : Fresh p t
  fits : p.length ≤ 3584
  programSize : m.memory.programSize = some p.length

lemma loaded_after {history : List Action} {c : Machine} (hload : (load p).run c = .ok () t)
    (hhistory : ∀ q, .load q ∉ history) : Loaded p t (t.after history) := by
  obtain ⟨memory, hm, ht⟩ := load_eq_ok_iff.mp hload
  obtain ⟨-, hfits, hmemory⟩ := Memory.load_eq_ok_iff.mp hm
  refine ⟨fresh_of_load hload, hfits, ?_⟩
  rw [programSize_after hhistory, ht, hmemory]
  rfl

lemma Loaded.length_program (h : Loaded p t m) : m.memory.program.length = p.length := by
  rw [Memory.length_program, h.programSize]
  rfl

/-- A row of the program as it stands in memory is a word that can be fetched there. -/
lemma Loaded.mem_rows_iff (h : Loaded p t m) {a w : UInt16} (hw : m.memory.fetch a = .ok w)
    (heven : a.toNat % 2 = 0) :
    ⟨a, w⟩ ∈ Disassembly.rows m.memory.program 0x200 ↔ a.toNat + 1 < 0x200 + p.length := by
  obtain ⟨hcheck, rfl⟩ := Memory.fetch_eq_ok_iff.mp hw
  obtain ⟨-, hstart, -⟩ := Memory.checkWritable_eq_ok_iff.mp hcheck
  have hlen := h.length_program
  rw [Disassembly.mem_rows_program_iff (by rw [hlen]; exact h.fits), hlen]
  refine ⟨fun hrow => hrow.2.2.1, fun hend => ⟨hstart, heven, hend, ?_⟩⟩
  rw [Memory.getD_program (by omega), Memory.getD_program (by omega),
    show 0x200 + (a.toNat - 0x200) = a.toNat by omega,
    show 0x200 + (a.toNat + 1 - 0x200) = a.toNat + 1 by omega]

/-- A row of the program as it was loaded is a word that can be fetched where its bytes still
stand. -/
lemma Loaded.mem_rows_loaded_iff (h : Loaded p t m) {a w : UInt16} (hw : m.memory.fetch a = .ok w)
    (heven : a.toNat % 2 = 0) : ⟨a, w⟩ ∈ Disassembly.rows p 0x200 ↔
      a.toNat + 1 < 0x200 + p.length ∧ t.memory.fetch a = .ok w := by
  obtain ⟨hcheck, -⟩ := Memory.fetch_eq_ok_iff.mp hw
  obtain ⟨-, hstart, hend⟩ := Memory.checkWritable_eq_ok_iff.mp hcheck
  rw [Disassembly.mem_rows_program_iff h.fits, h.fresh.fetch hstart hend, Except.ok.injEq]
  exact ⟨fun hrow => ⟨hrow.2.2.1, hrow.2.2.2.symm⟩,
    fun hrow => ⟨hstart, heven, hrow.1, hrow.2.symm⟩⟩

/-- **What a listing misses**: the word that begins with an odd last byte can be fetched at any
time, and has no row. Every other word at an even place in the program has a row in a listing of
the memory, and in a listing of the program as long as its bytes stay as they were loaded. -/
theorem fetch_listed_iff {c : Machine} {history : List Action} (hload : (load p).run c = .ok () t)
    (hhistory : ∀ q, .load q ∉ history) :
    let m := t.after history
    -- the last byte of a program of odd length
    (∀ a : UInt16, p.length % 2 = 1 → a.toNat + 1 = 0x200 + p.length →
      m.memory.fetch a = .ok (Word.ofBytes (m.memory.byte a.toNat) (m.memory.byte (a.toNat + 1))) ∧
      ∀ w, ⟨a, w⟩ ∉ Disassembly.rows p 0x200) ∧
    -- any word at an even address
    ∀ a w, m.memory.fetch a = .ok w → a.toNat % 2 = 0 →
      (⟨a, w⟩ ∈ Disassembly.rows m.memory.program 0x200 ↔ a.toNat + 1 < 0x200 + p.length) ∧
      (⟨a, w⟩ ∈ Disassembly.rows p 0x200 ↔
        a.toNat + 1 < 0x200 + p.length ∧ t.memory.fetch a = .ok w) := by
  intro m
  have h : Loaded p t m := loaded_after hload hhistory
  refine ⟨fun a hodd ha => ⟨?_, fun w hrow => ?_⟩, fun a w hw heven => ?_⟩
  · have hfits := h.fits
    have hloaded : m.memory.isLoaded := by rw [Memory.isLoaded, h.programSize]; rfl
    exact Memory.fetch_eq_ok_iff.mpr
      ⟨Memory.checkWritable_eq_ok_iff.mpr ⟨hloaded, by omega, by omega⟩, rfl⟩
  · have hend := ((Disassembly.mem_rows_program_iff h.fits).mp hrow).2.2.1
    omega
  · exact ⟨h.mem_rows_iff hw heven, h.mem_rows_loaded_iff hw heven⟩

/-- A program whose last byte jumps to the start, together with the zero after it. -/
theorem fetch_listed_iff_jump : ∃ t u v : Machine,
    (load [0x60, 0x05, 0x12]).run (new {} (.chaCha .zero)) = .ok () t ∧
    step.run t = .ok () u ∧ u.pc = 0x202 ∧ u.memory.fetch u.pc = .ok 0x1200 ∧
    step.run u = .ok () v ∧ v.pc = 0x200 ∧
    ∀ w, ⟨u.pc, w⟩ ∉ Disassembly.rows [0x60, 0x05, 0x12] 0x200 := by
  obtain ⟨t, ht⟩ := (new {} (.chaCha .zero)).load_accepted (p := [0x60, 0x05, 0x12])
    (by decide) (by decide)
  have hfresh := fresh_of_load ht
  have hstep := step_of_executes hfresh.instruction? (.setByte 0 5)
  obtain ⟨u, hu, hpc, hmemory⟩ : ∃ u, step.run t = .ok () u ∧ u.pc = 0x202 ∧
      u.memory = t.memory := ⟨_, hstep, by rw [hfresh.pc]; rfl, rfl⟩
  have hafter : t.after [.step] = u := by
    rw [after_cons, after_nil, act, state_of_ok hu]
  have hhistory (q : List UInt8) : .load q ∉ [Action.step] := by simp
  obtain ⟨hlast, -⟩ := fetch_listed_iff ht hhistory
  rw [hafter] at hlast
  obtain ⟨hfetch, hrow⟩ := hlast u.pc rfl (by rw [hpc]; rfl)
  have hword : u.memory.fetch u.pc = .ok 0x1200 := by
    have hplace : u.pc.toNat = 0x202 := by rw [hpc]; rfl
    rw [hfetch, hplace, hmemory, hfresh.byte (by decide) (by decide),
      hfresh.byte (by decide) (by decide)]
    rfl
  have hjump : u.instruction? = some (.jump 0x200) :=
    instruction?_eq_some_iff.mpr ⟨_, hword, rfl⟩
  exact ⟨t, u, _, ht, hu, hpc, hword, step_of_executes hjump (.jump 0x200), rfl, hrow⟩

end Machine

end Chip8
