import Chip8.Proofs.Chronicle
import Chip8.Proofs.Footprint

/-!
What was saved can be restored.

Registers are saved at the index, and so are the three decimal digits of a register. Whatever the
machine does afterwards, as long as the saved bytes stay, they can be read back from where they
stand, and the registers behind them keep what they hold by then. Whether the index moves past the
registers is settled when the machine is built.
-/

namespace Chip8.Machine

open Word

/-- How far the index moves when the registers `V0` to `Vx` are saved or restored. -/
def stride (m : Machine) (x : Nibble) : Nat := if m.movesIndex then x + 1 else 0

/-- `Restored x bytes u v`: the registers `V0` to `Vx` of machine `v` have been read from the given
bytes, and it keeps the others of machine `u`. -/
structure Restored (x : Nibble) (bytes : List UInt8) (u v : Machine) : Prop where
  read : ∀ k ≤ x, v.v.get k = bytes.getD k 0
  others : ∀ k, x < k → v.v.get k = u.v.get k
  index : v.index.toNat = u.index.toNat + u.stride x

variable {m t u : Machine} {w : UInt16} {x : Nibble}

/-! ### The index -/

/-- Inside memory the index does not wrap around. -/
lemma toNat_index_movePast (h : m.index.toNat + (x + 1) ≤ 4096) :
    (m.movePast x).index.toNat = m.index.toNat + m.stride x := by
  unfold movePast stride
  split
  next =>
    have hx : (UInt16.ofNat (x + 1)).toNat = x + 1 := by
      rw [UInt16.toNat_ofNat']
      omega
    rw [UInt16.toNat_add, hx]
    omega
  next => rfl

lemma movesIndex_act (m : Machine) (a : Action) : (m.act a).movesIndex = m.movesIndex := by
  cases a with
  | load p =>
    rcases act_load m p with ⟨-, ht⟩ | ⟨memory, -, -, ht⟩
    · rw [ht]
    · rw [ht]
      rfl
  | step =>
    rcases act_step_cases m with ⟨-, ht⟩ | ⟨i, f, u, -, hr, ht⟩
    · rw [ht]
    · rw [ht]
      exact hr.spared.movesIndex
  | _ => rfl

lemma movesIndex_after (m : Machine) (history : List Action) :
    (m.after history).movesIndex = m.movesIndex :=
  after_induction (P := fun t => t.movesIndex = m.movesIndex) rfl
    (fun t a ht => (movesIndex_act t a).trans ht) history

lemma stride_after (h : step.run m = .ok () t) (later : List Action) (x : Nibble) :
    (t.after later).stride x = m.stride x := by
  have ht : m.act .step = t := state_of_ok h
  rw [stride, stride, movesIndex_after, ← ht, movesIndex_act]

/-! ### Writing and reading -/

/-- A step that writes has written its data at the index, inside the program region. -/
lemma written_of_step (hw : m.memory.fetch m.pc = .ok w) (h : step.run m = .ok () t)
    (hsize : (Instruction.table w).size = x + 1) :
    0x200 ≤ m.index.toNat ∧ m.index.toNat + (x + 1) ≤ 4096 ∧
      t.memory.slice m.index.toNat (x + 1) = (Instruction.table w).data m := by
  obtain ⟨f, s, hr, ht⟩ := (step_eq_ok_iff_of_fetch hw).mp h
  have hwritten := hr.written
  rcases hr.memory with ⟨-, h0⟩ | hwrite
  · omega
  · have hcheck := (Memory.writeBlock_eq_ok_iff.mp hwrite).1
    rw [Instruction.length_data, hsize] at hcheck
    obtain ⟨-, hstart, hend⟩ := Memory.checkWritable_eq_ok_iff.mp hcheck
    rw [hsize] at hwritten
    rw [ht]
    exact ⟨hstart, hend, hwritten⟩

/-- Words below the index are not written over. -/
lemma Footprint.fetch_below {i : Instruction 16} (h : Footprint i m t) {a : UInt16}
    (ha : a.toNat + 2 ≤ m.index.toNat) : t.memory.fetch a = m.memory.fetch a := by
  have hloaded : t.memory.isLoaded = m.memory.isLoaded := by
    rw [Memory.isLoaded, Memory.isLoaded, h.programSize]
  rw [Memory.fetch, Memory.fetch, Memory.checkWritable, Memory.checkWritable, hloaded,
    h.byte a.toNat (.inl (by omega)), h.byte (a.toNat + 1) (.inl (by omega))]

/-- Where bytes could be written, registers can be restored. -/
lemma step_restore (hw : u.memory.fetch u.pc = .ok w) (hi : Instruction.table w = .restore x)
    (hstart : 0x200 ≤ u.index.toNat) (hend : u.index.toNat + (x + 1) ≤ 4096) :
    ∃ v, step.run u = .ok () v ∧ Restored x (u.memory.slice u.index.toNat (x + 1)) u v := by
  have hread : u.memory.readBlock u.index (x + 1) = .ok (u.memory.slice u.index.toNat (x + 1)) :=
    Memory.readBlock_eq_ok_iff.mpr ⟨Memory.checkReadable_eq_ok_iff.mpr
      ⟨Memory.isLoaded_of_fetch hw, .inr ⟨hstart, hend⟩⟩, rfl⟩
  have hstep := step_of_executes (hi ▸ instruction?_of_fetch hw) (.restore x hread)
  obtain ⟨v, hv, hbank, hindex⟩ : ∃ v, step.run u = .ok () v ∧
      v.v = fill u.v 0 (u.memory.slice u.index.toNat (x + 1)) ∧
      v.index.toNat = u.index.toNat + u.stride x :=
    ⟨_, hstep, v_movePast .., toNat_index_movePast hend⟩
  refine ⟨v, hv, fun k hk => ?_, fun k hk => ?_, hindex⟩
  · have hk' : k.val ≤ x.val := hk
    rw [hbank, get_fill, Memory.length_slice, if_pos (by omega), Nat.sub_zero]
  · have hk' : x.val < k.val := hk
    rw [hbank, get_fill, Memory.length_slice, if_neg (by omega)]

/-- What an instruction wrote is restored from the same index, if it still stands there. -/
lemma exists_restored {w' : UInt16} (hw : m.memory.fetch m.pc = .ok w)
    (hstep : step.run m = .ok () t) (hsize : (Instruction.table w).size = x + 1)
    (hw' : u.memory.fetch u.pc = .ok w') (hi : Instruction.table w' = .restore x)
    (hindex : u.index = m.index)
    (hbytes : u.memory.slice m.index.toNat (x + 1) = t.memory.slice m.index.toNat (x + 1)) :
    ∃ v, step.run u = .ok () v ∧ Restored x ((Instruction.table w).data m) u v := by
  obtain ⟨hstart, hend, hdata⟩ := written_of_step hw hstep hsize
  rw [← hdata, ← hbytes, ← hindex]
  rw [← hindex] at hstart hend
  exact step_restore hw' hi hstart hend

/-! ### What is written -/

lemma getD_data_save (m : Machine) {k : Nibble} (hk : k ≤ x) :
    ((Instruction.save x).data m).getD k 0 = m.v.get k := by
  have hk' : k.val < x + 1 := Nat.lt_succ_of_le hk
  rw [Instruction.data, List.getD_eq_getElem?_getD, List.getElem?_take_of_lt hk']
  simp [Bank.get]

lemma index_of_save (hw : m.memory.fetch m.pc = .ok w) (hi : Instruction.table w = .save x)
    (h : step.run m = .ok () t) : t.index.toNat = m.index.toNat + m.stride x := by
  obtain ⟨-, hend, -⟩ := written_of_step (x := x) hw h (by rw [hi]; rfl)
  obtain ⟨f, s, hr, ht⟩ := (step_eq_ok_iff_of_fetch hw).mp h
  rw [hi] at hr
  cases hr
  rw [ht]
  exact toNat_index_movePast hend

/-- A byte is made of its three decimal digits. -/
lemma decimalDigits_spec (b : UInt8) : ∃ h t o : UInt8, decimalDigits b = [h, t, o] ∧
    h.toNat ≤ 9 ∧ t.toNat ≤ 9 ∧ o.toNat ≤ 9 ∧
    100 * h.toNat + 10 * t.toNat + o.toNat = b.toNat := by
  have hb := b.toNat_lt
  have hhundreds : (b / 100).toNat = b.toNat / 100 := UInt8.toNat_div ..
  have htens : (b / 10 % 10).toNat = b.toNat / 10 % 10 := by
    rw [UInt8.toNat_mod, UInt8.toNat_div]
    rfl
  have hones : (b % 10).toNat = b.toNat % 10 := UInt8.toNat_mod ..
  exact ⟨_, _, _, rfl, by omega, by omega, by omega, by omega⟩

/-- **What was saved can be restored.** After registers or the digits of a register were saved, the
machine may go on in any way: where the saved bytes still stand and the index is back at the first
of them, restoring comes off. It gives the registers what they held when they were saved, or the
digits of the number that was saved, and leaves the registers behind them alone. Where the index
moves, it moves past the registers each time. -/
theorem restores_saved (hw : m.memory.fetch m.pc = .ok w) (hstep : step.run m = .ok () t)
    (later : List Action) :
    let u := t.after later
    let a := m.index.toNat
    let x := nibble w 2
    -- registers
    (opcode w = 0xF055 →
      t.index.toNat = a + m.stride x ∧
      ∀ w', u.memory.fetch u.pc = .ok w' → opcode w' = 0xF065 → nibble w' 2 = x →
        u.index = m.index → u.memory.slice a (x + 1) = t.memory.slice a (x + 1) →
        ∃ v, step.run u = .ok () v ∧
          (∀ k ≤ x, v.v.get k = m.v.get k) ∧ (∀ k, x < k → v.v.get k = u.v.get k) ∧
          v.index.toNat = a + m.stride x) ∧
    -- decimal digits
    (opcode w = 0xF033 →
      u.memory.fetch u.pc = .ok 0xF265 → u.index = m.index →
        u.memory.slice a 3 = t.memory.slice a 3 →
        ∃ v, step.run u = .ok () v ∧
          (v.v.get 0).toNat ≤ 9 ∧ (v.v.get 1).toNat ≤ 9 ∧ (v.v.get 2).toNat ≤ 9 ∧
          100 * (v.v.get 0).toNat + 10 * (v.v.get 1).toNat + (v.v.get 2).toNat =
            (m.v.get x).toNat ∧
          (∀ k, 2 < k → v.v.get k = u.v.get k) ∧ v.index.toNat = a + m.stride 2) := by
  intro u a x
  refine ⟨fun hop => ?_, fun hop hw' hindex hbytes => ?_⟩
  · have hi : Instruction.table w = .save x := by simp only [Instruction.table, hop, x]
    refine ⟨index_of_save hw hi hstep, fun w' hw' hop' hx hindex hbytes => ?_⟩
    have hi' : Instruction.table w' = .restore x := by simp only [Instruction.table, hop', hx]
    obtain ⟨v, hv, hread, hothers, hmoved⟩ :=
      exists_restored hw hstep (by rw [hi]; rfl) hw' hi' hindex hbytes
    refine ⟨v, hv, fun k hk => ?_, hothers, ?_⟩
    · rw [hread k hk, hi, getD_data_save m hk]
    · rw [hmoved, hindex, stride_after hstep]
  · have hi : Instruction.table w = .decimal x := by simp only [Instruction.table, hop, x]
    obtain ⟨v, hv, hread, hothers, hmoved⟩ :=
      exists_restored (x := 2) hw hstep (by rw [hi]; rfl) hw' rfl hindex hbytes
    obtain ⟨hundreds, tens, ones, hdigits, hdigit⟩ := decimalDigits_spec (m.v.get x)
    rw [hi, Instruction.data, hdigits] at hread
    have h0 : v.v.get 0 = hundreds := hread 0 (by decide)
    have h1 : v.v.get 1 = tens := hread 1 (by decide)
    have h2 : v.v.get 2 = ones := hread 2 (by decide)
    rw [← h0, ← h1, ← h2] at hdigit
    obtain ⟨hle0, hle1, hle2, hsum⟩ := hdigit
    refine ⟨v, hv, hle0, hle1, hle2, hsum, hothers, ?_⟩
    rw [hmoved, hindex, stride_after hstep]

/-- Two registers are saved at `0x300` and restored after one of them was cleared and the index was
set back. -/
theorem restores_saved_cleared : ∃ m t v : Machine, m.movesIndex = true ∧
    m.memory.fetch m.pc = .ok 0xF155 ∧ step.run m = .ok () t ∧ t.index.toNat = 0x302 ∧
    step.run (t.after [.step, .step]) = .ok () v ∧
    m.v.get 0 = 7 ∧ (t.after [.step, .step]).v.get 0 = 0 ∧ v.v.get 0 = 7 ∧
    v.index.toNat = 0x302 := by
  obtain ⟨n, hn⟩ := (new { movesIndex := true } (.chaCha .zero)).load_accepted
    (p := [0xF1, 0x55, 0x60, 0x00, 0xA3, 0x00, 0xF1, 0x65]) (by decide) (by decide)
  have hfresh := fresh_of_load hn
  have hmoves : n.movesIndex = true := by
    obtain ⟨memory, -, rfl⟩ := load_eq_ok_iff.mp hn
    rfl
  obtain ⟨m, hm⟩ : ∃ m : Machine, m = { n with index := 0x300, v := n.v.set 0 7 } := ⟨_, rfl⟩
  have hindex : m.index = 0x300 := by rw [hm]
  have hpc : m.pc = 0x200 := by rw [hm]; exact hfresh.pc
  have hmemory : m.memory = n.memory := by rw [hm]
  have hmoves' : m.movesIndex = true := by rw [hm]; exact hmoves
  have hw : m.memory.fetch m.pc = .ok 0xF155 := by
    rw [hpc, hmemory]
    exact hfresh.fetch (a := 0x200) (by decide) (by decide)
  obtain ⟨memory, hwrite⟩ : ∃ memory,
      (Memory.writeBlock m.index (m.v.toList.take (((1 : Nibble) : Nat) + 1))).run m.memory =
        .ok () memory := by
    refine ⟨_, Memory.writeBlock_eq_ok_iff.mpr ⟨Memory.checkWritable_eq_ok_iff.mpr ?_, rfl⟩⟩
    rw [hindex, hmemory]
    exact ⟨hfresh.isLoaded, by decide, by simp⟩
  obtain ⟨t, ht⟩ : ∃ t, t = (({ m with memory } : Machine).movePast 1).finish 0x202 := ⟨_, rfl⟩
  have hstep : step.run m = .ok () t := by
    rw [ht, step_of_executes (instruction?_of_fetch hw) (.save 1 hwrite), hpc]
    rfl
  -- the program stands below the saved bytes
  have hprogram {a : UInt16} (ha : a.toNat + 2 ≤ 0x300) : t.memory.fetch a = n.memory.fetch a := by
    rw [(step_footprint hw hstep).fetch_below (by rw [hindex]; exact ha), hmemory]
  have hpc' : t.pc = 0x202 := by rw [ht]; rfl
  obtain ⟨u, hu⟩ : ∃ u : Machine,
      u = Machine.finish { (t.put 0 0).finish 0x204 with index := 0x300 } 0x206 := ⟨_, rfl⟩
  have hafter : t.after [.step, .step] = u := by
    have hclear : t.act .step = (t.put 0 0).finish 0x204 := by
      have hi : t.instruction? = some (.setByte 0 0) := instruction?_of_fetch (w := 0x6000) (by
        rw [hpc', hprogram (by decide)]
        exact hfresh.fetch (a := 0x202) (by decide) (by decide))
      rw [act_step_of_executes hi (.setByte 0 0), hpc']
      rfl
    have hback : ((t.put 0 0).finish 0x204).act .step = u := by
      have hi : ((t.put 0 0).finish 0x204).instruction? = some (.setIndex 0x300) :=
        instruction?_of_fetch (w := 0xA300) (by
          change t.memory.fetch 0x204 = _
          rw [hprogram (by decide)]
          exact hfresh.fetch (a := 0x204) (by decide) (by decide))
      rw [act_step_of_executes hi (.setIndex 0x300), hu]
      rfl
    rw [after_cons, after_cons, after_nil, hclear, hback]
  have hw' : u.memory.fetch u.pc = .ok 0xF165 := by
    rw [hu]
    change t.memory.fetch 0x206 = _
    rw [hprogram (by decide)]
    exact hfresh.fetch (a := 0x206) (by decide) (by decide)
  obtain ⟨hmoved, hrestore⟩ := (restores_saved hw hstep [.step, .step]).1 (by decide)
  rw [hafter] at hrestore
  obtain ⟨v, hv, hregisters, -, hmoved'⟩ :=
    hrestore 0xF165 hw' (by decide) (by decide) (by rw [hu, hindex]; rfl) (by rw [hu]; rfl)
  have hx : nibble 0xF155 2 = 1 := by decide
  rw [hx, hindex, stride, if_pos hmoves'] at hmoved hmoved'
  have hv0 : m.v.get 0 = 7 := by rw [hm]; exact Bank.get_set_self ..
  rw [← hafter] at hv
  refine ⟨m, t, v, hmoves', hw, hstep, hmoved, hv, hv0, ?_, ?_, hmoved'⟩
  · rw [hafter, hu]
    exact Bank.get_set_self ..
  · rw [hregisters 0 (by decide), hv0]

end Chip8.Machine
