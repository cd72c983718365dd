import Chip8.Proofs.Faults

/-!
Where the machine goes after a step.

All of it is decided by the word, the registers, the keypad and the stack as they were before the
step, also if the instruction writes over its own word. Skips come in pairs of which one skips and
the other does not.
-/

namespace Chip8

/-- Where the program counter goes after an instruction. -/
def Instruction.flow (m : Machine) : Instruction 16 → Flow
  | ret => .jump (m.stack.toList.getLastD 0)
  | jump a | call a => .jump a
  | jumpOffset a => .jump (a + (m.v.get (.ofNat 0)).toUInt16)
  | waitKey _ => if m.keypad.anyDown then .next else .hold
  | skipEqByte x b => .skipIf (m.v.get x == b)
  | skipNeByte x b => .skipIf (m.v.get x != b)
  | skipEq x y => .skipIf (m.v.get x == m.v.get y)
  | skipNe x y => .skipIf (m.v.get x != m.v.get y)
  | skipKeyDown x => .skipIf (m.keypad.keys.nth (m.v.get x).toNat)
  | skipKeyUp x => .skipIf (!m.keypad.keys.nth (m.v.get x).toNat)
  | _ => .next

namespace Machine

open Word

/-- Where the machine goes on after a word, by its digits. -/
def successor (m : Machine) (w : UInt16) : Nat :=
  let pc := m.pc.toNat
  let x := m.v.get (nibble w 2)
  let y := m.v.get (nibble w 1)
  let down := m.keypad.keys.nth x.toNat
  match opcode w with
  | 0x00EE => (m.stack.toList.getLastD 0).toNat
  | 0x1000 | 0x2000 => w.toNat % 4096
  | 0x3000 => if x = lowByte w then pc + 4 else pc + 2
  | 0x4000 => if x ≠ lowByte w then pc + 4 else pc + 2
  | 0x5000 => if x = y then pc + 4 else pc + 2
  | 0x9000 => if x ≠ y then pc + 4 else pc + 2
  | 0xB000 => w.toNat % 4096 + (m.v.get (.ofNat 0)).toNat
  | 0xE09E => if down then pc + 4 else pc + 2
  | 0xE0A1 => if ¬ down then pc + 4 else pc + 2
  | 0xF00A => if m.keypad.anyDown then pc + 2 else pc
  | _ => pc + 2

/-- Words that test the same operands, the one for what the other one excludes. -/
inductive Opposite (w w' : UInt16) : Prop where
  | byte (h : opcode w = 0x3000) (h' : opcode w' = 0x4000) (x : nibble w' 2 = nibble w 2)
    (b : lowByte w' = lowByte w)
  | register (h : opcode w = 0x5000) (h' : opcode w' = 0x9000) (x : nibble w' 2 = nibble w 2)
    (y : nibble w' 1 = nibble w 1)
  | key (h : opcode w = 0xE09E) (h' : opcode w' = 0xE0A1) (x : nibble w' 2 = nibble w 2)

variable {m t : Machine} {w w' : UInt16} {i : Instruction 16} {f : Flow}

/-! ### One instruction -/

lemma Executes.flow_eq (h : Executes m i f t) : f = i.flow m := by
  cases h with
  | ret h =>
    rw [Instruction.flow, CallStack.toList_pop h, List.getLastD_concat]
  | keepWaiting x h =>
    have hnone : m.keypad.anyDown = false := by
      rw [Keypad.anyDown, List.head?_eq_none_iff.mp h]
      rfl
    rw [Instruction.flow, if_neg (by simp [hnone])]
  | takeKey x h => rw [Instruction.flow, if_pos (anyDown_of_firstDown h)]
  | _ => rfl

/-- The sum of a jump address and a register is not cut off. -/
lemma toNat_lowAddress_add (w : UInt16) (b : UInt8) :
    (lowAddress w + b.toUInt16).toNat = w.toNat % 4096 + b.toNat := by
  have hb := b.toNat_lt
  rw [UInt16.toNat_add, toNat_lowAddress, UInt8.toNat_toUInt16]
  omega

lemma target_jump (pc a : UInt16) : (Flow.jump a).target pc = a := rfl

lemma target_hold (pc : UInt16) : Flow.hold.target pc = pc := rfl

section

variable (h : m.pc.toNat + 2 ≤ 4096)
include h

lemma toNat_target_next : (Flow.next.target m.pc).toNat = m.pc.toNat + 2 := by
  simp only [Flow.target, UInt16.toNat_add, UInt16.reduceToNat]
  omega

lemma toNat_target_skipIf (b : Bool) :
    ((Flow.skipIf b).target m.pc).toNat = if b then m.pc.toNat + 4 else m.pc.toNat + 2 := by
  cases b
  · exact toNat_target_next h
  · simp only [Flow.skipIf, if_true, Flow.target, UInt16.toNat_add, UInt16.reduceToNat]
    omega

/-- In the table each word goes where its digits say. -/
lemma toNat_target_flow (w : UInt16) :
    (((Instruction.table w).flow m).target m.pc).toNat = m.successor w := by
  have hnext := toNat_target_next h
  have hskip := toNat_target_skipIf h
  unfold Instruction.table successor
  dsimp only
  split
  case h_35 => split <;> first | grind | exact hnext
  all_goals
    next hop =>
      simp only [hop, Instruction.flow, apply_ite (Flow.target m.pc), apply_ite UInt16.toNat,
        target_jump, target_hold, hskip, hnext, toNat_lowAddress, toNat_lowAddress_add, beq_iff_eq,
        bne_iff_ne, Bool.not_eq_true', Bool.not_eq_true]

end

/-- A machine that stands past the last word cannot go on. -/
lemma fault?_of_past (hl : m.memory.isLoaded) (hpast : 0xFFE < m.pc.toNat) :
    m.fault? = some (.memory (.outOfBounds (max m.pc 0x1000))) := by
  unfold fault?
  rw [if_neg (Option.isSome_iff_ne_none.mp hl), if_neg (by omega), if_pos hpast]

/-- One of two opposite words skips, and the other one does not. -/
lemma Opposite.executes (h : Opposite w w') (m : Machine) : ∃ b, ∀ memory,
    Executes { m with memory } (Instruction.table w) (.skipIf b) { m with memory } ∧
    Executes { m with memory } (Instruction.table w') (.skipIf !b) { m with memory } := by
  cases h with
  | byte h h' x b =>
    refine ⟨m.v.get (nibble w 2) == lowByte w, fun memory => ?_⟩
    simp only [Instruction.table, h, h', x, b]
    exact ⟨.skipEqByte _ _, .skipNeByte _ _⟩
  | register h h' x y =>
    refine ⟨m.v.get (nibble w 2) == m.v.get (nibble w 1), fun memory => ?_⟩
    simp only [Instruction.table, h, h', x, y]
    exact ⟨.skipEq _ _, .skipNe _ _⟩
  | key h h' x =>
    refine ⟨m.keypad.isDown (m.v.get (nibble w 2)), fun memory => ?_⟩
    simp only [Instruction.table, h, h', x]
    exact ⟨.skipKeyDown _, .skipKeyUp _⟩

/-! ### One step -/

lemma toNat_pc_of_step (hw : m.memory.fetch m.pc = .ok w) (h : step.run m = .ok () t) :
    t.pc.toNat = m.successor w := by
  obtain ⟨f, u, hr, rfl⟩ := (step_eq_ok_iff_of_fetch hw).mp h
  have hpc := (Memory.checkWritable_eq_ok_iff.mp (Memory.fetch_eq_ok_iff.mp hw).1).2.2
  rw [pc_finish, hr.flow_eq, toNat_target_flow hpc]

/-- A step on a return finds an address on the stack. -/
lemma stack_of_step_ret (hw : m.memory.fetch m.pc = .ok w) (h : step.run m = .ok () t)
    (hop : opcode w = 0x00EE) : m.stack.toList = t.stack.toList ++ [t.pc] := by
  obtain ⟨f, u, hr, rfl⟩ := (step_eq_ok_iff_of_fetch hw).mp h
  simp only [Instruction.table, hop] at hr
  cases hr with
  | ret hpop => exact CallStack.toList_pop hpop

/-- A jump past the last word comes off; the step after it fails. -/
lemma step_of_jumpOffset_past (hw : m.memory.fetch m.pc = .ok w) (h : step.run m = .ok () t)
    (hop : opcode w = 0xB000) (hpast : 0xFFE < t.pc.toNat) :
    step.run t = .error (.memory (.outOfBounds (max t.pc 0x1000))) t := by
  obtain ⟨f, u, hr, rfl⟩ := (step_eq_ok_iff_of_fetch hw).mp h
  simp only [Instruction.table, hop] at hr
  cases hr with
  | jumpOffset a =>
    exact step_eq_error_iff_fault?.mpr ⟨rfl, fault?_of_past (Memory.isLoaded_of_fetch hw) hpast⟩

/-- **A step goes where the word that it fetched says**, by the state before it. A jump past the
last word is noticed by the step after it. Of two opposite words, which can only stand in two
different memories, one skips and the other one does not, and nothing else tells the machines after
them apart. -/
theorem step_goes_to_successor :
    (∀ (m t : Machine) (w : UInt16), m.memory.fetch m.pc = .ok w → step.run m = .ok () t →
      t.pc.toNat = m.successor w ∧
      (opcode w = 0x00EE → m.stack.toList = t.stack.toList ++ [t.pc]) ∧
      (opcode w = 0xB000 → 0xFFE < t.pc.toNat →
        step.run t = .error (.memory (.outOfBounds (max t.pc 0x1000))) t)) ∧
    ∀ (m : Machine) (memory : Memory) (w w' : UInt16), Opposite w w' →
      m.memory.fetch m.pc = .ok w → memory.fetch m.pc = .ok w' →
      ∃ t t', step.run m = .ok () t ∧ step.run { m with memory } = .ok () t' ∧
        t.memory = m.memory ∧ t' = { t with memory, pc := t'.pc } ∧
        (t.pc = m.pc + 4 ∧ t'.pc = m.pc + 2 ∨ t.pc = m.pc + 2 ∧ t'.pc = m.pc + 4) := by
  refine ⟨fun m t w hw h => ⟨toNat_pc_of_step hw h, stack_of_step_ret hw h,
    step_of_jumpOffset_past hw h⟩, fun m memory w w' hopposite hw hw' => ?_⟩
  obtain ⟨b, hb⟩ := hopposite.executes m
  have ht := step_of_executes (instruction?_of_fetch hw) (hb m.memory).1
  have ht' := step_of_executes (m := { m with memory }) (instruction?_of_fetch hw') (hb memory).2
  refine ⟨_, _, ht, ht', rfl, rfl, ?_⟩
  cases b
  · exact .inr ⟨rfl, rfl⟩
  · exact .inl ⟨rfl, rfl⟩

/-- A jump past the last word, a return to the address that is on the stack, and two opposite words
on a machine whose registers are all zero. -/
theorem step_goes_to_successor_zero :
    (∃ m t, m.memory.fetch m.pc = .ok 0xBFFF ∧ step.run m = .ok () t ∧
      step.run t = .error (.memory (.outOfBounds 0x1000)) t) ∧
    (∃ m t, m.memory.fetch m.pc = .ok 0x00EE ∧ m.stack.toList = [0x208] ∧
      step.run m = .ok () t ∧ t.pc.toNat = 0x208 ∧ t.stack.toList = []) ∧
    ∃ m memory t t', m.memory.fetch m.pc = .ok 0x3000 ∧ memory.fetch m.pc = .ok 0x4000 ∧
      step.run m = .ok () t ∧ step.run { m with memory } = .ok () t' ∧
      t.pc.toNat = 0x204 ∧ t'.pc.toNat = 0x202 := by
  obtain ⟨hstep, hopposite⟩ := step_goes_to_successor
  have hload (hi lo : UInt8) : ∃ m, Fresh [hi, lo] m ∧
      m.memory.fetch m.pc = .ok (ofBytes hi lo) := by
    obtain ⟨m, hm⟩ := (new {} (.chaCha .zero)).load_accepted (p := [hi, lo]) (by simp) (by simp)
    exact ⟨m, fresh_of_load hm, (fresh_of_load hm).fetch_pc⟩
  refine ⟨?_, ?_, ?_⟩
  · obtain ⟨m, hm, hw⟩ := hload 0xBF 0xFF
    have ht := step_of_executes (instruction?_of_fetch hw) (.jumpOffset 0xFFF)
    obtain ⟨hpc, -, hfails⟩ := hstep m _ _ hw ht
    have hpast : m.successor 0xBFFF = 0xFFF := by
      change 0xFFF + (m.v.get 0).toNat = 0xFFF
      rw [hm.v]
      rfl
    have hnat := hpc.trans hpast
    refine ⟨m, _, hw, ht, ?_⟩
    rw [hfails rfl (by omega), show _ = (0xFFF : UInt16) from UInt16.toNat_inj.mp hnat]
    rfl
  · obtain ⟨m, -, hw⟩ := hload 0x00 0xEE
    let stack : CallStack := { slots := Vector.replicate 16 0x208, depth := 1 }
    have ht := step_of_executes (m := { m with stack }) (instruction?_of_fetch hw) (.ret rfl)
    obtain ⟨hpc, hret, -⟩ := hstep { m with stack } _ _ hw ht
    exact ⟨{ m with stack }, _, hw, rfl, ht, hpc, (List.append_inj' (hret rfl).symm rfl).1⟩
  · obtain ⟨m, hm, hw⟩ := hload 0x30 0x00
    obtain ⟨n, hn, hw'⟩ := hload 0x40 0x00
    rw [hn.pc, ← hm.pc] at hw'
    have hequal : Opposite (ofBytes 0x30 0x00) (ofBytes 0x40 0x00) := .byte rfl rfl rfl rfl
    obtain ⟨t, t', ht, ht', -, -, hpc⟩ := hopposite m n.memory _ _ hequal hw hw'
    have hskips : t.pc.toNat = 0x204 := by
      rw [(hstep m t _ hw ht).1]
      change (if m.v.get 0 = 0 then m.pc.toNat + 4 else m.pc.toNat + 2) = 0x204
      rw [hm.v, hm.pc]
      rfl
    rw [hm.pc] at hpc
    refine ⟨m, n.memory, t, t', hw, hw', ht, ht', hskips, ?_⟩
    rcases hpc with ⟨-, h⟩ | ⟨h, -⟩
    · rw [h]
      rfl
    · rw [h] at hskips
      exact absurd hskips (by decide)

end Machine

end Chip8
