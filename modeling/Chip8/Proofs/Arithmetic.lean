import Chip8.Proofs.Chronicle

/-!
Arithmetic on registers.

The sums, the differences and the shifts leave a result of eight bits, and in the flag what does not
fit there. Both come from the values before the instruction, and the flag is written first: when it
is the destination itself, the result stays. The copies, the bitwise instructions and the sum with
a byte of the program have no flag.
-/

namespace Chip8.Machine

open Word

/-- `Sets x result v v'`: register `Vx` of bank `v` becomes a result, and no other changes. -/
structure Sets (x : Nibble) (result : Nat) (v v' : Bank UInt8) : Prop where
  result : (v'.get x).toNat = result
  others : ∀ k, k ≠ x → v'.get k = v.get k

/-- `SetsWithFlag x result law v v'`: register `Vx` of bank `v` becomes a result, the flag follows
from it by a law, and no other register changes. If `Vx` is the flag, then it is the result. -/
structure SetsWithFlag (x : Nibble) (result : Nat) (law : Nat → Nat → Prop)
    (v v' : Bank UInt8) : Prop where
  result : (v'.get x).toNat = result
  law : x ≠ flag → law (v'.get x).toNat (v'.get flag).toNat
  flag_le : x ≠ flag → (v'.get flag).toNat ≤ 1
  others : ∀ k, k ≠ x → k ≠ flag → v'.get k = v.get k

/-! ### Results and flags of eight bits -/

lemma toNat_decide_cases (p : Prop) [Decidable p] :
    p ∧ (decide p).toNat = 1 ∨ ¬ p ∧ (decide p).toNat = 0 := by
  by_cases hp : p
  · exact .inl ⟨hp, by simp [hp]⟩
  · exact .inr ⟨hp, by simp [hp]⟩

lemma toNat_difference (a b : UInt8) : (a - b).toNat = (a.toNat + 256 - b.toNat) % 256 := by
  have hb := b.toNat_lt
  rw [UInt8.toNat_sub]
  congr 1
  omega

lemma toNat_double (a : UInt8) : (2 * a).toNat = 2 * a.toNat % 256 :=
  UInt8.toNat_mul ..

/-- The carry of a sum. -/
lemma sum_carry (a b : UInt8) :
    (a + b).toNat + 256 * (decide (255 < a.toNat + b.toNat)).toNat = a.toNat + b.toNat := by
  have ha := a.toNat_lt
  have hb := b.toNat_lt
  rw [UInt8.toNat_add]
  rcases toNat_decide_cases (255 < a.toNat + b.toNat) with ⟨h, hbit⟩ | ⟨h, hbit⟩
  · omega
  · omega

/-- A difference borrows unless its flag is set. Equal operands do not borrow. -/
lemma difference_borrow (a b : UInt8) : ((decide (b ≤ a)).toNat = 1 ↔ b.toNat ≤ a.toNat) ∧
    (a - b).toNat + b.toNat = a.toNat + 256 * (1 - (decide (b ≤ a)).toNat) := by
  have ha := a.toNat_lt
  have hb := b.toNat_lt
  rw [toNat_difference]
  rcases toNat_decide_cases (b ≤ a) with ⟨h, hbit⟩ | ⟨h, hbit⟩
  · rw [UInt8.le_iff_toNat_le] at h
    omega
  · rw [UInt8.le_iff_toNat_le] at h
    omega

/-- The bit that is shifted out on the right. -/
lemma half_rest (a : UInt8) : 2 * (a / 2).toNat + (decide (a % 2 = 1)).toNat = a.toNat := by
  have hodd : a % 2 = 1 ↔ a.toNat % 2 = 1 := by
    rw [← UInt8.toNat_inj, UInt8.toNat_mod]
    rfl
  rw [UInt8.toNat_div]
  rcases toNat_decide_cases (a % 2 = 1) with ⟨h, hbit⟩ | ⟨h, hbit⟩
  · rw [hodd] at h
    rw [hbit, show UInt8.toNat 2 = 2 from rfl]
    omega
  · rw [hodd] at h
    rw [hbit, show UInt8.toNat 2 = 2 from rfl]
    omega

/-- The bit that is shifted out on the left. -/
lemma double_carry (a : UInt8) :
    (2 * a).toNat + 256 * (decide (128 ≤ a)).toNat = 2 * a.toNat := by
  have ha := a.toNat_lt
  rw [toNat_double]
  rcases toNat_decide_cases (128 ≤ a) with ⟨h, hbit⟩ | ⟨h, hbit⟩
  · rw [UInt8.le_iff_toNat_le, show UInt8.toNat 128 = 128 from rfl] at h
    omega
  · rw [UInt8.le_iff_toNat_le, show UInt8.toNat 128 = 128 from rfl] at h
    omega

/-! ### Registers -/

section

variable {v : Bank UInt8} {x : Nibble} {r : UInt8} {result : Nat}

lemma sets_set (hr : r.toNat = result) : Sets x result v (v.set x r) where
  result := by rw [Bank.get_set_self, hr]
  others k hk := by rw [Bank.get_set, if_neg hk.symm]

/-- The flag is set before the result. -/
lemma setsWithFlag_set {b : Bool} {law : Nat → Nat → Prop} (hr : r.toNat = result)
    (hlaw : law r.toNat b.toNat) :
    SetsWithFlag x result law v ((v.set flag (if b then 1 else 0)).set x r) := by
  have hflag (hx : x ≠ flag) :
      (((v.set flag (if b then 1 else 0)).set x r).get flag).toNat = b.toNat := by
    rw [Bank.get_set, if_neg hx, Bank.get_set_self]
    cases b <;> rfl
  refine ⟨by rw [Bank.get_set_self, hr], fun hx => ?_, fun hx => ?_, fun k hk hkf => ?_⟩
  · rw [hflag hx, Bank.get_set_self]
    exact hlaw
  · rw [hflag hx]
    exact b.toNat_le
  · rw [Bank.get_set, if_neg hk.symm, Bank.get_set, if_neg hkf.symm]

end

/-! ### Steps -/

/-- A step comes off and goes on to the next instruction. The registers change as given, and the
rest of the machine only as it does at every step. -/
def StepChanges (m : Machine) (change : Bank UInt8 → Bank UInt8 → Prop) : Prop :=
  ∃ v, step.run m = .ok () ({ m with v }.finish (m.pc + 2)) ∧ change m.v v

variable {m : Machine} {w : UInt16}

lemma stepChanges_of_executes {i : Instruction 16} {v : Bank UInt8}
    {change : Bank UInt8 → Bank UInt8 → Prop} (hw : m.memory.fetch m.pc = .ok w)
    (hi : Instruction.table w = i) (h : Executes m i .next { m with v }) (hv : change m.v v) :
    m.StepChanges change :=
  ⟨v, step_of_executes (hi ▸ instruction?_of_fetch hw) h, hv⟩

/-- **Arithmetic on registers**, whichever of them are the operands and the destination. -/
theorem step_arithmetic (hw : m.memory.fetch m.pc = .ok w) :
    let x := nibble w 2
    let y := nibble w 1
    let a := (m.v.get x).toNat
    let b := (m.v.get y).toNat
    (opcode w = 0x8004 →
      m.StepChanges (SetsWithFlag x ((a + b) % 256) fun r f => r + 256 * f = a + b)) ∧
    (opcode w = 0x8005 →
      m.StepChanges (SetsWithFlag x ((a + 256 - b) % 256) fun r f =>
        (f = 1 ↔ b ≤ a) ∧ r + b = a + 256 * (1 - f))) ∧
    (opcode w = 0x8007 →
      m.StepChanges (SetsWithFlag x ((b + 256 - a) % 256) fun r f =>
        (f = 1 ↔ a ≤ b) ∧ r + a = b + 256 * (1 - f))) ∧
    (opcode w = 0x8006 → m.StepChanges (SetsWithFlag x (a / 2) fun r f => 2 * r + f = a)) ∧
    (opcode w = 0x800E →
      m.StepChanges (SetsWithFlag x (2 * a % 256) fun r f => r + 256 * f = 2 * a)) ∧
    (opcode w = 0x7000 → m.StepChanges (Sets x ((a + (lowByte w).toNat) % 256))) ∧
    (opcode w = 0x8000 → m.StepChanges (Sets x b)) ∧
    (opcode w = 0x8001 → m.StepChanges (Sets x (a ||| b))) ∧
    (opcode w = 0x8002 → m.StepChanges (Sets x (a &&& b))) ∧
    (opcode w = 0x8003 → m.StepChanges (Sets x (a ^^^ b))) := by
  intro x y a b
  refine ⟨fun h => ?_, fun h => ?_, fun h => ?_, fun h => ?_, fun h => ?_, fun h => ?_, fun h => ?_,
    fun h => ?_, fun h => ?_, fun h => ?_⟩
  · have hi : Instruction.table w = .add x y := by simp only [Instruction.table, h, x, y]
    exact stepChanges_of_executes hw hi (.add x y)
      (setsWithFlag_set (UInt8.toNat_add ..) (sum_carry ..))
  · have hi : Instruction.table w = .sub x y := by simp only [Instruction.table, h, x, y]
    exact stepChanges_of_executes hw hi (.sub x y)
      (setsWithFlag_set (toNat_difference ..) (difference_borrow ..))
  · have hi : Instruction.table w = .subFrom x y := by simp only [Instruction.table, h, x, y]
    exact stepChanges_of_executes hw hi (.subFrom x y)
      (setsWithFlag_set (toNat_difference ..) (difference_borrow ..))
  · have hi : Instruction.table w = .shiftRight x := by simp only [Instruction.table, h, x]
    exact stepChanges_of_executes hw hi (.shiftRight x)
      (setsWithFlag_set (UInt8.toNat_div ..) (half_rest ..))
  · have hi : Instruction.table w = .shiftLeft x := by simp only [Instruction.table, h, x]
    exact stepChanges_of_executes hw hi (.shiftLeft x)
      (setsWithFlag_set (toNat_double ..) (double_carry ..))
  · have hi : Instruction.table w = .addByte x (lowByte w) := by simp only [Instruction.table, h, x]
    exact stepChanges_of_executes hw hi (.addByte x (lowByte w))
      (sets_set (UInt8.toNat_add ..))
  · have hi : Instruction.table w = .copy x y := by simp only [Instruction.table, h, x, y]
    exact stepChanges_of_executes hw hi (.copy x y)
      (sets_set rfl)
  · have hi : Instruction.table w = .bitOr x y := by simp only [Instruction.table, h, x, y]
    exact stepChanges_of_executes hw hi (.bitOr x y)
      (sets_set (UInt8.toNat_or ..))
  · have hi : Instruction.table w = .bitAnd x y := by simp only [Instruction.table, h, x, y]
    exact stepChanges_of_executes hw hi (.bitAnd x y)
      (sets_set (UInt8.toNat_and ..))
  · have hi : Instruction.table w = .bitXor x y := by simp only [Instruction.table, h, x, y]
    exact stepChanges_of_executes hw hi (.bitXor x y)
      (sets_set (UInt8.toNat_xor ..))

/-- A register is subtracted from itself: nothing is borrowed. -/
theorem step_arithmetic_equal : ∃ (m : Machine) (v : Bank UInt8),
    m.memory.fetch m.pc = .ok 0x8115 ∧ m.v.get 1 = 5 ∧
    step.run m = .ok () ({ m with v }.finish (m.pc + 2)) ∧
    (v.get 1).toNat = 0 ∧ (v.get flag).toNat = 1 ∧ v.get 2 = m.v.get 2 := by
  obtain ⟨n, hload⟩ := (new {} (.chaCha .zero)).load_accepted (p := [0x81, 0x15])
    (by decide) (by decide)
  have hn := fresh_of_load hload
  obtain ⟨m, hm⟩ : ∃ m : Machine, m = { n with v := n.v.set 1 5 } := ⟨_, rfl⟩
  have hw : m.memory.fetch m.pc = .ok 0x8115 := by
    rw [hm]
    exact hn.fetch_pc
  have hx : m.v.get 1 = 5 := by
    rw [hm]
    exact Bank.get_set_self ..
  obtain ⟨v, hstep, hv⟩ := (step_arithmetic hw).2.1 (by decide)
  obtain ⟨hflag, -⟩ := hv.law (by decide)
  refine ⟨m, v, hw, hx, hstep, ?_, hflag.mpr (Nat.le_refl _), hv.others 2 (by decide) (by decide)⟩
  rw [show nibble 0x8115 2 = 1 from rfl, show nibble 0x8115 1 = 1 from rfl, hx] at hv
  exact hv.result

end Chip8.Machine
