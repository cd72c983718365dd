import Chip8.Proofs.History

/-!
Where a machine can stand, and where it can go back to.

An instruction runs only inside the program region. So the program counter stays there, goes on past
its end by one skip at most, or jumps to a twelve-bit address plus a byte at most.
-/

namespace Chip8

namespace Instruction

/-- The address that an instruction holds. -/
def address? {registers : Nat} : Instruction registers → Option UInt16
  | jump a | call a | setIndex a | jumpOffset a => some a
  | _ => none

lemma address?_decodeArithmetic (w : UInt16) : (decodeArithmetic w).address? = none := by
  unfold decodeArithmetic
  split <;> rfl

lemma address?_decodeKeys (w : UInt16) : (decodeKeys w).address? = none := by
  unfold decodeKeys
  split <;> rfl

lemma address?_decodeDevices (w : UInt16) : (decodeDevices w).address? = none := by
  unfold decodeDevices
  split <;> rfl

/-- An instruction holds the lower twelve bits of its word, or no address. -/
lemma address?_decode (w : UInt16) :
    (decode w).address? = none ∨ (decode w).address? = some (Word.lowAddress w) := by
  unfold decode
  split
  case h_1 => split_ifs <;> exact .inl rfl
  case h_2 | h_3 | h_11 | h_12 => exact .inr rfl
  case h_9 => exact .inl (address?_decodeArithmetic w)
  case h_15 => exact .inl (address?_decodeKeys w)
  case h_16 => exact .inl (address?_decodeDevices w)
  all_goals exact .inl rfl

lemma toNat_lt_of_address? {w a : UInt16} (h : (decode w).address? = some a) :
    a.toNat < 4096 := by
  rcases address?_decode w with hw | hw
  · rw [hw] at h
    cases h
  · obtain rfl : Word.lowAddress w = a := Option.some.inj (hw.symm.trans h)
    rw [Word.toNat_lowAddress]
    exact Nat.mod_lt _ (by decide)

end Instruction

namespace Machine

open Instruction

variable {m t : Machine}

/-- The highest address that a jump reaches is `0xFFF` plus `0xFF`. Each return address follows a
word of the program region. -/
structure Bounded (m : Machine) : Prop where
  pc : m.pc.toNat ≤ 0x10FE
  pending : ∀ a ∈ m.stack.toList, 0x202 ≤ a.toNat ∧ a.toNat ≤ 0x1000

lemma Bounded.start (hpc : m.pc = 0x200) (hs : m.stack = .empty) : Bounded m := by
  refine ⟨?_, ?_⟩
  · rw [hpc]
    decide
  · rw [hs]
    exact nofun

/-- An instruction is fetched from the program region. -/
lemma pc_of_instruction? {i : Instruction 16} (h : m.instruction? = some i) :
    0x200 ≤ m.pc.toNat ∧ m.pc.toNat + 2 ≤ 4096 := by
  obtain ⟨w, hw, -⟩ := instruction?_eq_some_iff.mp h
  exact (Memory.checkWritable_eq_ok_iff.mp (Memory.fetch_eq_ok_iff.mp hw).1).2

lemma address_of_instruction? {i : Instruction 16} {a : UInt16} (h : m.instruction? = some i)
    (ha : i.address? = some a) : a.toNat < 4096 := by
  obtain ⟨w, -, rfl⟩ := instruction?_eq_some_iff.mp h
  exact toNat_lt_of_address? ha

lemma toNat_add_le (a b : UInt16) : (a + b).toNat ≤ a.toNat + b.toNat := by
  rw [UInt16.toNat_add]
  exact Nat.mod_le _ _

lemma target_skipIf_le (pc : UInt16) (b : Bool) :
    ((Flow.skipIf b).target pc).toNat ≤ pc.toNat + 4 := by
  cases b
  · exact Nat.le_trans (toNat_add_le pc 2) (Nat.add_le_add_left (by decide) _)
  · exact toNat_add_le pc 4

lemma target_le {i : Instruction 16} {f : Flow} (hm : Bounded m) (hi : m.instruction? = some i)
    (h : Executes m i f t) : (f.target m.pc).toNat ≤ 0x10FE := by
  have hpc := pc_of_instruction? hi
  cases h with
  | @ret a stack h =>
    have := hm.pending a (by simp [CallStack.toList_pop h])
    simp only [Flow.target]
    omega
  | jump a | call a h =>
    have := address_of_instruction? hi rfl
    simp only [Flow.target]
    omega
  | jumpOffset a =>
    have := address_of_instruction? hi rfl
    have := (m.v.get (.ofNat 0)).toNat_lt
    have := toNat_add_le a (m.v.get (.ofNat 0)).toUInt16
    simp only [UInt8.toNat_toUInt16] at this
    simp only [Flow.target]
    omega
  | keepWaiting x h => exact hm.pc
  | skipEqByte | skipNeByte | skipEq | skipNe | skipKeyDown | skipKeyUp =>
    exact Nat.le_trans (target_skipIf_le _ _) (by omega)
  | _ =>
    have : (m.pc + 2).toNat ≤ m.pc.toNat + 2 := toNat_add_le m.pc 2
    simp only [Flow.target]
    omega

lemma pending_of_executes {i : Instruction 16} {f : Flow} (hm : Bounded m)
    (hi : m.instruction? = some i) (h : Executes m i f t) {a : UInt16} (ha : a ∈ t.stack.toList) :
    0x202 ≤ a.toNat ∧ a.toNat ≤ 0x1000 := by
  cases h with
  | ret h =>
    refine hm.pending a ?_
    rw [CallStack.toList_pop h]
    exact List.mem_append_left _ ha
  | call b h =>
    rw [CallStack.toList_push h, List.mem_append, List.mem_singleton] at ha
    rcases ha with ha | rfl
    · exact hm.pending a ha
    · have hpc := pc_of_instruction? hi
      rw [UInt16.toNat_add, Nat.mod_eq_of_lt (by simp; omega)]
      simp
      omega
  | save | restore => exact hm.pending a (by simpa using ha)
  | _ => exact hm.pending a ha

/-- One action keeps the bounds. -/
lemma Bounded.act (hm : Bounded m) (a : Action) : Bounded (m.act a) := by
  cases a with
  | load p =>
    rcases act_load m p with ⟨-, ht⟩ | ⟨memory, -, -, ht⟩
    · rw [ht]
      exact hm
    · rw [ht]
      exact .start rfl rfl
  | reset => exact .start rfl rfl
  | step =>
    rcases act_step m with ⟨-, ht⟩ | hs
    · rw [ht]
      exact hm
    · obtain ⟨i, f, u, hi, hr, ht⟩ := step_eq_ok_iff.mp hs
      rw [ht]
      exact ⟨target_le hm hi hr, fun a ha => pending_of_executes hm hi hr ha⟩
  | _ => exact ⟨hm.pc, hm.pending⟩

lemma bounded (c : Config) (random : Randomness) (history : List Action) :
    Bounded ((new c random).after history) :=
  after_induction (.start rfl rfl) (fun _ a h => h.act a) history

/-- A machine counts its steps since it started. -/
lemma cycles_act_le (m : Machine) (a : Action) :
    (m.act a).cycles ≤ m.cycles + if a == .step then 1 else 0 := by
  cases a with
  | load p =>
    rcases act_load m p with ⟨-, ht⟩ | ⟨memory, -, -, ht⟩
    · rw [ht]
      exact Nat.le_add_right _ _
    · rw [ht]
      exact Nat.zero_le _
  | reset => exact Nat.zero_le _
  | step =>
    rcases act_step m with ⟨-, ht⟩ | hs
    · rw [ht]
      exact Nat.le_add_right _ _
    · obtain ⟨i, f, u, -, hr, ht⟩ := step_eq_ok_iff.mp hs
      rw [ht, cycles_finish, hr.cycles]
      exact Nat.le_refl _
  | _ => exact Nat.le_refl _

end Machine

end Chip8
