import Chip8.Proofs.Chronicle
import Chip8.Proofs.Listing
import Chip8.Proofs.Reload

/-!
When a step fails, and with which error.

The checks come one after another: a program was loaded, the instruction can be fetched, the call
stack has what a return takes or room for what a call leaves, and the block at the index may be
accessed. A step that passes them comes off, also for unknown words.
-/

namespace Chip8

namespace Memory

/-- The addresses of a block all lie between two addresses. -/
def Within (first last a n : Nat) : Prop := ∀ i < n, first ≤ a + i ∧ a + i ≤ last

instance (first last a n : Nat) : Decidable (Within first last a n) :=
  inferInstanceAs (Decidable (∀ i < n, _))

/-- The error for a block that may not be accessed: the first of its addresses that is not in
memory, or its first address if they all are. -/
def refusal (a : UInt16) (n : Nat) : MemoryError :=
  .outOfBounds (if 0x1000 < a.toNat + n then max a 0x1000 else a)

/-- The error of reading a block, if it may not be read: it has to lie among the glyphs or in the
program region. -/
def readFault? (a : UInt16) (n : Nat) : Option MemoryError :=
  if Within 0x050 0x09F a.toNat n ∨ Within 0x200 0xFFF a.toNat n then none else some (refusal a n)

/-- The error of writing a block, if it may not be written: it has to lie in the program region. -/
def writeFault? (a : UInt16) (n : Nat) : Option MemoryError :=
  if Within 0x200 0xFFF a.toNat n then none else some (refusal a n)

variable {m : Memory} {a : UInt16} {n first last : Nat} {e : MemoryError}

lemma within_iff {a : Nat} (hn : 0 < n) :
    Within first last a n ↔ first ≤ a ∧ a + n ≤ last + 1 := by
  constructor
  · intro h
    have hfirst := h 0 hn
    have hlast := h (n - 1) (by omega)
    omega
  · intro h i hi
    omega

lemma checkWritable_eq (hl : m.isLoaded) (hn : 0 < n) : m.checkWritable a n =
    if Within 0x200 0xFFF a.toNat n then .ok () else .error (refusal a n) := by
  rw [checkWritable_of_isLoaded hl, refusal]
  simp only [within_iff hn]
  split_ifs <;> first | rfl | omega

lemma checkReadable_eq (hl : m.isLoaded) (hn : 0 < n) : m.checkReadable a n =
    if Within 0x050 0x09F a.toNat n ∨ Within 0x200 0xFFF a.toNat n then .ok ()
    else .error (refusal a n) := by
  rw [checkReadable, checkWritable_eq hl hn]
  by_cases hglyphs : Within 0x050 0x09F a.toNat n
  · rw [if_pos ⟨hl, (within_iff hn).mp hglyphs⟩, if_pos (.inl hglyphs)]
  · rw [if_neg fun h => hglyphs ((within_iff hn).mpr h.2)]
    simp only [hglyphs, false_or]

/-- An access fails where its check does. -/
lemma check_bind_eq_error_iff {α : Type} {check : Except MemoryError Unit} {v : α} :
    (do check; return v : Except MemoryError α) = .error e ↔ check = .error e := by
  cases check with
  | error c => simp [bind, Except.bind]
  | ok u => simp [bind, Except.bind, pure, Except.pure]

lemma readBlock_eq_error_iff (hl : m.isLoaded) (hn : 0 < n) :
    m.readBlock a n = .error e ↔ readFault? a n = some e := by
  rw [readBlock, check_bind_eq_error_iff, checkReadable_eq hl hn, readFault?]
  split <;> simp

lemma writeBlock_eq_error_iff {data : List UInt8} (hl : m.isLoaded) (hn : 0 < n)
    (hlen : data.length = n) :
    (writeBlock a data).run m = .error e m ↔ writeFault? a n = some e := by
  rw [writeBlock_refused_iff, and_iff_right rfl, hlen, checkWritable_eq hl hn, writeFault?]
  split <;> simp

end Memory

open Memory in
/-- The error that an instruction fails with, if it does. -/
def Instruction.fault? (m : Machine) : Instruction 16 → Option StepError
  | ret => if m.stack.depth = 0 then some (.stackUnderflow m.pc) else none
  | call _ => if m.stack.depth = 16 then some (.stackOverflow m.pc) else none
  | draw _ _ n => (readFault? m.index n.toNat).map .memory
  | restore x => (readFault? m.index (x + 1)).map .memory
  | decimal _ => (writeFault? m.index 3).map .memory
  | save x => (writeFault? m.index (x + 1)).map .memory
  | _ => none

namespace Machine

open Instruction Memory

/-- The error that the next step fails with, if it does. -/
def fault? (m : Machine) : Option StepError :=
  let pc := m.pc.toNat
  let w := Word.ofBytes (m.memory.byte pc) (m.memory.byte (pc + 1))
  if m.memory.programSize = none then some (.memory .notLoaded)
  else if pc < 0x200 then some (.memory (.outOfBounds m.pc))
  else if 0xFFE < pc then some (.memory (.outOfBounds (max m.pc 0x1000)))
  else (table w).fault? m

variable {m t : Machine} {i : Instruction 16} {e : StepError}

/-! ### One instruction -/

/-- A sprite without rows is not read. -/
lemma sprite_eq_error_iff {n : UInt8} {c : MemoryError} (hl : m.memory.isLoaded) :
    m.sprite n = .error c ↔ readFault? m.index n.toNat = some c := by
  unfold sprite
  split
  next hn =>
    rw [hn]
    simp [readFault?, Within]
  next hn => exact readBlock_eq_error_iff hl (Nat.pos_of_ne_zero fun h => hn (UInt8.toNat_inj.mp h))

/-- The rules that fail, by the instruction. -/
lemma fails_iff (hl : m.memory.isLoaded) : Fails m i e ↔ i.fault? m = some e := by
  cases i with
  | ret =>
    rw [Instruction.fault?, Option.ite_none_right_eq_some, Option.some_inj,
      ← CallStack.pop?_eq_none_iff]
    exact ⟨fun | .ret h => ⟨h, rfl⟩, fun ⟨h, he⟩ => he ▸ .ret h⟩
  | call a =>
    rw [Instruction.fault?, Option.ite_none_right_eq_some, Option.some_inj,
      ← CallStack.push?_eq_none_iff (a := m.pc + 2)]
    exact ⟨fun | .call _ h => ⟨h, rfl⟩, fun ⟨h, he⟩ => he ▸ .call a h⟩
  | draw x y n =>
    simp only [Instruction.fault?, Option.map_eq_some_iff, ← sprite_eq_error_iff hl]
    exact ⟨fun | .draw _ _ _ h => ⟨_, h, rfl⟩, fun ⟨_, h, he⟩ => he ▸ .draw x y n h⟩
  | decimal x =>
    have hlen : (decimalDigits (m.v.get x)).length = 3 := rfl
    simp only [Instruction.fault?, Option.map_eq_some_iff,
      ← writeBlock_eq_error_iff hl (Nat.succ_pos 2) hlen]
    exact ⟨fun | .decimal _ h => ⟨_, h, rfl⟩, fun ⟨_, h, he⟩ => he ▸ .decimal x h⟩
  | save x =>
    have hlen : (m.v.toList.take (x + 1)).length = x + 1 := length_data m (.save x)
    simp only [Instruction.fault?, Option.map_eq_some_iff,
      ← writeBlock_eq_error_iff hl (Nat.succ_pos x.val) hlen]
    exact ⟨fun | .save _ h => ⟨_, h, rfl⟩, fun ⟨_, h, he⟩ => he ▸ .save x h⟩
  | restore x =>
    simp only [Instruction.fault?, Option.map_eq_some_iff,
      ← readBlock_eq_error_iff hl (Nat.succ_pos x.val)]
    exact ⟨fun | .restore _ h => ⟨_, h, rfl⟩, fun ⟨_, h, he⟩ => he ▸ .restore x h⟩
  | _ => exact ⟨nofun, nofun⟩

/-! ### One step -/

lemma fails_of_fetch_error {c : MemoryError} (h : m.memory.fetch m.pc = .error c) :
    step.run m = .error e t ↔ t = m ∧ .memory c = e := by
  rw [step_of_fetch_error h]
  constructor
  · rintro ⟨⟩
    exact ⟨rfl, rfl⟩
  · rintro ⟨rfl, rfl⟩
    rfl

lemma fails_of_fetch {w : UInt16} (h : m.memory.fetch m.pc = .ok w) :
    step.run m = .error e t ↔ t = m ∧ Fails m (table w) e := by
  rw [step_eq_error_iff, instruction?_of_fetch h, h]
  simp

/-- A step fails with the error that it is said to fail with, and changes nothing. -/
lemma step_eq_error_iff_fault? : step.run m = .error e t ↔ t = m ∧ m.fault? = some e := by
  unfold fault?
  dsimp only
  split_ifs with hsize hlow hhigh
  · have hfetch : m.memory.fetch m.pc = .error .notLoaded := by
      rw [fetch, check_bind_eq_error_iff, checkWritable, if_neg (by simp [isLoaded, hsize])]
    rw [fails_of_fetch_error hfetch, Option.some_inj]
  all_goals have hl : m.memory.isLoaded := Option.isSome_iff_ne_none.mpr hsize
  · have hfetch : m.memory.fetch m.pc = .error (.outOfBounds m.pc) := by
      rw [fetch, check_bind_eq_error_iff, checkWritable_of_isLoaded hl, if_neg (by omega),
        if_pos hlow]
    rw [fails_of_fetch_error hfetch, Option.some_inj]
  · have hfetch : m.memory.fetch m.pc = .error (.outOfBounds (max m.pc 0x1000)) := by
      rw [fetch, check_bind_eq_error_iff, checkWritable_of_isLoaded hl, if_pos (by omega)]
    rw [fails_of_fetch_error hfetch, Option.some_inj]
  · have hfetch : m.memory.fetch m.pc = .ok _ :=
      fetch_eq_ok_iff.mpr ⟨checkWritable_eq_ok_iff.mpr ⟨hl, by omega, by omega⟩, rfl⟩
    rw [fails_of_fetch hfetch, fails_iff hl]

/-! ### Whether a program was ever loaded -/

/-- Nothing is loaded as long as all loads are refused. -/
lemma programSize_act_eq_none_iff (a : Action) : (m.act a).memory.programSize = none ↔
    m.memory.programSize = none ∧ ∀ p, a = .load p → p = [] ∨ 3584 < p.length := by
  by_cases ha : ∃ p, a = .load p
  · obtain ⟨p, rfl⟩ := ha
    simp only [Action.load.injEq, forall_eq']
    by_cases hp : p = [] ∨ 3584 < p.length
    · have hrefused : ∃ c, (Machine.load p).run m = .error c m := by
        rcases hp with rfl | hp
        · exact ⟨_, load_nil m⟩
        · exact ⟨_, load_of_tooLarge m hp⟩
      obtain ⟨c, hc⟩ := hrefused
      rw [act, state_of_error hc]
      exact (and_iff_left hp).symm
    · rw [not_or] at hp
      obtain ⟨t, ht⟩ := m.load_accepted hp.1 (by omega)
      have hl : (m.act (.load p)).memory.isLoaded := by
        rw [act_load_of_ok ht]
        exact (fresh_of_load ht).isLoaded
      simp [Option.isSome_iff_ne_none.mp hl, hp]
  · rw [not_exists] at ha
    rw [programSize_act ha]
    exact ⟨fun h => ⟨h, fun p hp => absurd hp (ha p)⟩, fun h => h.1⟩

lemma programSize_after_eq_none_iff (history : List Action) :
    (m.after history).memory.programSize = none ↔
      m.memory.programSize = none ∧ ∀ p, .load p ∈ history → p = [] ∨ 3584 < p.length := by
  induction history generalizing m with
  | nil => simp
  | cons a as ih =>
    rw [after_cons, ih, programSize_act_eq_none_iff, and_assoc]
    simp only [List.mem_cons, or_imp, forall_and, eq_comm]

lemma fault?_eq_notLoaded_iff : m.fault? = some (.memory .notLoaded) ↔
    m.memory.programSize = none := by
  have hinstruction (i : Instruction 16) : i.fault? m ≠ some (.memory .notLoaded) := by
    cases i <;> simp [Instruction.fault?, readFault?, writeFault?, refusal]
  unfold fault?
  dsimp only
  split_ifs with hsize
  · simp [hsize]
  · simp [hsize]
  · simp [hsize]
  · simp [hsize, hinstruction]

/-- **A step fails with the error that it is said to fail with**, and comes off if there is none.
After it was powered on, a machine has nothing loaded until a load is accepted. -/
theorem step_fails_iff :
    (∀ (m t : Machine) (e : StepError), step.run m = .error e t ↔ t = m ∧ m.fault? = some e) ∧
    (∀ m : Machine, (∃ t, step.run m = .ok () t) ↔ m.fault? = none) ∧
    ∀ (c : Config) (keypad : Keypad) (generator : Generator) (history : List Action),
      let m := (poweredOn c keypad generator).after history
      step.run m = .error (.memory .notLoaded) m ↔
        ∀ p, .load p ∈ history → p = [] ∨ 3584 < p.length := by
  refine ⟨fun m t e => step_eq_error_iff_fault?, fun m => ?_, fun c keypad generator history => ?_⟩
  · rcases h : step.run m with ⟨⟨⟩, t⟩ | ⟨e, t⟩
    · rcases hfault : m.fault? with _ | e
      · simp
      · simp [step_eq_error_iff_fault?.mpr ⟨rfl, hfault⟩] at h
    · have hfault := (step_eq_error_iff_fault?.mp h).2
      simp [hfault]
  · intro m
    rw [step_eq_error_iff_fault?, and_iff_right rfl, fault?_eq_notLoaded_iff,
      programSize_after_eq_none_iff]
    exact and_iff_right rfl

/-- Sprites of five rows: past the last glyph, at the end of memory, and the last glyph itself. -/
theorem step_fails_iff_glyphs : ∃ m t : Machine, m.memory.fetch m.pc = .ok 0xD015 ∧
    step.run { m with index := 0x09C } =
      .error (.memory (.outOfBounds 0x09C)) { m with index := 0x09C } ∧
    step.run { m with index := 0xFFC } =
      .error (.memory (.outOfBounds 0x1000)) { m with index := 0xFFC } ∧
    step.run { m with index := 0x09B } = .ok () t := by
  obtain ⟨m, hload⟩ := (new {} (.chaCha .zero)).load_accepted (p := [0xD0, 0x15])
    (by decide) (by decide)
  have hm := fresh_of_load hload
  have hw : m.memory.fetch m.pc = .ok 0xD015 := hm.fetch_pc
  have hfault (a : UInt16) : fault? { m with index := a } = (readFault? a 5).map .memory := by
    unfold fault?
    dsimp only
    rw [if_neg (Option.isSome_iff_ne_none.mp hm.isLoaded), hm.pc, if_neg (by decide),
      if_neg (by decide), hm.byte (by decide) (by decide), hm.byte (by decide) (by decide)]
    rfl
  obtain ⟨hfails, hruns, -⟩ := step_fails_iff
  obtain ⟨t, ht⟩ := (hruns { m with index := 0x09B }).mpr (by rw [hfault]; decide)
  refine ⟨m, t, hw, (hfails ..).mpr ⟨rfl, ?_⟩, (hfails ..).mpr ⟨rfl, ?_⟩, ht⟩
  · rw [hfault]
    decide
  · rw [hfault]
    decide

end Machine

end Chip8
