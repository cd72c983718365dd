import Chip8.Proofs.History
import Chip8.Proofs.Opcodes

/-!
What a history leaves in a log, entry by entry.

What a step adds to a log depends on the instruction that it completes. A step that fails completes
none, and leaves nothing.
-/

namespace Chip8.Machine

/-- What a history leaves in a log; `note` says what an action adds to it. -/
def log {α : Type} (note : Machine → Action → List α) (m : Machine) : List Action → List α
  | [] => []
  | a :: as => note m a ++ (m.act a).log note as

/-- The instruction that the next step completes: that of its word, in the table of opcodes. -/
def completed? (m : Machine) : Option (Instruction 16) :=
  match step.run m, m.memory.fetch m.pc with
  | .ok _ _, .ok w => some (Instruction.table w)
  | _, _ => none

section
variable {α : Type} (note : Machine → Action → List α) (m : Machine)

@[simp] lemma log_nil : m.log note [] = [] := rfl

@[simp] lemma log_cons (a : Action) (as : List Action) :
    m.log note (a :: as) = note m a ++ (m.act a).log note as := rfl

end

variable {m t : Machine} {i : Instruction 16} {f : Flow} {e : StepError}

lemma completed?_of_executes (hi : m.instruction? = some i) (h : Executes m i f t) :
    m.completed? = some i := by
  obtain ⟨w, hw, rfl⟩ := instruction?_eq_some_iff.mp hi
  simp only [completed?, step_of_executes hi h, hw, Instruction.decode_eq_table]

lemma completed?_of_error (h : step.run m = .error e t) : m.completed? = none := by
  simp only [completed?, h]

lemma act_step_of_executes (hi : m.instruction? = some i) (h : Executes m i f t) :
    m.act .step = t.finish (f.target m.pc) :=
  state_of_ok (step_of_executes hi h)

/-- A step completes no instruction and changes nothing, or it completes one. -/
lemma act_step_cases (m : Machine) : (m.completed? = none ∧ m.act .step = m) ∨
    ∃ i f t, m.completed? = some i ∧ Executes m i f t ∧
      m.act .step = t.finish (f.target m.pc) := by
  rcases act_step m with ⟨⟨e, he⟩, hm⟩ | h
  · exact .inl ⟨completed?_of_error he, hm⟩
  · obtain ⟨i, f, t, hi, hr, ht⟩ := step_eq_ok_iff.mp h
    exact .inr ⟨i, f, t, completed?_of_executes hi hr, hr, ht⟩

/-- The instruction of a word in the table is the one that a step executes. -/
lemma instruction?_of_fetch {w : UInt16} (hw : m.memory.fetch m.pc = .ok w) :
    m.instruction? = some (Instruction.table w) :=
  instruction?_eq_some_iff.mpr ⟨w, hw, Instruction.decode_eq_table w⟩

lemma step_eq_ok_iff_of_fetch {w : UInt16} (hw : m.memory.fetch m.pc = .ok w) :
    step.run m = .ok () t ↔
      ∃ f u, Executes m (Instruction.table w) f u ∧ t = u.finish (f.target m.pc) := by
  rw [step_eq_ok_iff, instruction?_of_fetch hw]
  simp

end Chip8.Machine
