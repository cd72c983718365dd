import Chip8.Proofs.History

/-!
Steps are all or nothing: one that fails leaves the whole machine as it was.
-/

namespace Chip8.Machine

/-- **All or nothing**: a step that fails changes nothing. -/
theorem step_error_unchanged {m t : Machine} {e : StepError} (h : step.run m = .error e t) :
    t = m :=
  (step_eq_error_iff.mp h).1

/-- A sprite at address zero cannot be read. -/
theorem step_error_unchanged_draw : ∃ m t,
    (load [0xD0, 0x15]).run (new {} (.chaCha .zero)) = .ok () m ∧
    step.run m = .error (.memory (.outOfBounds 0)) t ∧ t = m := by
  obtain ⟨m, hm⟩ := (new {} (.chaCha .zero)).load_accepted (p := [0xD0, 0x15])
    (by decide) (by decide)
  have hfresh := fresh_of_load hm
  have hf : step.run m = .error (.memory (.outOfBounds 0)) m := by
    refine step_of_fails hfresh.instruction? (.draw 0 1 5 ?_)
    change m.memory.readBlock m.index 5 = .error (.outOfBounds 0)
    rw [hfresh.index, Memory.readBlock, Memory.checkReadable,
      if_neg (fun h => absurd h.2.1 (by decide)), Memory.checkWritable_of_isLoaded hfresh.isLoaded]
    rfl
  exact ⟨m, m, hm, hf, step_error_unchanged hf⟩

end Chip8.Machine
