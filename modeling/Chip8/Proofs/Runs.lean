import Chip8.Proofs.Frames

/-!
How a run of a console ends, and what it reports.

A run goes from frame to frame until none is left, the input asks to quit or a frame fails. Then
the buzzer is switched off, and if that fails the run reports this failure and forgets the other.
-/

namespace Chip8.Console

variable {ι : Type} {c d t : Console ι} {n : Nat} {budget : Option Nat} {e : ConsoleError}
  {cause : String}

/-- The buzzer is on, and the next call to switch it off fails. -/
def StaysOn (c : Console ι) (cause : String) : Prop :=
  c.beeping = true ∧ c.faults.stop (c.calls.stop + 1) = some cause

section

variable [Input ι]

/-- `Proceeds n c d`: `n` frames in a row go through and take console `c` to `d`. -/
inductive Proceeds : Nat → Console ι → Console ι → Prop where
  | refl (c : Console ι) : Proceeds 0 c c
  | next {n : Nat} {c t d : Console ι} (h : frame.run c = .ok .proceed t) (hd : Proceeds n t d) :
    Proceeds (n + 1) c d

/-- The console after the frames of a run, when it is time to switch the buzzer off. -/
def afterFrames (c : Console ι) (budget : Option Nat) : Console ι :=
  state (frames (budget.getD endless) 0) c

/-! ### Frames in a row -/

/-- Each frame that goes through uses up one of the frames of a run. -/
lemma Proceeds.run_frames (h : Proceeds n c d) (k count : Nat) :
    (frames (n + k) count).run c = (frames k (count + n)).run d := by
  induction h generalizing count with
  | refl c => rw [Nat.zero_add, Nat.add_zero]
  | @next n c t d h hd ih =>
    rw [Nat.succ_add, frames, EStateM.run_bind, h]
    dsimp only
    rw [ih, Nat.add_assoc, Nat.add_comm 1]

lemma Proceeds.run_frames_of_error (h : Proceeds n c d) (he : frame.run d = .error e t) {k : Nat}
    (hk : n < k) (count : Nat) : (frames k count).run c = .error e t := by
  obtain ⟨j, rfl⟩ : ∃ j, k = n + (j + 1) := ⟨k - n - 1, by omega⟩
  rw [h.run_frames, frames, EStateM.run_bind, he]

end

/-! ### The end of a run -/

lemma StaysOn.run_silence (h : StaysOn c cause) :
    silence.run c = .error (.sound cause) { c with calls.stop := c.calls.stop + 1 } := by
  rw [Console.run_silence, if_pos h.1, run_stop, h.2]

lemma run_silence_of_not_staysOn (h : ∀ cause, ¬ StaysOn c cause) :
    ∃ u, silence.run c = .ok () u := by
  rw [run_silence]
  split
  next hon =>
    rw [run_stop]
    rcases hf : c.faults.stop (c.calls.stop + 1) with _ | cause
    · exact ⟨_, rfl⟩
    · exact absurd ⟨hon, hf⟩ (h cause)
  next => exact ⟨_, rfl⟩

variable [Input ι]

/-- A run whose frames fail reports that failure or the one of switching the buzzer off. -/
lemma run_of_frames_error (he : (frames (budget.getD endless) 0).run c = .error e t) :
    (∀ cause, StaysOn t cause → ∃ u, (run budget).run c = .error (.sound cause) u) ∧
    ((∀ cause, ¬ StaysOn t cause) → ∃ u, (run budget).run c = .error e u) := by
  simp only [run_run, he]
  refine ⟨fun cause h => ?_, fun h => ?_⟩
  · rw [h.run_silence]
    exact ⟨_, rfl⟩
  · obtain ⟨u, hu⟩ := run_silence_of_not_staysOn h
    rw [hu]
    exact ⟨u, rfl⟩

/-- So a run hides the failure of its frames exactly where the buzzer stays on, with another
failure. -/
lemma run_eq_error_iff (he : (frames (budget.getD endless) 0).run c = .error e t) :
    (∃ u, (run budget).run c = .error e u) ↔ ∀ cause, StaysOn t cause → e = .sound cause := by
  obtain ⟨hon, hoff⟩ := run_of_frames_error he
  constructor
  · rintro ⟨u, hu⟩ cause h
    obtain ⟨u', hu'⟩ := hon cause h
    rw [hu] at hu'
    cases hu'
    rfl
  · intro h
    by_cases hs : ∃ cause, StaysOn t cause
    · obtain ⟨cause, hs⟩ := hs
      rw [h cause hs]
      exact hon cause hs
    · exact hoff fun cause hc => hs ⟨cause, hc⟩

/-! ### Steps that fail -/

/-- A frame fails with the step of the machine that fails, at the place of that step. -/
lemma run_frame_of_step_error {p : Console ι} {m : Machine} {k : Nat} {error : StepError}
    (hp : pump.run d = .ok .proceed p) (hk : k < p.config.stepsPerFrame)
    (hm : (Machine.steps k).run p.machine = .ok () m) (he : Machine.step.run m = .error error m) :
    frame.run d = .error (.step m.pc error) { p with machine := m } := by
  simp only [run_frame, run_prepare, hp, Machine.run_steps_of_error hk hm he]

/-- A look at the input leaves the buzzer alone. -/
lemma staysOn_of_pump {s : Signal} {p : Console ι} (hp : pump.run d = .ok s p) (m : Machine) :
    StaysOn { p with machine := m } cause ↔ StaysOn d cause := by
  rw [show p = _ from looked_of_ok hp]
  rfl

/-- **What a run reports** when one of its frames fails: this failure, unless the buzzer is on then
and cannot be switched off, and in that case only the failure to do so. -/
theorem run_reports_failure_iff (hd : Proceeds n c d) (hn : n < budget.getD endless) :
    -- a frame fails in any way
    (∀ e t, frame.run d = .error e t →
      ((∃ u, (run budget).run c = .error e u) ↔ ∀ cause, StaysOn t cause → e = .sound cause) ∧
      ∀ cause, StaysOn t cause → ∃ u, (run budget).run c = .error (.sound cause) u) ∧
    -- it fails with a step of the machine
    ∀ p k m error, pump.run d = .ok .proceed p → k < p.config.stepsPerFrame →
      (Machine.steps k).run p.machine = .ok () m → Machine.step.run m = .error error m →
      frame.run d = .error (.step m.pc error) { p with machine := m } ∧
      ((∃ u, (run budget).run c = .error (.step m.pc error) u) ↔ ∀ cause, ¬ StaysOn d cause) := by
  have hframes {e : ConsoleError} {t : Console ι} (he : frame.run d = .error e t) :=
    hd.run_frames_of_error he hn 0
  refine ⟨fun e t he => ?_, fun p k m error hp hk hm he => ?_⟩
  · exact ⟨run_eq_error_iff (hframes he), (run_of_frames_error (hframes he)).1⟩
  · have hframe := run_frame_of_step_error hp hk hm he
    refine ⟨hframe, ?_⟩
    rw [run_eq_error_iff (hframes hframe)]
    simp only [staysOn_of_pump hp, reduceCtorEq, imp_false]

/-! ### A failure that is hidden -/

/-- A program that switches the buzzer on, and then returns without a call. -/
def buzzes : List UInt8 := [0x61, 0x05, 0xF1, 0x18, 0x00, 0xEE]

lemma buzzes_steps {m : Machine} (h : Machine.Fresh buzzes m) :
    ∃ t, (Machine.steps 2).run m = .ok () t ∧ t.tick.soundActive = true ∧ t.pc = 0x204 ∧
      t.memory = m.memory ∧ t.stack = .empty ∧ t.screen = m.screen := by
  obtain ⟨t, ht⟩ : ∃ t, t = (m.put 1 5).finish 0x202 := ⟨_, rfl⟩
  have h₁ : Machine.step.run m = .ok () t := by
    rw [ht, Machine.step_of_executes h.instruction? (.setByte 1 5), h.pc]
    rfl
  have hi : t.instruction? = some (.setSound 1) :=
    h.instruction?_at (a := 0x202) (by rw [ht]; rfl) (by rw [ht]; rfl) (by decide) (by decide)
  have hv : t.v.get 1 = 5 := by
    rw [ht]
    exact Bank.get_set_self ..
  have h₂ := Machine.step_of_executes hi (.setSound 1)
  refine ⟨_, Machine.run_steps_two h₁ h₂, ?_, ?_, ?_, ?_, ?_⟩
  · -- also a timer that counts every step has not run out yet
    simp only [Machine.soundActive, Machine.tick, Machine.finish, hv]
    split <;> decide
  · rw [ht]
    rfl
  · rw [ht]
    rfl
  · rw [ht]
    exact h.stack
  · rw [ht]
    rfl

/-- In its first frame the program switches the buzzer on. -/
lemma buzzes_frame {c : Console Keyboard} (h : Machine.Fresh buzzes c.machine)
    (hkeys : c.input = {}) (hconfig : c.config = { clockHz := 120 }) (hoff : c.beeping = false)
    (hbeep : c.faults.beep (c.calls.beep + 1) = none)
    (hdraw : c.faults.draw (c.calls.draw + 1) = none) :
    ∃ d, frame.run c = .ok .proceed d ∧ d.beeping = true ∧ d.faults = c.faults ∧
      d.calls.stop = c.calls.stop ∧ d.input = {} ∧ d.machine.memory = c.machine.memory ∧
      d.machine.pc = 0x204 ∧ d.machine.stack = .empty := by
  obtain ⟨t, hsteps, hsound, hpc, hmem, hstack, hscreen⟩ := buzzes_steps h
  have hprepare := run_prepare_of_beep (run_pump_of_idle hkeys) (by rw [hconfig])
    (run_twoSteps hconfig hsteps) hsound hoff hbeep
  have hdirty : t.tick.screen.dirty = true := by
    change t.screen.dirty = true
    rw [hscreen, h.screen]
    rfl
  exact ⟨_, run_frame_of_shown hprepare hdirty hdraw, rfl, rfl, rfl, hkeys, hmem, hpc, hstack⟩

/-- A buzzer that at first cannot be switched off. -/
def refusesStop : Faults where
  stop n := if n = 1 then some "no stop" else none

/-- A program that returns without a call while the buzzer is on: all that the run reports is that
the buzzer stays on. -/
theorem run_reports_failure_iff_hidden : ∃ d u,
    Proceeds 1 ((unattended { clockHz := 120 } refusesStop).after [.load buzzes]) d ∧
    (∃ t, frame.run d = .error (.step 0x204 (.stackUnderflow 0x204)) t) ∧
    (run none).run ((unattended { clockHz := 120 } refusesStop).after [.load buzzes]) =
      .error (.sound "no stop") u ∧
    ¬ ∃ v, (run none).run ((unattended { clockHz := 120 } refusesStop).after [.load buzzes]) =
      .error (.step 0x204 (.stackUnderflow 0x204)) v := by
  obtain ⟨m, hm⟩ := (Machine.new { clockHz := 120 } (.chaCha .zero)).load_accepted (p := buzzes)
    (by decide) (by decide)
  have hfresh := Machine.fresh_of_load hm
  rw [after_load (c := unattended { clockHz := 120 } refusesStop) hm]
  obtain ⟨d, hframe, hbeeping, hfaults, hstop, hkeys, hmem, hpc, hstack⟩ :=
    buzzes_frame (c := { unattended { clockHz := 120 } refusesStop with machine := m }) hfresh
      rfl rfl rfl rfl rfl
  have hlook := run_pump_of_idle hkeys
  have hon : StaysOn d "no stop" := ⟨hbeeping, by rw [hfaults, hstop]; rfl⟩
  have hret : Machine.step.run d.machine = .error (.stackUnderflow 0x204) d.machine := by
    have hi : d.machine.instruction? = some .ret :=
      hfresh.instruction?_at hmem hpc (by decide) (by decide)
    have hempty : d.machine.stack.pop? = none := by
      rw [hstack]
      rfl
    rw [Machine.step_of_fails hi (.ret hempty), hpc]
  have hd : Proceeds 1 _ d := .next hframe (.refl d)
  obtain ⟨hfails, hsteps⟩ := run_reports_failure_iff hd (show 1 < none.getD endless by decide)
  obtain ⟨hfail, hiff⟩ := hsteps _ 0 _ _ hlook (Config.stepsPerFrame_pos _) rfl hret
  obtain ⟨u, hu⟩ := (hfails _ _ hfail).2 _ hon
  rw [hpc] at hfail hiff
  exact ⟨d, u, hd, ⟨_, hfail⟩, hu, fun hv => hiff.mp hv _ hon⟩

end Chip8.Console
