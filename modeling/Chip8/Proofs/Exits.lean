import Chip8.Proofs.Replay
import Chip8.Proofs.Resumption

/-!
The ways a frame can end, and the console that each of them leaves.

A frame can leave at its look at the input, at a step, at the buzzer and at the picture. At each
of these it has done all that comes before, and nothing of what comes after.
-/

namespace Chip8

lemma Machine.screen_endFrame (m : Machine) (c : Config) :
    (m.endFrame c).screen = m.screen := by
  unfold Machine.endFrame
  split <;> rfl

namespace Console

variable {ι : Type}

/-- Why the next call to switch the buzzer fails, if it does. -/
def refusal? (c : Console ι) (on : Bool) : Option String :=
  if on then c.faults.beep (c.calls.beep + 1) else c.faults.stop (c.calls.stop + 1)

/-- A call to switch the buzzer counts, whether it gets through or not. -/
def called (c : Console ι) (on : Bool) : Console ι :=
  { c with calls := { c.calls with
      beep := c.calls.beep + on.toNat
      stop := c.calls.stop + (!on).toNat } }

/-- The console once its picture counts as taken, and the display was called with it. -/
def offered (c : Console ι) : Console ι :=
  { c with
    machine := { c.machine with screen := c.machine.screen.clean }
    calls := { c.calls with draw := c.calls.draw + 1 } }

section

variable [Input ι]

/-- The machine of a console after its look at the input. -/
def ready (c : Console ι) : Machine :=
  { c.machine with keypad := (state pump c).machine.keypad }

/-- The console after its look at the input, with its machine at `m`. -/
def reach (c : Console ι) (m : Machine) : Console ι :=
  { c with machine := m, input := (state pump c).input }

/-- `FrameOutcome c r`: a frame of console `c` ends with `r`. -/
inductive FrameOutcome (c : Console ι) : EStateM.Result ConsoleError (Console ι) Signal → Prop where
  | pump {cause : String} {t : Console ι} (h : pump.run c = .error (.terminal cause) t) :
    FrameOutcome c (.error (.terminal cause) t)
  | quit {t : Console ι} (h : pump.run c = .ok .quit t) : FrameOutcome c (.ok .quit t)
  | step {e : StepError} {m : Machine}
    (h : (Machine.steps c.config.stepsPerFrame).run c.ready = .error e m) :
    FrameOutcome c (.error (.step m.pc e) (c.reach m))
  | sound {cause : String} {m : Machine}
    (h : (Machine.steps c.config.stepsPerFrame).run c.ready = .ok () m)
    (hsound : (m.endFrame c.config).soundActive ≠ c.beeping)
    (hcause : c.refusal? (m.endFrame c.config).soundActive = some cause) :
    FrameOutcome c (.error (.sound cause)
      ((c.reach (m.endFrame c.config)).called (m.endFrame c.config).soundActive))
  | draw {cause : String} {m : Machine}
    (h : (Machine.steps c.config.stepsPerFrame).run c.ready = .ok () m)
    (hdirty : m.screen.dirty = true)
    (hcause : c.faults.draw (c.calls.draw + 1) = some cause) :
    FrameOutcome c (.error (.terminal cause) (c.reach (m.endFrame c.config)).switched.offered)
  | clean {m : Machine} (h : (Machine.steps c.config.stepsPerFrame).run c.ready = .ok () m)
    (hclean : m.screen.dirty = false) :
    FrameOutcome c (.ok .proceed (c.reach (m.endFrame c.config)).switched)
  | shown {m : Machine} (h : (Machine.steps c.config.stepsPerFrame).run c.ready = .ok () m)
    (hdirty : m.screen.dirty = true) :
    FrameOutcome c (.ok .proceed { (c.reach (m.endFrame c.config)).switched.offered with
      display := c.display.draw m.screen.frame })

end

variable {c t : Console ι}

/-- The buzzer follows the sound timer, or the call to switch it failed. -/
lemma updateBuzzer_switches (c : Console ι) :
    updateBuzzer.run c = .ok () c.switched ∨
    ∃ cause, c.machine.soundActive ≠ c.beeping ∧
      c.refusal? c.machine.soundActive = some cause ∧
      updateBuzzer.run c = .error (.sound cause) (c.called c.machine.soundActive) := by
  rw [run_updateBuzzer, switched]
  cases c.machine.soundActive <;> cases c.beeping
  · exact .inl rfl
  · simp only [refusal?, Bool.false_eq_true, if_false, run_stop]
    cases c.faults.stop (c.calls.stop + 1)
    · exact .inl rfl
    · exact .inr ⟨_, Bool.false_ne_true, rfl, rfl⟩
  · simp only [refusal?, Bool.true_eq_false, if_false, if_true, run_beep]
    cases c.faults.beep (c.calls.beep + 1)
    · exact .inl rfl
    · exact .inr ⟨_, Bool.false_ne_true.symm, rfl, rfl⟩
  · exact .inl rfl

@[simp] lemma machine_switched (c : Console ι) : c.switched.machine = c.machine := by
  unfold switched
  split <;> rfl

@[simp] lemma display_switched (c : Console ι) : c.switched.display = c.display := by
  unfold switched
  split <;> rfl

@[simp] lemma faults_switched (c : Console ι) : c.switched.faults = c.faults := by
  unfold switched
  split <;> rfl

@[simp] lemma draws_switched (c : Console ι) : c.switched.calls.draw = c.calls.draw := by
  unfold switched
  split <;> rfl

lemma beeping_switched (c : Console ι) : c.switched.beeping = c.machine.soundActive := by
  unfold switched
  cases hsound : c.machine.soundActive <;> cases hbeeping : c.beeping
  · exact hbeeping
  · rfl
  · rfl
  · exact hbeeping

@[simp] lemma soundActive_offered (c : Console ι) :
    c.offered.machine.soundActive = c.machine.soundActive := rfl

lemma run_present_eq (c : Console ι) : present.run c =
    if c.machine.screen.dirty then match c.faults.draw (c.calls.draw + 1) with
      | some cause => .error (.terminal cause) c.offered
      | none => .ok () { c.offered with display := c.display.draw c.machine.screen.frame }
    else .ok () c := by
  rw [run_present]
  congr 1
  rw [run_draw]
  dsimp only
  cases c.faults.draw (c.calls.draw + 1) <;> rfl

variable [Input ι]

lemma eq_reach_of_pump {signal : Signal} (h : pump.run c = .ok signal t) :
    t = c.reach c.ready := by
  rw [reach, ready, state_of_ok h]
  exact looked_of_ok h

lemma run_prepare_of_look (hp : pump.run c = .ok .proceed (c.reach c.ready)) : prepare.run c =
    match (Machine.steps c.config.stepsPerFrame).run c.ready with
    | .error e m => .error (.step m.pc e) (c.reach m)
    | .ok _ m => match updateBuzzer.run (c.reach (m.endFrame c.config)) with
      | .error e t => .error e t
      | .ok _ t => .ok .proceed t := by
  rw [run_prepare, hp]
  rfl

/-- Once the buzzer is as it has to be, only the picture is left of a frame. -/
lemma outcome_of_present {m : Machine}
    (h : (Machine.steps c.config.stepsPerFrame).run c.ready = .ok () m) :
    FrameOutcome c (match present.run (c.reach (m.endFrame c.config)).switched with
      | .error e t => .error e t
      | .ok _ t => .ok .proceed t) := by
  have hscreen : (c.reach (m.endFrame c.config)).machine.screen = m.screen :=
    m.screen_endFrame c.config
  rw [run_present_eq]
  simp only [machine_switched, faults_switched, draws_switched, display_switched, hscreen]
  cases hdirty : m.screen.dirty
  · exact .clean h hdirty
  · rw [if_pos rfl]
    rcases hcause : (c.reach (m.endFrame c.config)).faults.draw
        ((c.reach (m.endFrame c.config)).calls.draw + 1) with _ | cause
    · exact .shown h hdirty
    · exact .draw h hdirty hcause

/-- A frame leaves at one of its exits. -/
lemma frame_outcome (c : Console ι) : FrameOutcome c (frame.run c) := by
  rw [run_frame]
  rcases hp : pump.run c with ⟨signal, t⟩ | ⟨e, t⟩
  · have ht := eq_reach_of_pump hp
    cases signal with
    | quit =>
      rw [run_prepare, hp]
      exact .quit hp
    | proceed =>
      subst ht
      rw [run_prepare_of_look hp]
      rcases hsteps : (Machine.steps c.config.stepsPerFrame).run c.ready with ⟨⟨⟩, m⟩ | ⟨e, m⟩
      · dsimp only
        rcases updateBuzzer_switches (c.reach (m.endFrame c.config)) with
          hu | ⟨cause, hsound, hcause, hu⟩
        · rw [hu]
          exact outcome_of_present hsteps
        · rw [hu]
          exact .sound hsteps hsound hcause
      · exact .step hsteps
  · rw [run_prepare, hp]
    obtain ⟨cause, rfl⟩ := pump_eq_error hp
    exact .pump hp

end Console

end Chip8
