import Chip8.Proofs.Buzzing
import Chip8.Proofs.Halting
import Chip8.Proofs.Redraw

/-!
What a frame that is cut short has done.

What comes before the interruption stays, and nothing of what comes after it happens: a failed step
keeps the timers, the buzzer and the picture from their turn, a buzzer that fails keeps the picture
from it. A call to the buzzer that failed is made again as long as the sound timer asks for it.
-/

namespace Chip8

namespace Machine

variable {m t : Machine} {e : StepError} {n : Nat} {a : UInt16}

/-- Overflows and underflows of the stack are reported with the address of the instruction. -/
lemma eq_pc_of_stack_error (h : step.run m = .error e t)
    (he : e = .stackOverflow a ∨ e = .stackUnderflow a) : a = m.pc := by
  obtain ⟨-, ⟨c, -, rfl⟩ | ⟨i, -, hr⟩⟩ := step_eq_error_iff.mp h
  · simp at he
  · cases hr <;> simp at he <;> exact he.symm

lemma screen_of_steps (h : (steps n).run m = .ok () t) :
    t.screen = m.screen ∨ t.screen.dirty = true := by
  induction n generalizing m with
  | zero =>
    cases h
    exact .inl rfl
  | succ n ih =>
    obtain ⟨u, hu, ht⟩ := steps_succ_eq_ok_iff.mp h
    rcases ih ht with hs | hs
    · rw [hs]
      exact step_screen hu
    · exact .inr hs

lemma dirty_of_steps (h : (steps n).run m = .ok () t) :
    t.screen.dirty = (m.screen.dirty || decide (0 < m.touches n)) := by
  have hdirty := dirty_steps n m
  rwa [h] at hdirty

end Machine

namespace Console

variable {ι : Type} {c t u : Console ι} {cause : String} {e : StepError}

/-! ### The call that failed -/

/-- The buzzer was told once to switch, and heard it. -/
structure Switches (on : Bool) (c t : Console ι) : Prop where
  buzzer : t.buzzer = if on then c.buzzer.beep else c.buzzer.stop
  beeping : t.beeping = on
  beeps : t.calls.beep = c.calls.beep + on.toNat
  stops : t.calls.stop = c.calls.stop + (!on).toNat

/-- The flag is as it was, or the buzzer has heard something. -/
def Hears (c t : Console ι) : Prop :=
  t.buzzer = c.buzzer ∧ t.beeping = c.beeping ∨ c.buzzer.calls.length < t.buzzer.calls.length

lemma Hears.trans (h : Hears c t) (h' : Hears t u) : Hears c u := by
  rcases h with ⟨hb, hf⟩ | h
  · rw [Hears, ← hb, ← hf]
    exact h'
  · rcases h' with ⟨hb, -⟩ | h'
    · exact .inr (by rwa [hb])
    · exact .inr (Nat.lt_trans h h')

lemma Looked.hears (h : Looked c t) : Hears c t := by
  rw [show t = _ from h]
  exact .inl ⟨rfl, rfl⟩

lemma hears_switched (c : Console ι) : Hears c c.switched := by
  unfold switched
  split
  next => exact .inr (Nat.lt_succ_self _)
  next => exact .inr (Nat.lt_succ_self _)
  next => exact .inl ⟨rfl, rfl⟩

lemma hears_silence (c : Console ι) : Hears c (state silence c) := by
  simp only [state, run_silence, run_stop]
  by_cases hon : c.beeping
  · rw [if_pos hon]
    cases c.faults.stop (c.calls.stop + 1)
    · exact .inr (by simp [Buzzer.stop])
    · exact .inl ⟨rfl, rfl⟩
  · rw [if_neg hon]
    exact .inl ⟨rfl, rfl⟩

lemma switches_switched (h : c.machine.soundActive ≠ c.beeping) :
    Switches c.machine.soundActive c c.switched := by
  unfold switched
  cases hsound : c.machine.soundActive <;> cases hbeeping : c.beeping
  · exact absurd (hsound.trans hbeeping.symm) h
  · exact ⟨rfl, rfl, rfl, rfl⟩
  · exact ⟨rfl, rfl, rfl, rfl⟩
  · exact absurd (hsound.trans hbeeping.symm) h

variable [Input ι]

lemma hears_frame (c : Console ι) : Hears c (state frame c) := by
  have hframe := frame_outcome c
  unfold state
  generalize frame.run c = r at hframe
  cases hframe with
  | pump h => exact (looked_of_error h).hears
  | quit h => exact (looked_of_ok h).hears
  | step => exact .inl ⟨rfl, rfl⟩
  | sound => exact .inl ⟨rfl, rfl⟩
  | draw | clean | shown => exact hears_switched (c.reach _)

lemma hears_after (c : Console ι) (later : List Action) : Hears c (c.after later) := by
  refine after_induction (P := Hears c) (fun d p h => ?_) (fun d h => h.trans (hears_frame d))
    (fun d h => h.trans (hears_silence d)) (.inl ⟨rfl, rfl⟩) later
  rcases act_load d p with ⟨-, -, hd⟩ | ⟨machine, -, hd⟩
  · rw [hd]
    exact h
  · rw [hd]
    exact h

/-- As long as the buzzer hears nothing, the flag stays. -/
lemma beeping_after (c : Console ι) {later : List Action}
    (h : (c.after later).buzzer = c.buzzer) : (c.after later).beeping = c.beeping := by
  rcases hears_after c later with ⟨-, hf⟩ | hlt
  · exact hf
  · rw [h] at hlt
    exact absurd hlt (Nat.lt_irrefl _)

/-- A frame that goes through calls the buzzer if the sound timer is not as the flag says. -/
lemma switches_of_frame (h : frame.run c = .ok .proceed t)
    (hsound : t.machine.soundActive ≠ c.beeping) : Switches t.machine.soundActive c t := by
  have hframe := frame_outcome c
  rw [h] at hframe
  cases hframe with
  | @clean m hsteps hclean =>
    rw [machine_switched] at hsound ⊢
    obtain ⟨hb, hf, hbeeps, hstops⟩ := switches_switched (c := c.reach (m.endFrame c.config)) hsound
    exact ⟨hb, hf, hbeeps, hstops⟩
  | @shown m hsteps hdirty =>
    have hactive : (c.reach (m.endFrame c.config)).switched.offered.machine.soundActive =
        (c.reach (m.endFrame c.config)).machine.soundActive := by simp
    obtain ⟨hb, hf, hbeeps, hstops⟩ := switches_switched (c := c.reach (m.endFrame c.config))
      (hactive ▸ hsound)
    rw [← hactive] at hb hf hbeeps hstops
    exact ⟨hb, hf, hbeeps, hstops⟩

/-! ### Interrupted frames -/

/-- A frame of `c` came as far as its step `k + 1`, which failed. No timer was ticked, and neither
the buzzer nor the display was called. -/
structure StopsAt (k : Nat) (pc : UInt16) (e : StepError) (c t : Console ι) : Prop where
  lt : k < c.config.stepsPerFrame
  steps : (Machine.steps k).run c.ready = .ok () t.machine
  cycles : t.machine.cycles = c.machine.cycles + k
  fails : Machine.step.run t.machine = .error e t.machine
  reaches : t = c.reach t.machine
  screen : t.machine.screen = c.machine.screen ∨ t.machine.screen.dirty = true
  dirty : t.machine.screen.dirty = (c.machine.screen.dirty || decide (0 < c.ready.touches k))
  pc : t.machine.pc = pc
  stack (a : UInt16) (h : e = .stackOverflow a ∨ e = .stackUnderflow a) : a = t.machine.pc

/-- A frame of `c` has taken all its steps, after which the machine was `m`, and ticked. Then the
buzzer was called once, and failed. -/
structure Unheard (m : Machine) (cause : String) (c t : Console ι) : Prop where
  steps : (Machine.steps c.config.stepsPerFrame).run c.ready = .ok () m
  machine : t.machine = m.endFrame c.config
  wanted : t.machine.soundActive ≠ c.beeping
  refused : c.refusal? t.machine.soundActive = some cause
  called : t = (c.reach t.machine).called t.machine.soundActive
  beeping : t.beeping = c.beeping
  dirty : t.machine.screen.dirty =
    (c.machine.screen.dirty || decide (0 < c.ready.touches c.config.stepsPerFrame))
  /-- The same call is made by the next frame that goes through and wants it. -/
  again (later : List Action) (h : (t.after later).buzzer = t.buzzer) :
    (t.after later).beeping = t.beeping ∧
    ∀ u, frame.run (t.after later) = .ok .proceed u → u.machine.soundActive ≠ t.beeping →
      Switches t.machine.soundActive (t.after later) u

/-- A frame of `c` has taken all its steps, after which the machine was `m`, and ticked, and the
buzzer is as it has to be. Then the display refused the picture. -/
structure Undrawn (m : Machine) (cause : String) (c t : Console ι) : Prop where
  steps : (Machine.steps c.config.stepsPerFrame).run c.ready = .ok () m
  dirty : m.screen.dirty = true
  refused : c.faults.draw (c.calls.draw + 1) = some cause
  offered : t = (c.reach (m.endFrame c.config)).switched.offered
  beeping : t.beeping = t.machine.soundActive

lemma stopsAt_of_steps {m : Machine}
    (h : (Machine.steps c.config.stepsPerFrame).run c.ready = .error e m) :
    ∃ k, StopsAt k m.pc e c (c.reach m) := by
  obtain ⟨k, hk, hm, he⟩ := Machine.exists_steps_of_error h
  exact ⟨k, {
    lt := hk
    steps := hm
    cycles := Machine.cycles_of_steps (m := c.ready) hm
    fails := he
    reaches := rfl
    screen := Machine.screen_of_steps (m := c.ready) hm
    dirty := Machine.dirty_of_steps (m := c.ready) hm
    pc := rfl
    stack _ := Machine.eq_pc_of_stack_error he }⟩

lemma unheard_of_steps {m : Machine}
    (h : (Machine.steps c.config.stepsPerFrame).run c.ready = .ok () m)
    (hsound : (m.endFrame c.config).soundActive ≠ c.beeping)
    (hcause : c.refusal? (m.endFrame c.config).soundActive = some cause) :
    Unheard m cause c
      ((c.reach (m.endFrame c.config)).called (m.endFrame c.config).soundActive) where
  steps := h
  machine := rfl
  wanted := hsound
  refused := hcause
  called := rfl
  beeping := rfl
  dirty := by
    have hdirty := Machine.dirty_of_steps h
    rwa [← m.screen_endFrame c.config] at hdirty
  again later hlater := by
    have hbeeping := beeping_after _ hlater
    refine ⟨hbeeping, fun u hu hdiffers => ?_⟩
    have hswitches := switches_of_frame hu (by rwa [hbeeping])
    -- there is only one way to differ from the flag
    rwa [(Bool.eq_not.mpr hdiffers).trans (Bool.eq_not.mpr hsound).symm] at hswitches

/-- **What a frame that is cut short has done.** If the input asks to quit or fails, nothing but
the keypad can have changed. If a step fails, the steps before it have been taken and nothing else
has. If the buzzer fails, the machine is as at the end of the frame, and the call is made again. If
the display fails, only the picture is missing. -/
theorem interrupted_frame (c : Console ι) :
    (∀ t, frame.run c = .ok .quit t → Looked c t) ∧
    (∀ pc e t, frame.run c = .error (.step pc e) t → ∃ k, StopsAt k pc e c t) ∧
    (∀ cause t, frame.run c = .error (.sound cause) t → ∃ m, Unheard m cause c t) ∧
    ∀ cause t, frame.run c = .error (.terminal cause) t →
      pump.run c = .error (.terminal cause) t ∧ Looked c t ∨ ∃ m, Undrawn m cause c t := by
  have hframe := frame_outcome c
  refine ⟨fun t h => ?_, fun pc e t h => ?_, fun cause t h => ?_, fun cause t h => ?_⟩
  all_goals rw [h] at hframe
  · cases hframe with
    | quit hp => exact looked_of_ok hp
  · cases hframe with
    | step hsteps => exact stopsAt_of_steps hsteps
  · cases hframe with
    | sound hsteps hsound hcause => exact ⟨_, unheard_of_steps hsteps hsound hcause⟩
  · cases hframe with
    | pump hp => exact .inl ⟨hp, looked_of_error hp⟩
    | @draw _ m hsteps hdirty hcause =>
      refine .inr ⟨m, hsteps, hdirty, hcause, rfl, ?_⟩
      rw [soundActive_offered, machine_switched]
      exact beeping_switched _

/-- In its first frame the program tries to switch the buzzer on. -/
lemma buzzes_frame_refused {c : Console Keyboard} (h : Machine.Fresh buzzes c.machine)
    (hkeys : c.input = {}) (hconfig : c.config = { clockHz := 120 }) (hoff : c.beeping = false)
    (hbeep : c.faults.beep (c.calls.beep + 1) = some cause) :
    ∃ t, frame.run c = .error (.sound cause) t ∧ t.machine.soundActive = true ∧
      t.machine.pc = 0x204 ∧ t.input = {} ∧ t.config = c.config ∧ t.faults = c.faults ∧
      t.calls.beep = c.calls.beep + 1 := by
  obtain ⟨w, hsteps, hsound, hpc, -⟩ := buzzes_steps h
  have hprepare := run_prepare_eq_updateBuzzer (run_pump_of_idle hkeys) (by rw [hconfig])
    (run_twoSteps hconfig hsteps)
  rw [run_frame, hprepare, run_updateBuzzer]
  simp only [hsound, hoff, Bool.true_eq_false, if_false, if_true, run_beep, hbeep]
  exact ⟨_, rfl, hsound, hpc, hkeys, rfl, rfl, rfl⟩

/-- A buzzer that at first cannot be switched on. -/
def refusesBeep : Faults where
  beep n := if n = 1 then some "no beep" else none

/-- A keyboard that is never reached. -/
def noInput : Flaky Keyboard where
  device := {}
  faults _ := some "no input"

/-- A console on which the buzzer fails, hears the call after another load, and the machine halts
one frame later; one whose display fails; and two that end with their look at the keyboard. -/
theorem interrupted_frame_buzzes :
    (∃ t u v, frame.run ((unattended { clockHz := 120 } refusesBeep).after [.load buzzes]) =
        .error (.sound "no beep") t ∧
      frame.run (t.after [.load buzzes]) = .ok .proceed u ∧ u.buzzer = t.buzzer.beep ∧
      frame.run u = .error (.step 0x204 (.stackUnderflow 0x204)) v ∧ v.buzzer = u.buzzer) ∧
    (∃ t, frame.run ((unattended { clockHz := 120 } refusesFirst).after [.load buzzes]) =
      .error (.terminal "screen gone") t ∧ t.beeping = t.machine.soundActive ∧ t.calls.draw = 1) ∧
    (∃ t, frame.run (new {} (.chaCha .zero) noInput {}) = .error (.terminal "no input") t ∧
      Looked (new {} (.chaCha .zero) noInput {}) t) ∧
    ∃ t, frame.run (new {} (.chaCha .zero) { quits := true : Keyboard } {}) = .ok .quit t ∧
      Looked (new {} (.chaCha .zero) { quits := true : Keyboard } {}) t := by
  obtain ⟨m, hm⟩ := (Machine.new { clockHz := 120 } (.chaCha .zero)).load_accepted (p := buzzes)
    (by decide) (by decide)
  have hfresh := Machine.fresh_of_load hm
  refine ⟨?_, ?_, ?_, ?_⟩
  · have hafter := after_load (c := unattended { clockHz := 120 } refusesBeep) hm
    obtain ⟨t, ht, hactive, -, hkeys, hconfig, hfaults, hcalls⟩ :=
      buzzes_frame_refused (c := { unattended { clockHz := 120 } refusesBeep with machine := m })
        hfresh rfl rfl rfl rfl
    rw [← hafter] at ht
    obtain ⟨_, hunheard⟩ := (interrupted_frame _).2.2.1 _ _ ht
    have hoff : t.beeping = false := hunheard.beeping.trans (by rw [hafter]; rfl)
    obtain ⟨n, hn⟩ := t.machine.load_accepted (p := buzzes) (by decide) (by decide)
    have hfresh' := Machine.fresh_of_load hn
    have hload := after_load hn
    obtain ⟨u, hu, hon, hfaults', -, hkeys', hmem, hpc, hstack⟩ :=
      buzzes_frame (c := { t with machine := n }) hfresh' hkeys hconfig hoff
        (by rw [hfaults, hcalls]; rfl) (by rw [hfaults]; rfl)
    rw [← hload] at hu
    obtain ⟨-, hagain⟩ := hunheard.again [.load buzzes] (by rw [hload])
    have hswitches := hagain u hu (by rw [← beeping_of_frame hu, hon, hoff]; decide)
    have hret : Machine.step.run u.machine = .error (.stackUnderflow 0x204) u.machine := by
      have hi := hfresh'.instruction?_at hmem hpc (by decide) (by decide)
      rw [Machine.step_ret_of_empty hi hstack, hpc]
    have hlook := run_pump_of_idle hkeys'
    have hhalts := run_frame_of_step_error hlook (k := 0) (Config.stepsPerFrame_pos _) rfl hret
    obtain ⟨v, hv⟩ : ∃ v, frame.run u = .error (.step 0x204 (.stackUnderflow 0x204)) v :=
      ⟨_, by rwa [hpc] at hhalts⟩
    obtain ⟨k, hstops⟩ := (interrupted_frame u).2.1 _ _ _ hv
    refine ⟨t, u, v, ht, hu, ?_, hv, ?_⟩
    · rw [hswitches.buzzer, hactive, hload]
      rfl
    · rw [hstops.reaches]
      rfl
  · rw [after_load (c := unattended { clockHz := 120 } refusesFirst) hm]
    obtain ⟨w, hsteps, hsound, -, -, -, hscreen⟩ := buzzes_steps hfresh
    have hprepare := run_prepare_of_beep
      (c := { unattended { clockHz := 120 } refusesFirst with machine := m })
      (run_pump_of_idle rfl) rfl (run_twoSteps rfl hsteps) hsound rfl rfl
    have hdirty : w.tick.screen.dirty = true := by
      change w.screen.dirty = true
      rw [hscreen, hfresh.screen]
      rfl
    have ht := run_frame_of_refused hprepare hdirty rfl
    rcases (interrupted_frame _).2.2.2 _ _ ht with ⟨hp, -⟩ | ⟨_, hundrawn⟩
    · cases hp
    · exact ⟨_, ht, hundrawn.beeping, rfl⟩
  · obtain ⟨t, ht⟩ : ∃ t, frame.run (new {} (.chaCha .zero) noInput {}) =
        .error (.terminal "no input") t := ⟨_, rfl⟩
    rcases (interrupted_frame _).2.2.2 _ _ ht with ⟨-, hlooked⟩ | ⟨_, hundrawn⟩
    · exact ⟨t, ht, hlooked⟩
    · cases hundrawn.refused
  · obtain ⟨t, ht⟩ : ∃ t, frame.run (new {} (.chaCha .zero) { quits := true : Keyboard } {}) =
        .ok .quit t := ⟨_, rfl⟩
    exact ⟨t, ht, (interrupted_frame _).1 t ht⟩

end Console

end Chip8
