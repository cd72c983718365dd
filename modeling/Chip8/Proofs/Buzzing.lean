import Chip8.Proofs.Runs

/-!
When the buzzer is told to beep and to stop.

It is told to beep when the sound timer has started to run, and to stop when the timer has run out
or a run ends. A call that fails does not count, and is made again at the next occasion. So what
the buzzer hears takes turns, wherever a frame is cut short.
-/

namespace Chip8.Console

variable {ι : Type}

/-- What a buzzer is told at the `i`-th call when beep and stop take turns. -/
def turn (i : Nat) : BuzzerCall := if i % 2 = 0 then .beep else .stop

/-- The calls that got through took turns, a beep first, and the flag says whose turn it is. -/
structure TakesTurns (c : Console ι) : Prop where
  calls : c.buzzer.calls.reverse = (List.range c.buzzer.calls.length).map turn
  beeping : c.beeping = decide (c.buzzer.calls.length % 2 = 1)

/-- As many beeps as stops, or one more if the last call was a beep. -/
lemma count_turns (n : Nat) : ((List.range n).map turn).count .beep =
    ((List.range n).map turn).count .stop + n % 2 := by
  induction n with
  | zero => rfl
  | succ n ih =>
    rw [List.range_succ, List.map_append, List.count_append, List.count_append, ih]
    rcases Nat.mod_two_eq_zero_or_one n with h | h
    · have hturn : turn n = .beep := if_pos h
      simp [hturn]
      omega
    · have hturn : turn n = .stop := if_neg (by omega)
      simp [hturn]
      omega

variable {c t : Console ι}

lemma TakesTurns.beeps_eq (h : TakesTurns c) :
    c.buzzer.beeps = c.buzzer.stops + if c.beeping then 1 else 0 := by
  have hcount (a : BuzzerCall) : c.buzzer.calls.count a =
      ((List.range c.buzzer.calls.length).map turn).count a := by
    rw [← h.calls, List.count_reverse]
  rw [Buzzer.beeps, Buzzer.stops, hcount, hcount, count_turns, h.beeping]
  rcases Nat.mod_two_eq_zero_or_one c.buzzer.calls.length with hn | hn <;> simp [hn]

/-- The call whose turn it is. -/
lemma TakesTurns.next (h : TakesTurns c) {b : Buzzer}
    (hb : b.calls = turn c.buzzer.calls.length :: c.buzzer.calls) :
    TakesTurns { t with buzzer := b, beeping := !c.beeping } where
  calls := by
    change b.calls.reverse = _
    rw [hb, List.reverse_cons, h.calls, List.length_cons, List.range_succ, List.map_append]
    rfl
  beeping := by
    change (!c.beeping) = decide (b.calls.length % 2 = 1)
    rw [hb, h.beeping, List.length_cons]
    rcases Nat.mod_two_eq_zero_or_one c.buzzer.calls.length with hn | hn <;> simp [hn] <;> omega

/-- A call that fails does not reach the buzzer. -/
lemma TakesTurns.beep (h : TakesTurns c) (hoff : c.beeping = false) :
    match Console.beep.run c with
    | .ok _ t => TakesTurns { t with beeping := true }
    | .error _ t => TakesTurns t := by
  have hlen : c.buzzer.calls.length % 2 = 0 := by simpa [hoff] using h.beeping
  rw [run_beep]
  rcases c.faults.beep (c.calls.beep + 1) with _ | cause
  · have hnext := h.next (t := { c with calls.beep := c.calls.beep + 1 }) (b := c.buzzer.beep)
      (by rw [turn, if_pos hlen]; rfl)
    rwa [hoff] at hnext
  · exact ⟨h.calls, h.beeping⟩

lemma TakesTurns.stop (h : TakesTurns c) (hon : c.beeping = true) :
    match Console.stop.run c with
    | .ok _ t => TakesTurns { t with beeping := false }
    | .error _ t => TakesTurns t := by
  have hlen : c.buzzer.calls.length % 2 = 1 := by simpa [hon] using h.beeping
  rw [run_stop]
  rcases c.faults.stop (c.calls.stop + 1) with _ | cause
  · have hnext := h.next (t := { c with calls.stop := c.calls.stop + 1 }) (b := c.buzzer.stop)
      (by rw [turn, if_neg (by omega)]; rfl)
    rwa [hon] at hnext
  · exact ⟨h.calls, h.beeping⟩

/-- The action leaves the turns in order. -/
def InTurn {α : Type} (x : Exec ι α) : Prop := Within (fun c t => TakesTurns c → TakesTurns t) x

lemma inTurn_step : InTurn (step : Exec ι Unit) := by
  intro c h
  simp only [state, run_step]
  cases Machine.step.run c.machine
  · exact ⟨h.calls, h.beeping⟩
  · exact h

lemma inTurn_tick : InTurn (tick : Exec ι Unit) := by
  intro c h
  change TakesTurns (if c.config.timers = .fixed then { c with machine := c.machine.tick } else c)
  split
  · exact ⟨h.calls, h.beeping⟩
  · exact h

lemma inTurn_updateBuzzer : InTurn (updateBuzzer : Exec ι Unit) := by
  intro c h
  simp only [state, run_updateBuzzer]
  by_cases hc : c.machine.soundActive = c.beeping
  · rw [if_pos hc]
    exact h
  · rw [if_neg hc]
    cases hsound : c.machine.soundActive
    · have hstop := h.stop (by simpa [hsound] using hc)
      simp only [Bool.false_eq_true, if_false]
      rcases hr : Console.stop.run c with ⟨u, t⟩ | ⟨e, t⟩ <;> simpa only [hr] using hstop
    · have hbeep := h.beep (by simpa [hsound] using hc)
      simp only [if_true]
      rcases hr : Console.beep.run c with ⟨u, t⟩ | ⟨e, t⟩ <;> simpa only [hr] using hbeep

lemma inTurn_present : InTurn (present : Exec ι Unit) := by
  intro c h
  simp only [state, run_present, run_draw]
  by_cases hd : c.machine.screen.dirty
  · rw [if_pos hd]
    cases c.faults.draw (c.calls.draw + 1) <;> exact ⟨h.calls, h.beeping⟩
  · rw [if_neg hd]
    exact h

lemma inTurn_silence : InTurn (silence : Exec ι Unit) := by
  intro c h
  simp only [state, run_silence]
  by_cases hon : c.beeping
  · rw [if_pos hon]
    have hstop := h.stop hon
    rcases hr : Console.stop.run c with ⟨u, t⟩ | ⟨e, t⟩ <;> simpa only [hr] using hstop
  · rw [if_neg hon]
    exact h

/-! ### The flag -/

lemma beeping_of_updateBuzzer (h : updateBuzzer.run c = .ok () t) :
    t.beeping = t.machine.soundActive := by
  have hmachine := machine_updateBuzzer c
  rw [state_of_ok h] at hmachine
  rw [run_updateBuzzer] at h
  rw [hmachine]
  split at h
  next hc =>
    cases h
    exact hc.symm
  next =>
    split at h
    next => cases h; rfl
    next => cases h

/-- Showing the picture changes neither the flag nor the sound timer. -/
lemma present_keeps_sound (c : Console ι) : (state present c).beeping = c.beeping ∧
    (state present c).machine.soundActive = c.machine.soundActive := by
  simp only [state, run_present, run_draw]
  by_cases hd : c.machine.screen.dirty
  · rw [if_pos hd]
    cases c.faults.draw (c.calls.draw + 1) <;> exact ⟨rfl, rfl⟩
  · rw [if_neg hd]
    exact ⟨rfl, rfl⟩

/-- At its end a run puts the flag out, unless the buzzer stays on. -/
lemma beeping_silence_eq_false_iff : (state silence c).beeping = false ↔
    ∀ cause, ¬ StaysOn c cause := by
  simp only [state, run_silence, run_stop, StaysOn]
  cases hon : c.beeping
  · simp [hon]
  · cases c.faults.stop (c.calls.stop + 1) <;> simp

/-! ### Frames and runs -/

variable [Input ι]

lemma inTurn_pump : InTurn (pump : Exec ι Signal) := by
  intro c h
  rw [show state pump c = _ from looked_pump c]
  exact ⟨h.calls, h.beeping⟩

lemma inTurn_frame : InTurn (frame : Exec ι Signal) :=
  within_frame (fun _ _ _ h h' => h' ∘ h)
    (within_prepare (fun _ h => h) (fun _ _ _ h h' => h' ∘ h) inTurn_pump inTurn_step inTurn_tick
      inTurn_updateBuzzer) inTurn_present

lemma takesTurns_after (config : Config) (random : Randomness) (input : ι) (faults : Faults)
    (history : List Action) : TakesTurns ((new config random input faults).after history) := by
  refine after_induction (fun c program h => ?_) inTurn_frame inTurn_silence ⟨rfl, rfl⟩ history
  rcases act_load c program with ⟨-, -, ht⟩ | ⟨machine, -, ht⟩
  · rw [ht]
    exact h
  · rw [ht]
    exact ⟨h.calls, h.beeping⟩

lemma beeping_of_prepare (h : prepare.run c = .ok .proceed t) :
    t.beeping = t.machine.soundActive := by
  rw [run_prepare] at h
  split at h
  next => cases h
  next => cases h
  next p hp =>
    split at h
    next => cases h
    next m hm =>
      split at h
      next => cases h
      next u hu =>
        cases h
        exact beeping_of_updateBuzzer hu

/-- After a frame that goes through the flag follows the sound timer. -/
lemma beeping_of_frame (h : frame.run c = .ok .proceed t) :
    t.beeping = t.machine.soundActive := by
  rcases frame_cases c with ⟨-, hframe, -⟩ | ⟨p, hp, hs⟩
  · exact absurd h (hframe t)
  · obtain ⟨hbeeping, hsound⟩ := present_keeps_sound p
    rw [← hs, state_of_ok h] at hbeeping hsound
    rw [hbeeping, hsound, beeping_of_prepare hp]

/-- **The buzzer is told something only when it has to change.** So what it was told alternates, and
it is silent after a run unless the last call of that run failed. -/
theorem buzzer_takes_turns (config : Config) (random : Randomness) (input : ι) (faults : Faults)
    (history : List Action) :
    let c := (new config random input faults).after history
    -- what the buzzer was told, the earliest first
    c.buzzer.calls.reverse = (List.range c.buzzer.calls.length).map turn ∧
    -- the flag says whether it is on
    c.buzzer.beeps = c.buzzer.stops + (if c.beeping then 1 else 0) ∧
    -- a frame that goes through leaves it on exactly if the sound timer runs
    (∀ t, frame.run c = .ok .proceed t → t.beeping = t.machine.soundActive) ∧
    -- a run leaves it off, unless it cannot be switched off at the end
    ∀ budget, (c.act (.run budget)).buzzer.beeps = (c.act (.run budget)).buzzer.stops ↔
      ∀ cause, ¬ StaysOn (c.afterFrames budget) cause := by
  intro c
  have h : TakesTurns c := takesTurns_after config random input faults history
  refine ⟨h.calls, h.beeps_eq, fun t => beeping_of_frame, fun budget => ?_⟩
  have hrun : TakesTurns (c.act (.run budget)) := by
    have := takesTurns_after config random input faults (history ++ [.run budget])
    rwa [after_append] at this
  rw [← beeping_silence_eq_false_iff, afterFrames, ← state_run, hrun.beeps_eq, act]
  cases (state (run budget) c).beeping <;> simp

/-- A buzzer that is on and refuses to be switched off once: the run leaves it on, and the next run
switches it off. -/
theorem buzzer_takes_turns_refused : ∃ d : Console Keyboard,
    frame.run ((unattended { clockHz := 120 } refusesStop).after [.load buzzes]) = .ok .proceed d ∧
    d.machine.soundActive = true ∧ d.buzzer.beeps = d.buzzer.stops + 1 ∧
    (d.act (.run (some 0))).buzzer.beeps ≠ (d.act (.run (some 0))).buzzer.stops ∧
    ((d.act (.run (some 0))).act (.run (some 0))).buzzer.beeps =
      ((d.act (.run (some 0))).act (.run (some 0))).buzzer.stops := by
  obtain ⟨m, hm⟩ := (Machine.new { clockHz := 120 } (.chaCha .zero)).load_accepted (p := buzzes)
    (by decide) (by decide)
  obtain ⟨d, hframe, hbeeping, hfaults, hstop, -⟩ :=
    buzzes_frame (c := { unattended { clockHz := 120 } refusesStop with machine := m })
      (Machine.fresh_of_load hm) rfl rfl rfl rfl rfl
  have hload := after_load (c := unattended { clockHz := 120 } refusesStop) hm
  rw [← hload] at hframe
  have hd : (new { clockHz := 120 } (.chaCha .zero) ({} : Keyboard) refusesStop).after
      [.load buzzes, .frame] = d := by
    rw [show [.load buzzes, .frame] = [Action.load buzzes] ++ [.frame] from rfl, after_append,
      after_cons, after_nil, act, state_of_ok hframe]
  -- the run makes the first call to switch the buzzer off, the next run the second
  have hon : StaysOn d "no stop" := ⟨hbeeping, by rw [hfaults, hstop]; rfl⟩
  have hrun : d.act (.run (some 0)) = { d with calls.stop := d.calls.stop + 1 } :=
    (state_run (some 0) d).trans (state_of_error hon.run_silence)
  have hoff (cause : String) : ¬ StaysOn (d.act (.run (some 0))) cause := by
    rintro ⟨-, hcause⟩
    rw [hrun] at hcause
    simp only [hfaults, hstop] at hcause
    cases hcause
  have h := buzzer_takes_turns { clockHz := 120 } (.chaCha .zero) ({} : Keyboard) refusesStop
  obtain ⟨-, -, hflag, -⟩ := h [.load buzzes]
  obtain ⟨-, hbeeps, -, hsilent⟩ := h [.load buzzes, .frame]
  obtain ⟨-, -, -, hsilent'⟩ := h ([.load buzzes, .frame] ++ [.run (some 0)])
  rw [hd] at hbeeps hsilent
  rw [after_append, hd] at hsilent'
  refine ⟨d, hframe, (hflag d hframe).symm.trans hbeeping, ?_, ?_, ?_⟩
  · rw [hbeeps, hbeeping, if_pos rfl]
  · exact fun h => (hsilent (some 0)).mp h "no stop" hon
  · exact (hsilent' (some 0)).mpr hoff

end Chip8.Console
