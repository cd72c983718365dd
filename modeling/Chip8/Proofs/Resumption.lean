import Chip8.Proofs.Runs

/-!
A run that is broken off and taken up again does what one long run does.

In between the buzzer is switched off, which the long run does not do. So the console that was
broken off may lag behind for a while: its buzzer is off while the other one is on. The next frame
that gets to the buzzer brings them together again, and if there is none the end of the run does.
-/

namespace Chip8.Console

variable {ι : Type}

/-- The buzzer never fails. -/
structure Reliable (c : Console ι) : Prop where
  beep (n : Nat) : c.faults.beep n = none
  stop (n : Nat) : c.faults.stop n = none

def stopped (c : Console ι) : Console ι :=
  { c with beeping := false, buzzer := c.buzzer.stop, calls.stop := c.calls.stop + 1 }

/-- The console after its buzzer was switched off. -/
def silenced (c : Console ι) : Console ι := if c.beeping then c.stopped else c

/-- How a run of at most `n` frames ends: all of them go through, or the input asks to quit, or
a frame fails. Then the buzzer is switched off. -/
inductive Outcome [Input ι] (n : Nat) (c : Console ι) :
    EStateM.Result ConsoleError (Console ι) Nat → Prop where
  | spent {d : Console ι} (hd : Proceeds n c d) : Outcome n c (.ok n d.silenced)
  | quit {k : Nat} {d t : Console ι} (hd : Proceeds k c d) (hk : k < n)
    (ht : frame.run d = .ok .quit t) : Outcome n c (.ok k t.silenced)
  | failed {k : Nat} {d t : Console ι} {e : ConsoleError} (hd : Proceeds k c d) (hk : k < n)
    (ht : frame.run d = .error e t) : Outcome n c (.error e t.silenced)

/-- The console but for all that its buzzer was told. -/
def hushed (c : Console ι) : Console ι :=
  { c with beeping := false, buzzer := {}, calls := { c.calls with beep := 0, stop := 0 } }

/-- Console ι `c'` was silenced where `c` was not, and beeped `k` times more. It is the same
otherwise, and it has caught up, or is behind by a beep. -/
structure Lags (k : Nat) (c c' : Console ι) : Prop where
  hushed : c'.hushed = c.hushed
  beeps : c'.calls.beep = c.calls.beep + k
  stops : c'.calls.stop + c'.beeping.toNat = c.calls.stop + k + c.beeping.toNat
  heardBeeps : c'.buzzer.beeps = c.buzzer.beeps + k
  heardStops : c'.buzzer.stops + c'.beeping.toNat = c.buzzer.stops + k + c.beeping.toNat
  turn : c'.beeping = c.beeping ∨ k = 0 ∧ c'.beeping = false ∧ c.beeping = true

/-- The buzzers never fail, and one of the consoles may have been silenced once. -/
def Abreast (c c' : Console ι) : Prop := Reliable c ∧ ∃ k ≤ 1, Lags k c c'

/-- Console ι `u'` has beeped and stopped once more than `u`, or as often, and is the same
otherwise. -/
def Rejoined (u u' : Console ι) : Prop := ∃ k ≤ 1, ∃ buzzer : Buzzer,
  buzzer.beeps = u.buzzer.beeps + k ∧ buzzer.stops = u.buzzer.stops + k ∧ u' = { u with
    buzzer
    calls := { u.calls with beep := u.calls.beep + k, stop := u.calls.stop + k } }

/-- Two actions end alike, with consoles that `R` relates. -/
inductive Matches {α : Type} (R : Console ι → Console ι → Prop) :
    EStateM.Result ConsoleError (Console ι) α → EStateM.Result ConsoleError (Console ι) α →
      Prop where
  | ok (a : α) {t t' : Console ι} (h : R t t') : Matches R (.ok a t) (.ok a t')
  | error (e : ConsoleError) {t t' : Console ι} (h : R t t') : Matches R (.error e t) (.error e t')

variable {c c' d t : Console ι} {k n : Nat}

section Matches

variable {α β : Type} {R : Console ι → Console ι → Prop}

lemma run_map (f : α → β) (x : Exec ι α) (c : Console ι) : (f <$> x).run c =
    match x.run c with
    | .ok a t => .ok (f a) t
    | .error e t => .error e t := by
  rw [map_eq_pure_bind, EStateM.run_bind]
  cases x.run c <;> rfl

lemma Matches.bind {x : Exec ι α} {f : α → Exec ι β} (hx : Matches R (x.run c) (x.run c'))
    (hf : ∀ a t t', R t t' → Matches R ((f a).run t) ((f a).run t')) :
    Matches R ((x >>= f).run c) ((x >>= f).run c') := by
  rw [EStateM.run_bind, EStateM.run_bind]
  generalize x.run c = r at hx ⊢
  generalize x.run c' = r' at hx ⊢
  cases hx with
  | ok a h => exact hf a _ _ h
  | error e h => exact .error e h

lemma Matches.get_bind {f : Console ι → Exec ι β} (h : Matches R ((f c).run c) ((f c').run c')) :
    Matches R ((get >>= f).run c) ((get >>= f).run c') := h

end Matches

/-! ### A buzzer that never fails -/

def beeped (c : Console ι) : Console ι :=
  { c with beeping := true, buzzer := c.buzzer.beep, calls.beep := c.calls.beep + 1 }

/-- The console after its buzzer has followed the sound timer. -/
def switched (c : Console ι) : Console ι :=
  match c.machine.soundActive, c.beeping with
  | true, false => c.beeped
  | false, true => c.stopped
  | _, _ => c

lemma Reliable.run_updateBuzzer (h : Reliable c) : updateBuzzer.run c = .ok () c.switched := by
  rw [Console.run_updateBuzzer, switched]
  cases hsound : c.machine.soundActive <;> cases hbeeping : c.beeping
  · rfl
  · simp only [Bool.false_eq_true, if_false, run_stop, h.stop]
    rfl
  · simp only [Bool.true_eq_false, if_false, if_true, run_beep, h.beep]
    rfl
  · rfl

lemma Reliable.run_silence (h : Reliable c) : silence.run c = .ok () c.silenced := by
  rw [Console.run_silence, silenced]
  split
  next =>
    simp only [run_stop, h.stop]
    rfl
  next => rfl

/-! ### Catching up -/

lemma eq_of_hushed (h : c'.hushed = c.hushed) : ∃ beeping buzzer beep stop,
    c' = { c with beeping, buzzer, calls := { c.calls with beep, stop } } := by
  obtain ⟨machine, config, beeping, input, display, buzzer, faults, draw, beep, stop⟩ := c
  obtain ⟨machine', config', beeping', input', display', buzzer', faults', draw', beep',
    stop'⟩ := c'
  simp only [hushed, mk.injEq, Calls.mk.injEq, true_and, and_true] at h
  obtain ⟨rfl, rfl, rfl, rfl, rfl, rfl⟩ := h
  exact ⟨beeping', buzzer', beep', stop', rfl⟩

lemma Lags.machine (h : Lags k c c') : c'.machine = c.machine := by
  obtain ⟨beeping, buzzer, beep, stop, rfl⟩ := eq_of_hushed h.hushed
  rfl

lemma Lags.refl (c : Console ι) : Lags 0 c c := ⟨rfl, rfl, rfl, rfl, rfl, .inl rfl⟩

/-- A console that is silenced lags behind, or there was nothing to silence. -/
lemma lags_silenced (c : Console ι) : Lags 0 c c.silenced := by
  unfold silenced
  split
  next hon =>
    refine ⟨rfl, rfl, ?_, rfl, ?_, .inr ⟨rfl, rfl, hon⟩⟩
    · rw [hon]
      rfl
    · rw [hon]
      exact Buzzer.stops_stop c.buzzer
  next => exact .refl c

/-- The buzzer follows the sound timer, and this is where the consoles come together again. -/
lemma Lags.switched (h : Lags k c c') (hk : k ≤ 1) :
    ∃ j ≤ 1, Lags j c.switched c'.switched := by
  have hmachine := h.machine
  obtain ⟨hhushed, hbeeps, hstops, hheard, hheard', hturn⟩ := h
  unfold Console.switched
  rw [hmachine]
  rcases hturn with hturn | ⟨rfl, hoff, hon⟩
  · -- both do the same, and the one that has beeped more keeps its lead
    rw [hturn] at hstops hheard' ⊢
    refine ⟨k, hk, ?_⟩
    cases c.machine.soundActive <;> cases hbeeping : c.beeping
    · exact ⟨hhushed, hbeeps, by rwa [hturn], hheard, by rwa [hturn], .inl hturn⟩
    · refine ⟨hhushed, hbeeps, ?_, hheard, ?_, .inl rfl⟩ <;>
        simp only [stopped, Buzzer.stops_stop] <;> omega
    · refine ⟨hhushed, ?_, ?_, ?_, ?_, .inl rfl⟩ <;>
        simp only [beeped, Buzzer.beeps_beep, Buzzer.stops_beep] <;> omega
    · exact ⟨hhushed, hbeeps, by rwa [hturn], hheard, by rwa [hturn], .inl hturn⟩
  · -- the one that is behind beeps once more, or the other one stops now
    rw [hoff, hon] at hstops hheard' ⊢
    simp only [Bool.toNat_true, Bool.toNat_false, Nat.add_zero] at hstops hheard' hbeeps hheard
    cases c.machine.soundActive
    · refine ⟨0, hk, hhushed, hbeeps, ?_, hheard, ?_, .inl hoff⟩ <;>
        simp only [stopped, Buzzer.stops_stop, hoff, Bool.toNat_false] <;> omega
    · refine ⟨1, Nat.le_refl 1, hhushed, ?_, ?_, ?_, ?_, .inl hon.symm⟩ <;>
        simp only [beeped, Buzzer.beeps_beep, Buzzer.stops_beep, hon, Bool.toNat_true] <;> omega

/-- At its end a run makes up for the stop that the other console has ahead of it. -/
lemma Lags.rejoined (h : Lags k c c') (hk : k ≤ 1) : Rejoined c.silenced c'.silenced := by
  obtain ⟨hhushed, hbeeps, hstops, hheard, hheard', hturn⟩ := h
  obtain ⟨beeping, buzzer, beep, stop, rfl⟩ := eq_of_hushed hhushed
  dsimp only at hbeeps hstops hheard hheard' hturn
  subst hbeeps
  unfold silenced
  cases hon : c.beeping <;> cases beeping
  · obtain rfl : stop = c.calls.stop + k := by simpa [hon] using hstops
    refine ⟨k, hk, buzzer, hheard, by simpa [hon] using hheard', ?_⟩
    rw [if_neg (by simp), if_neg (by simp), ← hon]
  · simp [hon] at hturn
  · obtain rfl : stop = c.calls.stop + k + 1 := by simpa [hon] using hstops
    refine ⟨k, hk, buzzer, hheard, ?_, ?_⟩
    · rw [if_pos rfl, stopped, Buzzer.stops_stop, Nat.add_right_comm]
      simpa [hon] using hheard'
    · rw [if_neg (by simp), if_pos rfl, stopped]
      simp only [Nat.add_right_comm]
  · obtain rfl : stop = c.calls.stop + k := by simpa [hon] using hstops
    refine ⟨k, hk, buzzer.stop, ?_, ?_, ?_⟩
    · simpa [stopped] using hheard
    · rw [if_pos rfl, stopped, Buzzer.stops_stop, Buzzer.stops_stop]
      rw [hon] at hheard'
      simp only [Bool.toNat_true] at hheard'
      omega
    · rw [if_pos rfl, if_pos rfl, stopped, stopped]
      simp only [Nat.add_right_comm]

/-! ### Two consoles at once -/

lemma Reliable.abreast_self (h : Reliable c) : Abreast c c := ⟨h, 0, Nat.zero_le 1, .refl c⟩

/-- All that two consoles abreast differ in. -/
lemma Abreast.eq_with (h : Abreast c c') : ∃ beeping buzzer beep stop,
    c' = { c with beeping, buzzer, calls := { c.calls with beep, stop } } := by
  obtain ⟨-, k, -, hlags⟩ := h
  exact eq_of_hushed hlags.hushed

lemma Abreast.reliable (h : Abreast c c') : Reliable c' := by
  obtain ⟨beeping, buzzer, beep, stop, rfl⟩ := h.eq_with
  exact ⟨h.1.beep, h.1.stop⟩

lemma Abreast.config (h : Abreast c c') : c'.config = c.config := by
  obtain ⟨beeping, buzzer, beep, stop, rfl⟩ := h.eq_with
  rfl

lemma Abreast.machine (h : Abreast c c') : c'.machine = c.machine := by
  obtain ⟨beeping, buzzer, beep, stop, rfl⟩ := h.eq_with
  rfl

/-- Consoles stay abreast whatever happens to both of them away from the buzzer. -/
lemma Abreast.update (h : Abreast c c') (machine : Machine) (input : ι) (display : Display)
    (draw : Nat) : Abreast { c with machine, input, display, calls := { c.calls with draw } }
      { c' with machine, input, display, calls := { c'.calls with draw } } := by
  obtain ⟨hc, k, hk, hlags⟩ := h
  obtain ⟨beeping, buzzer, beep, stop, rfl⟩ := eq_of_hushed hlags.hushed
  exact ⟨⟨hc.beep, hc.stop⟩, k, hk, rfl, hlags.beeps, hlags.stops, hlags.heardBeeps,
    hlags.heardStops, hlags.turn⟩

lemma Abreast.updateBuzzer (h : Abreast c c') :
    Matches Abreast (Console.updateBuzzer.run c) (Console.updateBuzzer.run c') := by
  rw [h.reliable.run_updateBuzzer, h.1.run_updateBuzzer]
  obtain ⟨hc, k, hk, hlags⟩ := h
  refine .ok _ ⟨?_, hlags.switched hk⟩
  unfold switched
  split <;> exact ⟨hc.beep, hc.stop⟩

lemma Abreast.present (h : Abreast c c') :
    Matches Abreast (Console.present.run c) (Console.present.run c') := by
  obtain ⟨beeping, buzzer, beep, stop, rfl⟩ := h.eq_with
  simp only [run_present, run_draw]
  cases c.machine.screen.dirty with
  | false => exact .ok _ h
  | true =>
    cases c.faults.draw (c.calls.draw + 1) with
    | some cause => exact .error _ (h.update ..)
    | none => exact .ok _ (h.update ..)

lemma Abreast.steps (h : Abreast c c') (n : Nat) :
    Matches Abreast ((Console.steps n).run c) ((Console.steps n).run c') := by
  obtain ⟨beeping, buzzer, beep, stop, rfl⟩ := h.eq_with
  simp only [run_steps]
  rcases (Machine.steps n).run c.machine with ⟨⟨⟩, m⟩ | ⟨e, m⟩
  · exact .ok _ (h.update ..)
  · exact .error _ (h.update ..)

lemma Abreast.tick (h : Abreast c c') :
    Matches Abreast (Console.tick.run c) (Console.tick.run c') := by
  obtain ⟨beeping, buzzer, beep, stop, rfl⟩ := h.eq_with
  simp only [run_tick]
  exact .ok _ (h.update ..)

variable [Input ι]

lemma Abreast.pump (h : Abreast c c') :
    Matches Abreast (Console.pump.run c) (Console.pump.run c') := by
  obtain ⟨beeping, buzzer, beep, stop, rfl⟩ := h.eq_with
  simp only [run_pump]
  rcases Input.pump.run (c.input, c.machine.keypad) with
    ⟨signal, input, keypad⟩ | ⟨cause, input, keypad⟩
  · exact .ok _ (h.update ..)
  · exact .error _ (h.update ..)

lemma Abreast.frame (h : Abreast c c') :
    Matches Abreast (Console.frame.run c) (Console.frame.run c') := by
  refine h.pump.bind fun signal t t' h => ?_
  cases signal with
  | quit => exact .ok _ h
  | proceed =>
    refine .get_bind ?_
    rw [h.config]
    exact (h.steps _).bind fun _ _ _ h => h.tick.bind fun _ _ _ h =>
      h.updateBuzzer.bind fun _ _ _ h => h.present.bind fun _ _ _ h => .ok _ h

lemma Abreast.frames (h : Abreast c c') (n count : Nat) :
    Matches Abreast ((Console.frames n count).run c) ((Console.frames n count).run c') := by
  induction n generalizing c c' count with
  | zero => exact .ok count h
  | succ n ih =>
    refine h.frame.bind fun signal t t' h => ?_
    cases signal with
    | quit => exact .ok count h
    | proceed => exact ih h (count + 1)

/-! ### Runs -/

/-- Frames that were counted before only add to the count. -/
lemma run_frames_add (n a count : Nat) (c : Console ι) :
    (frames n (a + count)).run c = ((a + ·) <$> frames n count).run c := by
  induction n generalizing c count with
  | zero => rfl
  | succ n ih =>
    rw [frames, frames, run_map, EStateM.run_bind, EStateM.run_bind]
    rcases frame.run c with ⟨signal, t⟩ | ⟨e, t⟩
    · cases signal with
      | quit => rfl
      | proceed => exact (ih (count + 1) t).trans (run_map ..)
    · rfl

/-- The frames of a run end as its outcome says. -/
lemma frames_cases (n : Nat) (c : Console ι) :
    (∃ d, Proceeds n c d ∧ (frames n 0).run c = .ok n d) ∨
    (∃ k d t, Proceeds k c d ∧ k < n ∧ frame.run d = .ok .quit t ∧ (frames n 0).run c = .ok k t) ∨
    ∃ k d e t, Proceeds k c d ∧ k < n ∧ frame.run d = .error e t ∧
      (frames n 0).run c = .error e t := by
  induction n generalizing c with
  | zero => exact .inl ⟨c, .refl c, rfl⟩
  | succ n ih =>
    rw [frames, EStateM.run_bind]
    rcases hframe : frame.run c with ⟨signal, t⟩ | ⟨e, t⟩
    · cases signal with
      | quit => exact .inr (.inl ⟨0, c, t, .refl c, Nat.succ_pos n, hframe, rfl⟩)
      | proceed =>
        dsimp only
        rw [run_frames_add n 1 0, run_map]
        rcases ih t with ⟨d, hd, hr⟩ | ⟨k, d, u, hd, hk, hu, hr⟩ | ⟨k, d, e, u, hd, hk, hu, hr⟩
        · rw [hr]
          refine .inl ⟨d, .next hframe hd, ?_⟩
          rw [Nat.add_comm n 1]
        · rw [hr]
          refine .inr (.inl ⟨k + 1, d, u, .next hframe hd, Nat.succ_lt_succ hk, hu, ?_⟩)
          rw [Nat.add_comm k 1]
        · rw [hr]
          exact .inr (.inr ⟨k + 1, d, e, u, .next hframe hd, Nat.succ_lt_succ hk, hu, rfl⟩)
    · exact .inr (.inr ⟨0, c, e, t, .refl c, Nat.succ_pos n, hframe, rfl⟩)

/-- With a buzzer that never fails, a run reports what its frames have come to. -/
lemma Reliable.run_run (h : Reliable c) (n : Nat) : (run (some n)).run c =
    match (frames n 0).run c with
    | .ok count t => .ok count t.silenced
    | .error e t => .error e t.silenced := by
  have hframes := h.abreast_self.frames n 0
  rw [Console.run_run, Option.getD_some]
  generalize hr : (frames n 0).run c = r at hframes ⊢
  cases hframes with
  | ok count ht =>
    dsimp only
    rw [ht.1.run_silence]
  | error e ht =>
    dsimp only
    rw [ht.1.run_silence]

lemma Reliable.outcome (h : Reliable c) (n : Nat) : Outcome n c ((run (some n)).run c) := by
  rw [h.run_run]
  rcases frames_cases n c with
    ⟨d, hd, hr⟩ | ⟨k, d, t, hd, hk, ht, hr⟩ | ⟨k, d, e, t, hd, hk, ht, hr⟩
  · rw [hr]
    exact .spent hd
  · rw [hr]
    exact .quit hd hk ht
  · rw [hr]
    exact .failed hd hk ht

/-- A run that takes all the frames it may is not ended by anything else. -/
lemma Reliable.proceeds_of_run (h : Reliable c) (hrun : (run (some n)).run c = .ok n t) :
    ∃ d, Proceeds n c d ∧ t = d.silenced := by
  have hout := h.outcome n
  rw [hrun] at hout
  cases hout with
  | spent hd => exact ⟨_, hd, rfl⟩
  | quit hd hk ht => exact absurd hk (Nat.lt_irrefl n)

lemma Reliable.of_proceeds (h : Reliable c) (hd : Proceeds n c d) : Reliable d := by
  induction hd with
  | refl c => exact h
  | @next n c t d hframe hd ih =>
    have hmatch := h.abreast_self.frame
    rw [hframe] at hmatch
    cases hmatch with
    | ok signal ht => exact ih ht.1

/-- **A run taken up again**: with a buzzer that never fails, a run goes from frame to frame until
all that it may take have gone through, or the input asks to quit or a frame fails. And where a
run took all its frames, the next run from there ends as one run of both would have, with the same
machine, display and input, after at most one beep and one stop more. This also holds where the
buzzer is on from the start. -/
theorem run_resumes (h : Reliable c) :
    (∀ n, Outcome n c ((run (some n)).run c)) ∧
    ∀ a b t, (run (some a)).run c = .ok a t →
      Matches Rejoined ((run (some (a + b))).run c) (((a + ·) <$> run (some b)).run t) := by
  refine ⟨h.outcome, fun a b t hrun => ?_⟩
  obtain ⟨d, hd, rfl⟩ := h.proceeds_of_run hrun
  have habreast : Abreast d d.silenced :=
    ⟨h.of_proceeds hd, 0, Nat.zero_le 1, lags_silenced d⟩
  have hframes := habreast.frames b 0
  rw [run_map, h.run_run, habreast.reliable.run_run, hd.run_frames b 0, Nat.add_comm 0 a,
    run_frames_add, run_map]
  generalize (frames b 0).run d = r at hframes ⊢
  generalize (frames b 0).run d.silenced = r' at hframes ⊢
  cases hframes with
  | ok count hu =>
    obtain ⟨-, k, hk, hlags⟩ := hu
    exact .ok _ (hlags.rejoined hk)
  | error e hu =>
    obtain ⟨-, k, hk, hlags⟩ := hu
    exact .error e (hlags.rejoined hk)

/-- A program that switches the buzzer on, and is broken off before it returns without a call. It
fails before the buzzer could be switched on again, so that the two runs and the one beep and stop
alike often. -/
theorem run_resumes_buzzes : ∃ t u u',
    (run (some 1)).run ((unattended { clockHz := 120 } {}).after [.load buzzes]) = .ok 1 t ∧
    (run (some 1)).run t = .error (.step 0x204 (.stackUnderflow 0x204)) u' ∧
    (run (some 2)).run ((unattended { clockHz := 120 } {}).after [.load buzzes]) =
      .error (.step 0x204 (.stackUnderflow 0x204)) u ∧
    Rejoined u u' := by
  obtain ⟨m, hm⟩ := (Machine.new { clockHz := 120 } (.chaCha .zero)).load_accepted (p := buzzes)
    (by decide) (by decide)
  have hfresh := Machine.fresh_of_load hm
  rw [after_load (c := unattended { clockHz := 120 } {}) hm]
  have hsound : Reliable { unattended { clockHz := 120 } {} with machine := m } :=
    ⟨fun _ => rfl, fun _ => rfl⟩
  -- the first frame goes through, with the buzzer on at its end
  obtain ⟨d, hframe, hbeeping, hfaults, -, hkeys, hmem, hpc, hstack⟩ :=
    buzzes_frame (c := { unattended { clockHz := 120 } {} with machine := m })
      hfresh rfl rfl rfl rfl rfl
  have hd : Proceeds 1 _ d := .next hframe (.refl d)
  have hrun := hsound.run_run 1
  rw [hd.run_frames 0 0] at hrun
  have hstopped : d.silenced = d.stopped := if_pos hbeeping
  -- the second one fails
  have hret : Machine.step.run d.machine = .error (.stackUnderflow 0x204) d.machine := by
    have hi : d.machine.instruction? = some .ret :=
      hfresh.instruction?_at hmem hpc (by decide) (by decide)
    rw [Machine.step_ret_of_empty hi hstack, hpc]
  have hlook := run_pump_of_idle (c := d.stopped) hkeys
  have hfails := run_frame_of_step_error hlook (m := d.machine) (k := 0)
    (Config.stepsPerFrame_pos _) rfl hret
  rw [hpc] at hfails
  have hreliable : Reliable d.stopped := ⟨(hsound.of_proceeds hd).1, (hsound.of_proceeds hd).2⟩
  have hagain := hreliable.run_run 1
  rw [(Proceeds.refl d.stopped).run_frames_of_error hfails Nat.one_pos 0] at hagain
  have hmatch := (run_resumes hsound).2 1 1 _ hrun
  rw [run_map, hstopped, hagain] at hmatch
  generalize (run (some (1 + 1)) : Exec Keyboard Nat).run _ = r at hmatch ⊢
  cases hmatch with
  | error e hrejoined => exact ⟨_, _, _, hrun, hstopped ▸ hagain, rfl, hrejoined⟩

end Chip8.Console
