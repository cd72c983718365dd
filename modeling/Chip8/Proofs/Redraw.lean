import Chip8.Proofs.Presentation

/-!
When a picture is handed to the display.

The screen is marked from the first pixel that is flipped, or the first time it is cleared, until
its picture is handed over. So a frame hands it over exactly if something has touched the screen
since the last time, and a display that refuses nothing never shows an old picture.
-/

namespace Chip8

namespace Screen

/-- Flipping pixels marks the screen, if there are any. -/
lemma dirty_blit (s : Screen) (pixels : List (Nat × Nat)) :
    (s.blit pixels).2.dirty = (s.dirty || !pixels.isEmpty) := by
  induction pixels generalizing s with
  | nil => simp
  | cons p rest ih =>
    obtain ⟨x, y⟩ := p
    rw [blit_cons, ih, dirty_toggle]
    simp

lemma row_eq_zero_iff {row : UInt8} : row = 0 ↔ ∀ c < 8, row.toNat.testBit (7 - c) = false := by
  constructor
  · rintro rfl c -
    exact Nat.zero_testBit _
  · intro h
    refine Frame.byte_ext fun c hc => ?_
    rw [h c hc]
    exact (Nat.zero_testBit _).symm

lemma spritePixels_eq_nil_iff {x y : Nat} {rows : List UInt8} :
    spritePixels x y rows = [] ↔ ∀ row ∈ rows, row = 0 := by
  induction rows generalizing y with
  | nil => simp
  | cons row rest ih =>
    rw [spritePixels, List.append_eq_nil_iff, List.map_eq_nil_iff, List.filter_eq_nil_iff, ih,
      List.forall_mem_cons, row_eq_zero_iff]
    simp

/-- A sprite covers a pixel if one of its rows has a bit that is set. -/
lemma isEmpty_spritePixels (x y : Nat) (rows : List UInt8) :
    (spritePixels x y rows).isEmpty = !rows.any (· != 0) := by
  rw [Bool.eq_iff_iff, List.isEmpty_iff, spritePixels_eq_nil_iff]
  simp

end Screen

/-! ### What touches the screen -/

namespace Machine

/-- The next step clears the screen, or draws a sprite that has a bit set. -/
def touchesScreen (m : Machine) : Bool :=
  match m.instruction? with
  | some .clearScreen => true
  | some (.draw _ _ n) =>
    match m.sprite n with
    | .ok rows => rows.any (· != 0)
    | .error _ => false
  | _ => false

/-- How many steps touch the screen, of `n` steps up to the first that fails. -/
def touches : Nat → Machine → Nat
  | 0, _ => 0
  | n + 1, m => (if m.touchesScreen then 1 else 0) +
    match step.run m with
    | .ok _ t => touches n t
    | .error _ _ => 0

variable {m t : Machine}

/-- A step marks the screen exactly if it touches it. -/
lemma dirty_step (h : step.run m = .ok () t) :
    t.screen.dirty = (m.screen.dirty || m.touchesScreen) := by
  obtain ⟨i, f, u, hi, hr, rfl⟩ := step_eq_ok_iff.mp h
  rw [touchesScreen, hi, screen_finish]
  cases hr with
  | clearScreen => simp [Screen.clear]
  | draw x y n hrows =>
    simp only [hrows, blitAt, Screen.dirty_blit, Screen.isEmpty_spritePixels, Bool.not_not]
  | save | restore => simp
  | _ => simp [put, putWithFlag]

/-- A step that fails would not have touched the screen. -/
lemma touchesScreen_of_error {e : StepError} (h : step.run m = .error e t) :
    m.touchesScreen = false := by
  obtain ⟨-, ⟨c, hw, -⟩ | ⟨i, hi, hr⟩⟩ := step_eq_error_iff.mp h
  · simp [touchesScreen, instruction?, hw, Except.toOption]
  · rw [touchesScreen, hi]
    cases hr with
    | draw x y n hrows => simp only [hrows]
    | _ => rfl

/-- However steps end, they have marked the screen exactly if one of them touched it. -/
lemma dirty_steps (n : Nat) (m : Machine) :
    (match (steps n).run m with
    | .ok _ t => t.screen.dirty
    | .error _ t => t.screen.dirty) = (m.screen.dirty || decide (0 < m.touches n)) := by
  induction n generalizing m with
  | zero => simp [touches]
  | succ n ih =>
    rw [steps_succ, EStateM.run_bind, touches]
    rcases h : step.run m with ⟨⟨⟩, t⟩ | ⟨e, t⟩
    · dsimp only
      rw [ih, dirty_step h]
      cases m.touchesScreen
      · simp
      · simp [Nat.add_comm 1]
    · obtain ⟨rfl, -⟩ := step_eq_error_iff.mp h
      simp [touchesScreen_of_error h]

end Machine

namespace Console

variable {ι : Type}

inductive ScreenEvent where
  /-- A pixel is flipped, or the screen is cleared. -/
  | touched
  /-- The picture is handed to the display. -/
  | handedOver
deriving DecidableEq

/-- The screen was touched after its picture was handed over for the last time. -/
def Pending (log : List ScreenEvent) : Prop :=
  ∃ earlier later, log = earlier ++ .touched :: later ∧ .handedOver ∉ later

lemma pending_iff {log : List ScreenEvent} : Pending log ↔ log.getLast? = some .touched := by
  constructor
  · rintro ⟨earlier, later, rfl, hlater⟩
    rcases List.eq_nil_or_concat later with rfl | ⟨later, e, rfl⟩
    · simp
    · rw [List.concat_eq_append, ← List.cons_append, ← List.append_assoc, List.getLast?_concat]
      cases e with
      | touched => rfl
      | handedOver => simp at hlater
  · intro h
    obtain ⟨earlier, rfl⟩ := List.getLast?_eq_some_iff.mp h
    exact ⟨earlier, [], rfl, List.not_mem_nil⟩

lemma pending_append_touched (log : List ScreenEvent) (n : Nat) :
    Pending (log ++ List.replicate n .touched) ↔ Pending log ∨ 0 < n := by
  rw [pending_iff, pending_iff]
  cases n with
  | zero => simp
  | succ n => simp [List.replicate_succ']

lemma not_pending_handedOver (log : List ScreenEvent) : ¬ Pending (log ++ [.handedOver]) := by
  simp [pending_iff]

/-- The picture is handed over exactly if the screen is marked, and this takes the mark away. -/
lemma draws_present (c : Console ι) :
    (state present c).calls.draw = c.calls.draw + c.machine.screen.dirty.toNat ∧
      (state present c).machine.screen.dirty = false := by
  simp only [state, run_present, run_draw]
  cases hd : c.machine.screen.dirty
  · exact ⟨rfl, hd⟩
  · cases c.faults.draw (c.calls.draw + 1) <;> exact ⟨rfl, rfl⟩

/-- The mark on the screen says that a change of it waits to be shown. -/
def Marks (log : List ScreenEvent) (c : Console ι) : Prop :=
  c.machine.screen.dirty = true ↔ Pending log

variable {log : List ScreenEvent} {c : Console ι}

lemma Marks.iff (h : Marks log c) : c.machine.screen.dirty = true ↔ Pending log := h

variable [Input ι]

/-- How many steps of a frame touch the screen. -/
def frameTouches (c : Console ι) : Nat :=
  match pump.run c with
  | .ok .proceed t => t.machine.touches t.config.stepsPerFrame
  | _ => 0

/-- How often a frame calls the display. -/
def frameDraws (c : Console ι) : Nat := (state frame c).calls.draw - c.calls.draw

/-- What happens to the screen. A load that is accepted clears it. -/
def screenWatch : Onlooker ι ScreenEvent where
  load c program :=
    match (Machine.load program).run c.machine with
    | .ok .. => [.touched]
    | .error .. => []
  frame c := List.replicate c.frameTouches .touched ++ List.replicate c.frameDraws .handedOver

/-! ### The mark on the screen -/

lemma screen_of_pump (c : Console ι) : (state pump c).machine.screen = c.machine.screen := by
  rw [show state pump c = _ from looked_pump c]

/-- What comes before the picture marks the screen exactly if one of the steps touches it. -/
lemma dirty_prepare (c : Console ι) : (state prepare c).machine.screen.dirty =
    (c.machine.screen.dirty || decide (0 < c.frameTouches)) := by
  have hpump := screen_of_pump c
  rw [state_prepare, frameTouches]
  rcases hp : pump.run c with ⟨signal, t⟩ | ⟨e, t⟩
  · rw [state_of_ok hp] at hpump
    cases signal with
    | quit => simp [hpump]
    | proceed =>
      have hsteps := Machine.dirty_steps t.config.stepsPerFrame t.machine
      rw [hpump] at hsteps
      rw [← hsteps]
      dsimp only
      cases (Machine.steps t.config.stepsPerFrame).run t.machine with
      | ok _ m =>
        dsimp only
        rw [machine_updateBuzzer]
        -- the timers leave the screen alone
        dsimp only
        split <;> rfl
      | error e m => rfl
  · rw [state_of_error hp] at hpump
    simp [hpump]

/-- A frame that gets as far as its picture hands it over exactly if the screen is marked by then;
any other frame leaves the mark for later. -/
lemma draws_frame (c : Console ι) :
    let dirty := c.machine.screen.dirty || decide (0 < c.frameTouches)
    ((∀ t, frame.run c ≠ .ok .proceed t) ∧ (state frame c).calls.draw = c.calls.draw ∧
      (state frame c).machine.screen.dirty = dirty) ∨
    (state frame c).calls.draw = c.calls.draw + dirty.toNat ∧
      (state frame c).machine.screen.dirty = false := by
  have hdraws := (quiet_prepare c).draws
  rcases frame_cases c with ⟨-, hframe, hs⟩ | ⟨t, ht, hs⟩
  · rw [hs]
    exact .inl ⟨hframe, hdraws, dirty_prepare c⟩
  · rw [hs, ← dirty_prepare, ← hdraws, state_of_ok ht]
    exact .inr (draws_present t)

lemma Marks.load (h : Marks log c) (program : List UInt8) :
    Marks (log ++ screenWatch.load c program) (c.act (.load program)) := by
  dsimp only [screenWatch]
  rcases act_load c program with ⟨e, he, ht⟩ | ⟨machine, hm, ht⟩
  · rw [he, ht, List.append_nil]
    exact h
  · obtain ⟨memory, -, rfl⟩ := Machine.load_eq_ok_iff.mp hm
    rw [hm, ht]
    exact iff_of_true rfl (pending_iff.mpr List.getLast?_concat)

lemma Marks.frame (h : Marks log c) :
    Marks (log ++ screenWatch.frame c) (state Console.frame c) := by
  dsimp only [screenWatch, frameDraws]
  rcases draws_frame c with ⟨-, hdraws, hdirty⟩ | ⟨hdraws, hclean⟩
  · rw [hdraws, Nat.sub_self, List.replicate_zero, List.append_nil, Marks, hdirty,
      pending_append_touched, ← h.iff]
    simp
  · rw [hdraws, Nat.add_sub_cancel_left, Marks, hclean]
    cases hd : c.machine.screen.dirty || decide (0 < c.frameTouches)
    · -- nothing was waiting, and nothing has come
      obtain ⟨hmark, htouches⟩ := Bool.or_eq_false_iff.mp hd
      have hzero : c.frameTouches = 0 := by simpa using htouches
      have hlog : ¬ Pending log := by rw [← h.iff, hmark]; exact Bool.false_ne_true
      simpa [hzero] using hlog
    · rw [Bool.toNat_true, List.replicate_one, ← List.append_assoc]
      exact iff_of_false Bool.false_ne_true (not_pending_handedOver _)

lemma marks_after (config : Config) (random : Randomness) (input : ι) (faults : Faults)
    (history : List Action) : Marks (screenWatch.notes (new config random input faults) history)
      ((new config random input faults).after history) := by
  have hstart : Marks [] (new config random input faults) :=
    iff_of_false Bool.false_ne_true (by simp [pending_iff])
  refine screenWatch.induction (fun _ _ program h => h.load program) (fun _ _ h => h.frame)
    (fun log c h => ?_) hstart history
  rw [Marks, machine_silence]
  exact h

/-- **When a picture is handed over**: a frame that goes through does it exactly if the screen was
touched since the last time. A display that takes every picture thus never shows an old one. -/
theorem redraws_iff_touched (config : Config) (random : Randomness) (input : ι) (faults : Faults)
    (history : List Action) :
    let c := (new config random input faults).after history
    let log := screenWatch.notes (new config random input faults) history
    -- the display shows what is on the screen, or the screen is marked
    ((∀ n, faults.draw n = none) →
      c.machine.screen.dirty = true ∨ shown c.display = c.machine.screen.frame) ∧
    -- it is called at most once in a frame
    (c.calls.draw ≤ (state frame c).calls.draw ∧ (state frame c).calls.draw ≤ c.calls.draw + 1) ∧
    -- it is called in a frame that goes through exactly if there is something new to show
    ∀ t, frame.run c = .ok .proceed t → t.machine.screen.dirty = false ∧
      (t.calls.draw = c.calls.draw + 1 ↔
        Pending (log ++ List.replicate c.frameTouches .touched)) := by
  intro c log
  have hmarks : Marks log c := marks_after config random input faults history
  have hpresents : Presents faults _ c :=
    presents_after (presents_new config random input faults) history
  refine ⟨fun hdraw => ?_, ?_, fun t ht => ?_⟩
  · have hlost : ¬ Lost faults ([] ++ (new config random input faults).offers history) := by
      rintro ⟨_, _, -, hrefused, -⟩
      simp [hdraw] at hrefused
    cases hd : c.machine.screen.dirty
    · rw [shown, hpresents.last, ← List.getLastD_eq_getLast?, hpresents.picture hd]
      exact .inr ((getLastD_accepted_eq_iff _ _).mpr hlost)
    · exact .inl rfl
  · rcases draws_frame c with ⟨-, hdraws, -⟩ | ⟨hdraws, -⟩
    · omega
    · have := Bool.toNat_le (c.machine.screen.dirty || decide (0 < c.frameTouches))
      omega
  · rcases draws_frame c with ⟨hframe, -⟩ | ⟨hdraws, hclean⟩
    · exact absurd ht (hframe t)
    · rw [state_of_ok ht] at hdraws hclean
      refine ⟨hclean, ?_⟩
      rw [pending_append_touched, ← hmarks.iff, hdraws]
      cases c.machine.screen.dirty <;> simp

/-- The first frame of the program that draws a pixel shows it. -/
theorem redraws_iff_touched_onePixel : ∃ t : Console Keyboard,
    frame.run ((unattended { clockHz := 120 } {}).after [.load onePixel]) = .ok .proceed t ∧
    t.calls.draw = 1 ∧ shown t.display = t.machine.screen.frame ∧
    t.machine.screen.frame ≠ blankPicture ∧
    Pending (screenWatch.notes (unattended { clockHz := 120 } {}) [.load onePixel] ++
      List.replicate ((unattended { clockHz := 120 } {}).after [.load onePixel]).frameTouches
        .touched) := by
  obtain ⟨m, hm⟩ := (Machine.new { clockHz := 120 } (.chaCha .zero)).load_accepted (p := onePixel)
    (by decide) (by decide)
  obtain ⟨u, hsteps, -, -, hsound, hscreen⟩ := onePixel_draws (Machine.fresh_of_load hm)
  have hload := after_load (c := unattended { clockHz := 120 } {}) hm
  have hprepare := run_prepare_of_steps
    (c := { unattended { clockHz := 120 } {} with machine := m }) (run_pump_of_idle rfl) rfl
    (run_twoSteps rfl hsteps) (tick_soundActive hsound)
  obtain ⟨t, hframe, hdraws, hpicture⟩ : ∃ t : Console Keyboard,
      frame.run ((unattended { clockHz := 120 } {}).after [.load onePixel]) = .ok .proceed t ∧
      t.calls.draw = 1 ∧ t.machine.screen = u.tick.screen.clean := by
    rw [hload]
    exact ⟨_, run_frame_of_shown hprepare (by rw [screen_tick, hscreen]; rfl) rfl, rfl, rfl⟩
  have ht : (new { clockHz := 120 } (.chaCha .zero) ({} : Keyboard) {}).after
      ([.load onePixel] ++ [.frame]) = t := by
    rw [after_append, after_cons, after_nil, act, state_of_ok hframe]
  obtain ⟨-, -, hshows⟩ :=
    redraws_iff_touched { clockHz := 120 } (.chaCha .zero) ({} : Keyboard) {} [.load onePixel]
  obtain ⟨hnew, -⟩ := redraws_iff_touched { clockHz := 120 } (.chaCha .zero) ({} : Keyboard) {}
    ([.load onePixel] ++ [.frame])
  obtain ⟨hclean, hpending⟩ := hshows t hframe
  rw [ht] at hnew
  refine ⟨t, hframe, hdraws, ?_, ?_, hpending.mp ?_⟩
  · exact (hnew fun _ => rfl).resolve_left (by rw [hclean]; exact Bool.false_ne_true)
  · rw [hpicture, screen_tick, hscreen]
    exact onePixel_ne_blank
  · rw [hdraws, hload]
    rfl

end Console

end Chip8
