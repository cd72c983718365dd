import Chip8.Proofs.Frames
import Chip8.Proofs.Pixels

/-!
What the display shows, and what it ought to show.

A picture that the display refuses counts as taken, so it is not handed over again. It is lost
unless the display showed the same picture before, and stays lost until something is drawn.
-/

namespace Chip8

/-- Sprites that cover no pixel leave the screen alone. -/
lemma Screen.blit_eq_or_dirty (s : Screen) (pixels : List (Nat × Nat)) :
    (s.blit pixels).2 = s ∨ (s.blit pixels).2.dirty = true := by
  induction pixels generalizing s with
  | nil => exact .inl rfl
  | cons p rest ih =>
    obtain ⟨x, y⟩ := p
    rw [Screen.blit_cons]
    rcases ih (s.toggle x y).2 with h | h
    · rw [h]
      exact .inr (Screen.dirty_toggle s x y)
    · exact .inr h

/-- A step that changes the screen marks it. -/
lemma Machine.step_screen {m t : Machine} (h : Machine.step.run m = .ok () t) :
    t.screen = m.screen ∨ t.screen.dirty = true := by
  obtain ⟨i, f, u, -, hr, rfl⟩ := step_eq_ok_iff.mp h
  cases hr with
  | clearScreen => exact .inr rfl
  | draw x y n h => exact m.screen.blit_eq_or_dirty _
  | save | restore => exact .inl (by simp)
  | _ => exact .inl rfl

namespace Console

variable {ι : Type}

/-! ### Pictures that are handed over -/

def blankPicture : Frame := Vector.replicate 256 0

/-- What can be seen on a display. -/
def shown (d : Display) : Frame := d.last.getD blankPicture

section

variable [Input ι]

/-- The picture that a frame hands to the display, if any. -/
def offer? (c : Console ι) : Option Frame :=
  match prepare.run c with
  | .ok .proceed t => t.machine.takeFrame.1
  | _ => none

lemma offer?_of_dirty {c t : Console ι} (h : prepare.run c = .ok .proceed t)
    (hdirty : t.machine.screen.dirty = true) : c.offer? = some t.machine.screen.frame := by
  simp only [offer?, h, Machine.takeFrame, Screen.takeFrame, hdirty, if_true]

lemma offer?_of_clean {c t : Console ι} (h : prepare.run c = .ok .proceed t)
    (hclean : t.machine.screen.dirty = false) : c.offer? = none := by
  simp only [offer?, h, Machine.takeFrame, Screen.takeFrame, hclean]
  rfl

def framesOffers : Nat → Console ι → List Frame
  | 0, _ => []
  | n + 1, c => c.offer?.toList ++
    match frame.run c with
    | .ok .proceed t => framesOffers n t
    | _ => []

def actionOffers (c : Console ι) : Action → List Frame
  | .load _ => []
  | .frame => c.offer?.toList
  | .run budget => framesOffers (budget.getD endless) c

/-- The pictures handed to the display during a history, the latest last. -/
def offers (c : Console ι) : List Action → List Frame
  | [] => []
  | a :: as => c.actionOffers a ++ (c.act a).offers as

end

/-- The pictures that the display took, when each call hands it one. -/
def accepted (faults : Faults) (pictures : List Frame) : List Frame :=
  (pictures.zipIdx 1).filterMap fun (f, n) => if (faults.draw n).isNone then some f else none

/-- The last picture was refused, and looks different from what was shown before. -/
def Lost (faults : Faults) (pictures : List Frame) : Prop :=
  ∃ earlier f, pictures = earlier ++ [f] ∧ (faults.draw pictures.length).isSome ∧
    f ≠ (accepted faults earlier).getLastD blankPicture

lemma accepted_concat (faults : Faults) (pictures : List Frame) (f : Frame) :
    accepted faults (pictures ++ [f]) = accepted faults pictures ++
      if (faults.draw (pictures.length + 1)).isNone then [f] else [] := by
  unfold accepted
  rw [List.zipIdx_append, List.filterMap_append, Nat.add_comm 1]
  congr 1
  rcases h : faults.draw (pictures.length + 1) with _ | cause <;> simp [h]

/-! ### Actions that hand over nothing -/

/-- Nothing is handed over between `c` and `t`, and what changes the screen marks it. -/
structure Keeps (c t : Console ι) : Prop where
  faults : t.faults = c.faults
  draws : t.calls.draw = c.calls.draw
  display : t.display = c.display
  screen : t.machine.screen = c.machine.screen ∨ t.machine.screen.dirty = true

lemma Keeps.refl (c : Console ι) : Keeps c c := ⟨rfl, rfl, rfl, .inl rfl⟩

lemma Keeps.trans {c t u : Console ι} (h : Keeps c t) (h' : Keeps t u) : Keeps c u where
  faults := h'.faults.trans h.faults
  draws := h'.draws.trans h.draws
  display := h'.display.trans h.display
  screen := by
    rcases h'.screen with hs | hs
    · rw [hs]
      exact h.screen
    · exact .inr hs

def Quiet {α : Type} (x : Exec ι α) : Prop := ∀ c, Keeps c (state x c)

namespace Quiet

variable {α β : Type}

lemma pure (a : α) : Quiet (pure a : Exec ι α) := Keeps.refl

lemma get : Quiet (MonadState.get : Exec ι (Console ι)) := Keeps.refl

lemma bind {x : Exec ι α} {f : α → Exec ι β} (hx : Quiet x) (hf : ∀ a, Quiet (f a)) :
    Quiet (x >>= f) :=
  Within.bind (R := Keeps) (fun _ _ _ => Keeps.trans) hx hf

end Quiet

lemma quiet_beep : Quiet (beep : Exec ι Unit) := by
  intro c
  simp only [state, run_beep]
  cases c.faults.beep (c.calls.beep + 1) <;> exact ⟨rfl, rfl, rfl, .inl rfl⟩

lemma quiet_stop : Quiet (stop : Exec ι Unit) := by
  intro c
  simp only [state, run_stop]
  cases c.faults.stop (c.calls.stop + 1) <;> exact ⟨rfl, rfl, rfl, .inl rfl⟩

lemma quiet_step : Quiet (step : Exec ι Unit) := by
  intro c
  simp only [state, run_step]
  rcases h : Machine.step.run c.machine with ⟨⟨⟩, t⟩ | ⟨e, t⟩
  · exact ⟨rfl, rfl, rfl, Machine.step_screen h⟩
  · exact .refl c

lemma quiet_tick : Quiet (tick : Exec ι Unit) := by
  intro c
  change Keeps c (if c.config.timers = .fixed then { c with machine := c.machine.tick } else c)
  split
  · exact ⟨rfl, rfl, rfl, .inl rfl⟩
  · exact .refl c

lemma quiet_setBeeping (b : Bool) :
    Quiet (modify fun c => { c with beeping := b } : Exec ι PUnit) :=
  fun _ => ⟨rfl, rfl, rfl, .inl rfl⟩

lemma quiet_updateBuzzer : Quiet (updateBuzzer : Exec ι Unit) := by
  refine Quiet.get.bind fun c => ?_
  dsimp only
  split
  · split
    · exact quiet_beep.bind fun _ => quiet_setBeeping _
    · exact quiet_stop.bind fun _ => quiet_setBeeping _
  · exact .pure ()

lemma quiet_silence : Quiet (silence : Exec ι Unit) := by
  refine Quiet.get.bind fun c => ?_
  split
  · exact quiet_stop.bind fun _ => quiet_setBeeping _
  · exact .pure ()

/-! ### What a history leaves on the display -/

/-- The display shows the last picture that it took, and an unmarked screen the last picture that
was handed over. -/
structure Presents (faults : Faults) (pictures : List Frame) (c : Console ι) : Prop where
  schedule : c.faults = faults
  draws : c.calls.draw = pictures.length
  last : c.display.last = (accepted faults pictures).getLast?
  picture : c.machine.screen.dirty = false →
    c.machine.screen.frame = pictures.getLastD blankPicture

variable {faults : Faults} {pictures : List Frame} {c t : Console ι}

lemma Presents.keeps (h : Presents faults pictures c) (hk : Keeps c t) :
    Presents faults pictures t where
  schedule := hk.faults.trans h.schedule
  draws := hk.draws.trans h.draws
  last := by rw [hk.display, h.last]
  picture := by
    intro ht
    rcases hk.screen with hs | hs
    · rw [hs] at ht ⊢
      exact h.picture ht
    · rw [hs] at ht
      cases ht

/-- Handing a picture over. -/
lemma Presents.present (h : Presents faults pictures c) :
    Presents faults (pictures ++ c.machine.takeFrame.1.toList) (state present c) ∧
      (state present c).machine.screen.dirty = false := by
  unfold state
  rw [run_present, Machine.takeFrame, Screen.takeFrame]
  by_cases hd : c.machine.screen.dirty
  · rw [if_pos hd, if_pos hd, run_draw]
    dsimp only [Option.toList_some]
    rw [h.schedule, h.draws]
    rcases hr : faults.draw (pictures.length + 1) with _ | cause
    · refine ⟨⟨rfl, ?_, ?_, fun _ => ?_⟩, rfl⟩
      · simp
      · simp [accepted_concat, hr, Display.draw]
      · rw [List.getLastD_concat]
        rfl
    · refine ⟨⟨rfl, ?_, ?_, fun _ => ?_⟩, rfl⟩
      · simp
      · simp [accepted_concat, hr, h.last]
      · rw [List.getLastD_concat]
        rfl
  · rw [if_neg hd, if_neg hd]
    exact ⟨by simpa using h, by simpa using hd⟩

lemma presents_new (config : Config) (random : Randomness) (input : ι) (faults : Faults) :
    Presents faults [] (new config random input faults) where
  schedule := rfl
  draws := rfl
  last := rfl
  picture := fun _ => rfl

variable [Input ι]

lemma quiet_pump : Quiet (pump : Exec ι Signal) := by
  intro c
  rw [show state pump c = _ from looked_pump c]
  exact ⟨rfl, rfl, rfl, .inl rfl⟩

lemma quiet_prepare : Quiet (prepare : Exec ι Signal) :=
  within_prepare Keeps.refl (fun _ _ _ => Keeps.trans) quiet_pump quiet_step quiet_tick
    quiet_updateBuzzer

lemma Presents.frame (h : Presents faults pictures c) :
    Presents faults (pictures ++ c.offer?.toList) (state frame c) := by
  have hp := h.keeps (quiet_prepare c)
  rcases frame_cases c with ⟨hprepare, -, hs⟩ | ⟨t, hprepare, hs⟩
  · have hoffer : c.offer? = none := by
      unfold offer?
      split
      next t ht => exact absurd ht (hprepare t)
      next => rfl
    rw [hoffer, hs]
    simpa using hp
  · have hoffer : c.offer? = t.machine.takeFrame.1 := by
      simp only [offer?, hprepare]
    rw [state_of_ok hprepare] at hp
    rw [hoffer, hs]
    exact hp.present.1

lemma Presents.clean_of_frame (h : Presents faults pictures c) {k : Console ι}
    (hk : Console.frame.run c = .ok .proceed k) : k.machine.screen.dirty = false := by
  have hp := h.keeps (quiet_prepare c)
  rcases frame_cases c with ⟨-, hframe, -⟩ | ⟨t, hprepare, hs⟩
  · exact absurd hk (hframe k)
  · rw [state_of_ok hprepare] at hp
    rw [state_of_ok hk] at hs
    rw [hs]
    exact hp.present.2

lemma Presents.load (h : Presents faults pictures c) (program : List UInt8) :
    Presents faults pictures (c.act (.load program)) := by
  rcases act_load c program with ⟨-, -, ht⟩ | ⟨machine, hm, ht⟩
  · rw [ht]
    exact h
  · rw [ht]
    refine h.keeps ⟨rfl, rfl, rfl, .inr ?_⟩
    obtain ⟨memory, -, rfl⟩ := Machine.load_eq_ok_iff.mp hm
    rfl

/-- The pictures that are handed over, noted frame by frame. -/
def offerNotes : Onlooker ι Frame where
  load _ _ := []
  frame c := c.offer?.toList

lemma framesOffers_eq (n : Nat) (c : Console ι) : framesOffers n c = offerNotes.frames n c := by
  induction n generalizing c with
  | zero => rfl
  | succ n ih =>
    simp only [framesOffers, Onlooker.frames, ih]
    rfl

lemma offers_eq (c : Console ι) (history : List Action) :
    c.offers history = offerNotes.notes c history := by
  induction history generalizing c with
  | nil => rfl
  | cons a as ih =>
    rw [offers, ih, Onlooker.notes]
    cases a with
    | load program => rfl
    | frame => rfl
    | run budget => rw [actionOffers, framesOffers_eq, Onlooker.action]

lemma presents_after (h : Presents faults pictures c) (history : List Action) :
    Presents faults (pictures ++ c.offers history) (c.after history) := by
  rw [offers_eq]
  refine offerNotes.induction (fun l c program h => ?_) (fun _ _ h => h.frame)
    (fun _ c h => h.keeps (quiet_silence c)) h history
  rw [offerNotes, List.append_nil]
  exact h.load program

lemma offers_concat (c : Console ι) (history : List Action) (a : Action) :
    c.offers (history ++ [a]) = c.offers history ++ (c.after history).actionOffers a := by
  induction history generalizing c with
  | nil => simp [offers]
  | cons b bs ih =>
    rw [List.cons_append, offers, ih, offers, List.append_assoc]
    rfl

/-- The last picture that a display took is the last one handed over, unless that one was refused
and looks different. -/
lemma getLastD_accepted_eq_iff (faults : Faults) (pictures : List Frame) :
    (accepted faults pictures).getLastD blankPicture = pictures.getLastD blankPicture ↔
      ¬ Lost faults pictures := by
  rcases List.eq_nil_or_concat pictures with rfl | ⟨earlier, f, rfl⟩
  · simp [Lost, accepted]
  · have hlost : Lost faults (earlier ++ [f]) ↔ (faults.draw (earlier.length + 1)).isSome ∧
        f ≠ (accepted faults earlier).getLastD blankPicture := by
      constructor
      · rintro ⟨earlier', f', heq, hrefused, hne⟩
        obtain ⟨rfl, rfl⟩ := List.append_singleton_inj.mp heq
        exact ⟨by simpa using hrefused, hne⟩
      · exact fun ⟨hrefused, hne⟩ => ⟨earlier, f, rfl, by simpa using hrefused, hne⟩
    rw [List.concat_eq_append, hlost, accepted_concat, List.getLastD_concat]
    rcases faults.draw (earlier.length + 1) with _ | cause
    · simp
    · simp [eq_comm]

/-- **What the display shows** after a frame that goes through: the picture of the screen, unless
the last picture handed over was refused and looks different from what was shown before. -/
theorem shown_eq_frame_iff {config : Config} {random : Randomness} {input : ι} {faults : Faults}
    {history : List Action} {k : Console ι}
    (h : Console.frame.run ((new config random input faults).after history) = .ok .proceed k) :
    let pictures := (new config random input faults).offers (history ++ [.frame])
    k.machine.screen.frame = pictures.getLastD blankPicture ∧
    shown k.display = (accepted faults pictures).getLastD blankPicture ∧
    (shown k.display = k.machine.screen.frame ↔ ¬ Lost faults pictures) := by
  intro pictures
  have hbefore := presents_after (presents_new config random input faults) history
  have hafter : Presents faults pictures k := by
    have := hbefore.frame
    rwa [state_of_ok h, List.nil_append, ← actionOffers, ← offers_concat] at this
  have hframe : k.machine.screen.frame = pictures.getLastD blankPicture :=
    hafter.picture (hbefore.clean_of_frame h)
  have hshown : shown k.display = (accepted faults pictures).getLastD blankPicture := by
    rw [shown, hafter.last, List.getLastD_eq_getLast?]
  refine ⟨hframe, hshown, ?_⟩
  rw [hframe, hshown]
  exact getLastD_accepted_eq_iff faults pictures

/-! ### A picture that is lost -/

/-- A program that draws one pixel, and then nothing. -/
def onePixel : List UInt8 := [0xA2, 0x04, 0xD0, 0x01, 0x80]

lemma sound_finish {m : Machine} {pc : UInt16} (h : m.sound = 0) : (m.finish pc).sound = 0 := by
  simp only [Machine.finish, h]
  split <;> rfl

lemma screen_tick (m : Machine) : m.tick.screen = m.screen := rfl

lemma tick_soundActive {m : Machine} (h : m.sound = 0) : m.tick.soundActive = false := by
  simp [Machine.soundActive, Machine.tick, h, Machine.countDown]

lemma onePixel_draws {m : Machine} (h : Machine.Fresh onePixel m) :
    ∃ t, (Machine.steps 2).run m = .ok () t ∧ t.pc = 0x204 ∧ t.memory = m.memory ∧ t.sound = 0 ∧
      t.screen = (Screen.blank.clear.toggle 0 0).2 := by
  obtain ⟨t, ht⟩ : ∃ t, t = ({ m with index := 0x204 } : Machine).finish 0x202 := ⟨_, rfl⟩
  have h₁ : Machine.step.run m = .ok () t := by
    rw [ht, Machine.step_of_executes h.instruction? (.setIndex 0x204), h.pc]
    rfl
  have hsprite : t.sprite 1 = .ok [0x80] := by
    have hbyte := h.byte (i := 0x204) (by decide) (by decide)
    rw [ht]
    refine Memory.readBlock_eq_ok_iff.mpr ⟨Memory.checkReadable_eq_ok_iff.mpr
      ⟨h.isLoaded, .inr ⟨show 0x200 ≤ 0x204 by decide, show 0x204 + 1 ≤ 4096 by decide⟩⟩, ?_⟩
    change [0x80] = [m.memory.byte 0x204]
    rw [hbyte]
    rfl
  have hi : t.instruction? = some (.draw 0 0 1) :=
    h.instruction?_at (a := 0x202) (by rw [ht]; rfl) (by rw [ht]; rfl) (by decide) (by decide)
  have h₂ := Machine.step_of_executes hi (.draw 0 0 1 hsprite)
  have hblit : (t.blitAt 0 0 [0x80]).2 = (Screen.blank.clear.toggle 0 0).2 := by
    have hv : t.v.get 0 = 0 := by
      rw [ht]
      change m.v.get 0 = 0
      rw [h.v]
      rfl
    have hscreen : t.screen = Screen.blank.clear := by
      rw [ht]
      exact h.screen
    rw [Machine.blitAt, hv, hscreen]
    rfl
  refine ⟨_, Machine.run_steps_two h₁ h₂, ?_, ?_, ?_, hblit⟩
  · rw [ht]
    rfl
  · rw [ht]
    rfl
  · refine sound_finish ?_
    change t.sound = 0
    rw [ht]
    exact sound_finish h.sound

lemma onePixel_rests {m t : Machine} (h : Machine.Fresh onePixel m) (hpc : t.pc = 0x204)
    (hmem : t.memory = m.memory) (hsound : t.sound = 0) :
    ∃ u, (Machine.steps 2).run t = .ok () u ∧ u.sound = 0 ∧ u.screen = t.screen := by
  have hi : t.instruction? = some (.copy 0 0) :=
    h.instruction?_at hmem hpc (by decide) (by decide)
  obtain ⟨u, hu⟩ : ∃ u, u = (t.put 0 (t.v.get 0)).finish 0x206 := ⟨_, rfl⟩
  have h₁ : Machine.step.run t = .ok () u := by
    rw [hu, Machine.step_of_executes hi (.copy 0 0), hpc]
    rfl
  have hi' : u.instruction? = some (.unknown 0) :=
    h.instruction?_at (a := 0x206) (by rw [hu]; exact hmem) (by rw [hu]; rfl) (by decide)
      (by decide)
  have h₂ := Machine.step_of_executes hi' (.unknown 0)
  refine ⟨_, Machine.run_steps_two h₁ h₂, sound_finish ?_, ?_⟩
  · rw [hu]
    exact sound_finish hsound
  · rw [hu]
    rfl

/-- The picture of the pixel can be told from a blank one. -/
lemma onePixel_ne_blank : (Screen.blank.clear.toggle 0 0).2.frame ≠ blankPicture := by
  intro h
  have hlit : (Screen.blank.clear.toggle 0 0).2.pixel 0 0 = true := by
    rw [Screen.pixel_toggle, if_pos rfl, Screen.pixel_clear]
    rfl
  have hdark : blankPicture.pixel 0 0 = false := Screen.pixel_blank 0 0
  rw [Screen.pixel, h, hdark] at hlit
  cases hlit

/-- The first picture is refused. -/
def refusesFirst : Faults where
  draw n := if n = 1 then some "screen gone" else none

/-- A picture that is refused is not handed over again by a frame that draws nothing. -/
lemma refused_then_idle {c : Console Keyboard} {t u : Machine} {cause : String}
    (hkeys : c.input = {}) (htimers : c.config.timers = .fixed) (hbeeping : c.beeping = false)
    (hdraws : (Machine.steps c.config.stepsPerFrame).run c.machine = .ok () t)
    (hsound : t.sound = 0) (hdirty : t.tick.screen.dirty = true)
    (hrefused : c.faults.draw (c.calls.draw + 1) = some cause)
    (hrests : (Machine.steps c.config.stepsPerFrame).run
      { t.tick with screen := t.tick.screen.clean } = .ok () u)
    (hsound' : u.sound = 0) (hclean : u.tick.screen.dirty = false) :
    c.offers [.frame, .frame] = [t.tick.screen.frame] ∧
      ∃ k, Console.frame.run (c.act .frame) = .ok .proceed k := by
  have hprepare := run_prepare_of_steps (run_pump_of_idle hkeys) htimers hdraws
    ((tick_soundActive hsound).trans hbeeping.symm)
  obtain ⟨d, hd⟩ : ∃ d, c.act .frame = d := ⟨_, rfl⟩
  have hframe := (state_of_error (run_frame_of_refused hprepare hdirty hrefused)).symm.trans hd
  have hprepare' := run_prepare_of_steps (c := d) (m := u)
    (run_pump_of_idle (by rw [← hframe]; exact hkeys)) (by rw [← hframe]; exact htimers)
    (by rw [← hframe]; exact hrests)
    (by rw [← hframe]; exact (tick_soundActive hsound').trans hbeeping.symm)
  refine ⟨?_, _, hd ▸ run_frame_of_clean hprepare' hclean⟩
  have hoffer := offer?_of_dirty hprepare hdirty
  have hoffer' := offer?_of_clean hprepare' hclean
  simp only [offers, hd, actionOffers, hoffer, hoffer']
  rfl

/-- A display that refuses the picture of the pixel does not show it after the next frame either. -/
theorem shown_eq_frame_iff_refused : ∃ k : Console Keyboard,
    Console.frame.run
        ((unattended { clockHz := 120 } refusesFirst).after [.load onePixel, .frame]) =
      .ok .proceed k ∧ shown k.display ≠ k.machine.screen.frame := by
  obtain ⟨m, hm⟩ := (Machine.new { clockHz := 120 } (.chaCha .zero)).load_accepted (p := onePixel)
    (by decide) (by decide)
  have hfresh := Machine.fresh_of_load hm
  obtain ⟨t, hsteps, hpc, hmem, hsound, hscreen⟩ := onePixel_draws hfresh
  obtain ⟨u, hsteps', hsound', hscreen'⟩ :=
    onePixel_rests (t := { t.tick with screen := t.tick.screen.clean }) hfresh hpc hmem (by
      simp [Machine.tick, hsound, Machine.countDown])
  obtain ⟨c, hload, hc⟩ : ∃ c,
      (unattended { clockHz := 120 } refusesFirst).after [.load onePixel] = c ∧
      c = { unattended { clockHz := 120 } refusesFirst with machine := m } :=
    ⟨_, rfl, after_load (c := unattended { clockHz := 120 } refusesFirst) hm⟩
  rw [after_cons, after_nil] at hload
  have hconfig : c.config = { clockHz := 120 } := by
    rw [hc]
    rfl
  have hdirty : t.tick.screen.dirty = true := by
    rw [screen_tick, hscreen]
    rfl
  have hclean : u.tick.screen.dirty = false := by
    rw [screen_tick, hscreen']
    rfl
  obtain ⟨hoffers, k, hk⟩ := refused_then_idle (c := c) (t := t) (u := u) (by rw [hc]; rfl)
    (by rw [hc]; rfl) (by rw [hc]; rfl)
    (run_twoSteps hconfig (by rw [hc]; exact hsteps)) hsound hdirty (by rw [hc]; rfl)
    (run_twoSteps hconfig hsteps') hsound' hclean
  have hframe : Console.frame.run
      ((unattended { clockHz := 120 } refusesFirst).after [.load onePixel, .frame]) =
        .ok .proceed k := by
    rw [after_cons, hload]
    exact hk
  have hpictures : (unattended { clockHz := 120 } refusesFirst).offers
      ([.load onePixel, .frame] ++ [.frame]) = [t.tick.screen.frame] := by
    rw [List.cons_append, List.cons_append, List.nil_append, offers, hload, hoffers, actionOffers,
      List.nil_append]
  have hlost : Lost refusesFirst [t.tick.screen.frame] := by
    refine ⟨[], t.tick.screen.frame, rfl, rfl, ?_⟩
    rw [screen_tick, hscreen]
    exact onePixel_ne_blank
  obtain ⟨-, -, hiff⟩ := shown_eq_frame_iff hframe
  exact ⟨k, hframe, fun hshown => hiff.mp hshown (hpictures ▸ hlost)⟩

end Console

end Chip8
