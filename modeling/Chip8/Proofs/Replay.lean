import Chip8.Proofs.Alike
import Chip8.Proofs.Runs

/-!
What a console does to its machine is what can be done to a machine without any devices: put the
next state on the keypad, step, and count the timers down.

The machine of the console and the one without devices stay alike, frame after frame. They may
differ in the mark on the screen, which the console wipes when it takes the picture.
-/

namespace Chip8

namespace Machine

/-- A frame's worth of work on a machine without devices. -/
def replayFrame (c : Config) (keys? : Option Keypad) : Exec Unit := do
  modify fun m => { m with keypad := keys?.getD m.keypad }
  steps (max 1 (c.clockHz / max 1 c.timerHz))
  if c.timers = .fixed then modify tick

/-- As many frames. Once the script is over the keypad stays as it is. -/
def replay (c : Config) : List Keypad → Nat → Exec Unit
  | _, 0 => pure ()
  | script, n + 1 => do
    replayFrame c script.head?
    replay c script.tail n

variable {m m' t : Machine} {c : Config} {keys? : Option Keypad} {n : Nat}

/-- The timers at the end of a frame. -/
def endFrame (m : Machine) (c : Config) : Machine := if c.timers = .fixed then m.tick else m

lemma replayFrame_eq_ok_iff : (replayFrame c keys?).run m = .ok () t ↔
    ∃ u, (steps c.stepsPerFrame).run { m with keypad := keys?.getD m.keypad } = .ok () u ∧
      t = u.endFrame c := by
  have htick (u : Machine) :
      (if c.timers = .fixed then modify tick else pure () : Exec Unit).run u =
        .ok () (u.endFrame c) := by
    unfold endFrame
    split <;> rfl
  change (steps c.stepsPerFrame >>= fun _ => _ : Exec Unit).run
    { m with keypad := keys?.getD m.keypad } = _ ↔ _
  rw [bind_eq_ok_iff]
  constructor
  · rintro ⟨⟨⟩, u, hu, ht⟩
    rw [htick] at ht
    cases ht
    exact ⟨u, hu, rfl⟩
  · rintro ⟨u, hu, rfl⟩
    exact ⟨(), u, hu, htick u⟩

lemma replay_succ_eq_ok_iff {script : List Keypad} : (replay c script (n + 1)).run m = .ok () t ↔
    ∃ u, (replayFrame c script.head?).run m = .ok () u ∧
      (replay c script.tail n).run u = .ok () t :=
  bind_eq_ok_iff.trans ⟨fun ⟨_, h⟩ => h, fun h => ⟨(), h⟩⟩

lemma Alike.endFrame (h : Alike m m') (c : Config) : Alike (m.endFrame c) (m'.endFrame c) := by
  unfold Machine.endFrame
  split
  · exact h.tick
  · exact h

lemma cycles_of_steps (h : (steps n).run m = .ok () t) : t.cycles = m.cycles + n := by
  induction n generalizing m with
  | zero =>
    cases h
    rfl
  | succ n ih =>
    obtain ⟨u, hu, ht⟩ := steps_succ_eq_ok_iff.mp h
    obtain ⟨i, f, u', -, hr, rfl⟩ := step_eq_ok_iff.mp hu
    rw [ih ht, cycles_finish, hr.cycles, Nat.add_assoc, Nat.add_comm 1]

lemma cycles_endFrame (m : Machine) (c : Config) : (m.endFrame c).cycles = m.cycles := by
  unfold endFrame
  split <;> rfl

lemma cycles_of_replay {script : List Keypad} (h : (replay c script n).run m = .ok () t) :
    t.cycles = m.cycles + n * c.stepsPerFrame := by
  induction n generalizing script m with
  | zero =>
    cases h
    rw [Nat.zero_mul, Nat.add_zero]
  | succ n ih =>
    obtain ⟨u, hu, ht⟩ := replay_succ_eq_ok_iff.mp h
    obtain ⟨v, hv, rfl⟩ := replayFrame_eq_ok_iff.mp hu
    rw [ih ht, cycles_endFrame, cycles_of_steps hv, Nat.succ_mul, Nat.add_assoc,
      Nat.add_comm c.stepsPerFrame]

/-- A machine that was built and loaded has not run yet. -/
lemma cycles_after_load (c : Config) (random : Randomness) (p : List UInt8) :
    ((new c random).after [.load p]).cycles = 0 := by
  rw [after_cons, after_nil]
  rcases act_load (new c random) p with ⟨-, ht⟩ | ⟨memory, -, -, ht⟩
  · rw [ht]
    rfl
  · rw [ht]
    rfl

end Machine

/-- What a look at the keyboard leaves of its script, and puts on the keypad. -/
lemma Keyboard.pump_snd (k : Keyboard) (p : Keypad) :
    (k.pump p).2 = ({ k with script := k.script.tail }, k.script.head?.getD p) := by
  obtain ⟨script, quits⟩ := k
  cases script <;> rfl

/-- The keyboard asks to quit. -/
def Keyboard.Over (k : Keyboard) : Prop := k.script = [] ∧ k.quits = true

lemma Keyboard.pump_fst_eq_quit_iff {k : Keyboard} {p : Keypad} :
    (k.pump p).1 = .quit ↔ k.Over := by
  obtain ⟨script, quits⟩ := k
  unfold pump Over
  cases script <;> cases quits <;> simp

/-- A call that does not fail reaches the device. -/
lemma Flaky.run_pump (f : Flaky Keyboard) (p : Keypad) : Input.pump.run (f, p) =
    match f.faults (f.calls + 1) with
    | some cause => .error cause ({ f with calls := f.calls + 1 }, p)
    | none => .ok (f.device.pump p).1
      ({ f with device := (f.device.pump p).2.1, calls := f.calls + 1 },
        (f.device.pump p).2.2) := by
  change pump.run (f, p) = _
  simp only [pump, EStateM.run_bind, EStateM.run_modify, EStateM.run_get]
  cases f.faults (f.calls + 1) <;> rfl

namespace Console

section

variable {ι : Type} {c t u : Console ι}

/-! ### How a frame ends -/

/-- Where a call fails, there are faults. -/
lemma faults_ne {faults : Faults} {k : Nat} {cause : String} (device : Faults → Nat → Option String)
    (hnone : device {} k = none) (h : device faults k = some cause) : faults ≠ {} := by
  rintro rfl
  rw [hnone] at h
  cases h

/-- The devices were called, and that changed nothing of the emulation. -/
structure Leaves (c t : Console ι) : Prop where
  machine : t.machine.Alike c.machine
  config : t.config = c.config
  input : t.input = c.input
  faults : t.faults = c.faults

lemma Leaves.trans (h : Leaves c t) (h' : Leaves t u) : Leaves c u where
  machine := h'.machine.trans h.machine
  config := h'.config.trans h.config
  input := h'.input.trans h.input
  faults := h'.faults.trans h.faults

lemma updateBuzzer_cases (c : Console ι) :
    (c.faults ≠ {} ∧ ∃ cause t, updateBuzzer.run c = .error (.sound cause) t) ∨
    ∃ t, updateBuzzer.run c = .ok () t ∧ Leaves c t := by
  rw [run_updateBuzzer]
  by_cases h : c.machine.soundActive = c.beeping
  · rw [if_pos h]
    exact .inr ⟨c, rfl, rfl, rfl, rfl, rfl⟩
  · rw [if_neg h]
    cases c.machine.soundActive
    · simp only [Bool.false_eq_true, if_false, run_stop]
      cases hfault : c.faults.stop (c.calls.stop + 1)
      · exact .inr ⟨_, rfl, rfl, rfl, rfl, rfl⟩
      · exact .inl ⟨faults_ne (·.stop) rfl hfault, _, _, rfl⟩
    · simp only [if_true, run_beep]
      cases hfault : c.faults.beep (c.calls.beep + 1)
      · exact .inr ⟨_, rfl, rfl, rfl, rfl, rfl⟩
      · exact .inl ⟨faults_ne (·.beep) rfl hfault, _, _, rfl⟩

lemma present_cases (c : Console ι) :
    (c.faults ≠ {} ∧ ∃ cause t, present.run c = .error (.terminal cause) t) ∨
    ∃ t, present.run c = .ok () t ∧ Leaves c t := by
  rw [run_present]
  by_cases h : c.machine.screen.dirty
  · rw [if_pos h, run_draw]
    dsimp only
    cases hfault : c.faults.draw (c.calls.draw + 1)
    · exact .inr ⟨_, rfl, Machine.alike_clean _, rfl, rfl, rfl⟩
    · exact .inl ⟨faults_ne (·.draw) rfl hfault, _, _, rfl⟩
  · rw [if_neg h]
    exact .inr ⟨c, rfl, rfl, rfl, rfl, rfl⟩

/-- No device fails in any frame to come, nor when the buzzer is switched off after them. -/
structure Undisturbed [Input ι] (c : Console ι) : Prop where
  terminal : ∀ n d cause t, Proceeds n c d → frame.run d ≠ .error (.terminal cause) t
  sound : ∀ n d cause t, Proceeds n c d → frame.run d ≠ .error (.sound cause) t
  silence : ∀ n d t cause, Proceeds n c d → frame.run d = .ok .quit t → ¬ StaysOn t cause

lemma Undisturbed.next [Input ι] (h : Undisturbed c) (ht : frame.run c = .ok .proceed t) :
    Undisturbed t where
  terminal n d cause u hd := h.terminal (n + 1) d cause u (.next ht hd)
  sound n d cause u hd := h.sound (n + 1) d cause u (.next ht hd)
  silence n d u cause hd := h.silence (n + 1) d u cause (.next ht hd)

end

/-! ### Frames of a console that runs a script -/

variable {c d t : Console (Flaky Keyboard)} {config : Config} {script : List Keypad} {quits : Bool}
  {m b : Machine} {n : Nat}

/-- The machine of a console with the next keys of the script on its keypad. -/
def scripted (c : Console (Flaky Keyboard)) : Machine :=
  { c.machine with keypad := c.input.device.script.head?.getD c.machine.keypad }

/-- No call to a device ever fails. -/
structure Faultless (c : Console (Flaky Keyboard)) : Prop where
  input : c.input.faults = fun _ => none
  devices : c.faults = {}

lemma pump_cases (c : Console (Flaky Keyboard)) :
    (¬ Faultless c ∧ ∃ cause t, pump.run c = .error (.terminal cause) t) ∨
    (c.input.device.Over ∧ ∃ t, pump.run c = .ok .quit t ∧ (Faultless c → Faultless t)) ∨
    ¬ c.input.device.Over ∧ ∃ t, pump.run c = .ok .proceed t ∧ t.machine = c.scripted ∧
      t.config = c.config ∧ (Faultless c → Faultless t) ∧
      t.input.device = { c.input.device with script := c.input.device.script.tail } := by
  rw [run_pump, Flaky.run_pump]
  cases hfault : c.input.faults (c.input.calls + 1) with
  | some cause =>
    refine .inl ⟨fun h => ?_, cause, _, rfl⟩
    rw [h.input] at hfault
    cases hfault
  | none =>
    have hover := c.input.device.pump_fst_eq_quit_iff (p := c.machine.keypad)
    simp only [c.input.device.pump_snd]
    cases hsignal : (c.input.device.pump c.machine.keypad).1 with
    | quit => exact .inr (.inl ⟨hover.mp hsignal, _, rfl, fun h => ⟨h.input, h.devices⟩⟩)
    | proceed =>
      refine .inr (.inr ⟨fun h => ?_, _, rfl, rfl, rfl, fun h => ⟨h.input, h.devices⟩, rfl⟩)
      rw [hover.mpr h] at hsignal
      cases hsignal

/-- `Ends c r`: a frame of console `c` may end with `r`. A device fails, or the keyboard asks to
quit, or a step fails, or the machine has run for a frame. -/
inductive Ends (c : Console (Flaky Keyboard)) :
    EStateM.Result ConsoleError (Console (Flaky Keyboard)) Signal → Prop where
  | terminal (cause : String) (t : Console (Flaky Keyboard)) (h : ¬ Faultless c) :
    Ends c (.error (.terminal cause) t)
  | sound (cause : String) (t : Console (Flaky Keyboard)) (h : ¬ Faultless c) :
    Ends c (.error (.sound cause) t)
  | quit {t : Console (Flaky Keyboard)} (h : c.input.device.Over)
    (faultless : Faultless c → Faultless t) : Ends c (.ok .quit t)
  | step {e : StepError} {m : Machine} (t : Console (Flaky Keyboard)) (h : ¬ c.input.device.Over)
    (hm : (Machine.steps c.config.stepsPerFrame).run c.scripted = .error e m) :
    Ends c (.error (.step m.pc e) t)
  | proceed {m : Machine} {t : Console (Flaky Keyboard)} (h : ¬ c.input.device.Over)
    (hm : (Machine.steps c.config.stepsPerFrame).run c.scripted = .ok () m)
    (machine : t.machine.Alike (m.endFrame c.config)) (config : t.config = c.config)
    (keyboard : t.input.device = { c.input.device with script := c.input.device.script.tail })
    (faultless : Faultless c → Faultless t) : Ends c (.ok .proceed t)

lemma frame_ends (c : Console (Flaky Keyboard)) : Ends c (frame.run c) := by
  rw [run_frame, run_prepare]
  rcases pump_cases c with ⟨hne, cause, t, ht⟩ | ⟨hover, t, ht, hfaultless⟩ |
    ⟨hover, t, ht, hm, hconfig, hfaultless, hkeys⟩
  · rw [ht]
    exact .terminal cause t hne
  · rw [ht]
    exact .quit hover hfaultless
  · rw [ht]
    dsimp only
    rcases hsteps : (Machine.steps t.config.stepsPerFrame).run t.machine with ⟨⟨⟩, m⟩ | ⟨e, m⟩
    · dsimp only
      rw [hm, hconfig] at hsteps
      rcases updateBuzzer_cases { t with machine := m.endFrame t.config } with
        ⟨hne, cause, u, hu⟩ | ⟨u, hu, hbuzzer⟩
      · rw [Machine.endFrame] at hu
        rw [hu]
        exact .sound cause u fun h => hne (hfaultless h).devices
      · rw [Machine.endFrame] at hu
        rw [hu]
        dsimp only
        rcases present_cases u with ⟨hne, cause, v, hv⟩ | ⟨v, hv, hpicture⟩
        · rw [hv]
          exact .terminal cause v fun h => hne (hbuzzer.faults.trans (hfaultless h).devices)
        · rw [hv]
          obtain ⟨hmachine, hc, hk, hf⟩ := hbuzzer.trans hpicture
          rw [hconfig] at hmachine
          refine .proceed hover hsteps hmachine (hc.trans hconfig) ?_ fun h => ⟨?_, ?_⟩
          · rw [hk, hkeys]
          · rw [hk, (hfaultless h).input]
          · rw [hf, (hfaultless h).devices]
    · rw [hm, hconfig] at hsteps
      exact .step _ hover hsteps

/-! ### The machine without devices keeps up -/

/-- A console that is to run a script, and a machine without devices that is as far as it is. -/
structure Follows (config : Config) (script : List Keypad) (quits : Bool)
    (c : Console (Flaky Keyboard)) (m : Machine) : Prop where
  config : c.config = config
  keyboard : c.input.device = { script, quits }
  machine : c.machine.Alike m

lemma Follows.scripted (h : Follows config script quits c m) :
    c.scripted.Alike { m with keypad := script.head?.getD m.keypad } := by
  rw [Console.scripted, h.keyboard, ← h.machine.keypad]
  exact h.machine.store _

/-- What a frame of the console does, the machine without devices does too. -/
lemma Follows.of_frame (h : Follows config script quits c m) (hd : frame.run c = .ok .proceed d) :
    ∃ b, (Machine.replayFrame config script.head?).run m = .ok () b ∧
      Follows config script.tail quits d b := by
  have hends := frame_ends c
  rw [hd] at hends
  cases hends with
  | proceed hover hsteps hmachine hconfig hkeys _ =>
    obtain ⟨b, hb, halike⟩ := h.scripted.run_steps hsteps
    rw [h.config] at hb hmachine hconfig
    rw [h.keyboard] at hkeys
    exact ⟨b.endFrame config, Machine.replayFrame_eq_ok_iff.mpr ⟨b, hb, rfl⟩, hconfig, hkeys,
      hmachine.trans (halike.endFrame config)⟩

lemma Follows.of_proceeds (h : Follows config script quits c m) (hd : Proceeds n c d) :
    ∃ b, (Machine.replay config script n).run m = .ok () b ∧
      Follows config (script.drop n) quits d b := by
  induction hd generalizing script m with
  | refl c => exact ⟨m, rfl, h⟩
  | @next n c t d ht _ ih =>
    obtain ⟨b, hb, hfollows⟩ := h.of_frame ht
    obtain ⟨b', hb', hfollows'⟩ := ih hfollows
    rw [List.drop_tail] at hfollows'
    exact ⟨b', Machine.replay_succ_eq_ok_iff.mpr ⟨b, hb, hb'⟩, hfollows'⟩

lemma Faultless.of_proceeds (h : Faultless c) (hd : Proceeds n c d) : Faultless d := by
  induction hd with
  | refl c => exact h
  | @next n c t d ht _ ih =>
    have hends := frame_ends c
    rw [ht] at hends
    cases hends with
    | proceed _ _ _ _ _ hfaultless => exact ih (hfaultless h)

lemma Faultless.undisturbed (h : Faultless c) : Undisturbed c where
  terminal n d cause t hd ht := by
    have hends := frame_ends d
    rw [ht] at hends
    cases hends with
    | terminal _ _ hne => exact hne (h.of_proceeds hd)
  sound n d cause t hd ht := by
    have hends := frame_ends d
    rw [ht] at hends
    cases hends with
    | sound _ _ hne => exact hne (h.of_proceeds hd)
  silence n d t cause hd ht hon := by
    have hends := frame_ends d
    rw [ht] at hends
    cases hends with
    | quit _ hfaultless =>
      exact faults_ne (·.stop) rfl hon.2 (hfaultless (h.of_proceeds hd)).devices

/-- As long as the script goes on and no device fails, the console keeps up with the machine without
devices. -/
lemma Follows.of_replayFrame (h : Follows config script quits c m) (hscript : script ≠ [])
    (hc : Undisturbed c) (hb : (Machine.replayFrame config script.head?).run m = .ok () b) :
    ∃ d, frame.run c = .ok .proceed d ∧ Follows config script.tail quits d b := by
  have hends := frame_ends c
  generalize hr : frame.run c = r at hends
  cases hends with
  | terminal cause t => exact absurd hr (hc.terminal 0 c cause t (.refl c))
  | sound cause t => exact absurd hr (hc.sound 0 c cause t (.refl c))
  | quit hover =>
    rw [Keyboard.Over, h.keyboard] at hover
    exact absurd hover.1 hscript
  | step _ _ hsteps =>
    obtain ⟨u, hu, -⟩ := Machine.replayFrame_eq_ok_iff.mp hb
    obtain ⟨v, hv, -⟩ := h.scripted.symm.run_steps hu
    rw [← h.config, hsteps] at hv
    cases hv
  | @proceed _ d =>
    obtain ⟨b', hb', hfollows⟩ := h.of_frame hr
    rw [hb] at hb'
    cases hb'
    exact ⟨d, rfl, hfollows⟩

lemma Follows.of_replay (h : Follows config script quits c m) (hn : n ≤ script.length)
    (hc : Undisturbed c) (hb : (Machine.replay config script n).run m = .ok () b) :
    ∃ d, Proceeds n c d ∧ Follows config (script.drop n) quits d b := by
  induction n generalizing script c m with
  | zero =>
    cases hb
    exact ⟨c, .refl c, h⟩
  | succ n ih =>
    obtain ⟨u, hu, hb⟩ := Machine.replay_succ_eq_ok_iff.mp hb
    have hscript : script ≠ [] := List.ne_nil_of_length_pos (by omega)
    obtain ⟨t, ht, hfollows⟩ := h.of_replayFrame hscript hc hu
    have hlen : n ≤ script.tail.length := by
      rw [List.length_tail]
      omega
    obtain ⟨d, hd, hfollows'⟩ := ih hfollows hlen (hc.next ht) hb
    rw [List.drop_tail] at hfollows'
    exact ⟨d, .next ht hd, hfollows'⟩

/-- After the last frame the run reports how many there were. -/
lemma Proceeds.run_of_quit {ι : Type} [Input ι] {c d t : Console ι} {budget : Option Nat}
    (hd : Proceeds n c d) (ht : frame.run d = .ok .quit t) (hn : n < budget.getD endless)
    (hoff : ∀ cause, ¬ StaysOn t cause) : ∃ u, (run budget).run c = .ok n u := by
  obtain ⟨k, hk⟩ : ∃ k, budget.getD endless = n + (k + 1) :=
    ⟨budget.getD endless - n - 1, by omega⟩
  have hframes : (frames (n + (k + 1)) 0).run c = .ok n t := by
    rw [hd.run_frames, frames, EStateM.run_bind, ht, Nat.zero_add]
    rfl
  obtain ⟨u, hu⟩ := run_silence_of_not_staysOn hoff
  rw [run_run, hk, hframes]
  dsimp only
  rw [hu]
  exact ⟨u, rfl⟩

/-- When the script is over the keyboard asks to quit, if no device fails before. -/
lemma Proceeds.frame_eq_quit (hd : Proceeds n c d) (hc : Undisturbed c)
    (hover : d.input.device.Over) : ∃ t, frame.run d = .ok .quit t := by
  have hends := frame_ends d
  generalize hr : frame.run d = r at hends
  cases hends with
  | terminal cause t => exact absurd hr (hc.terminal n d cause t hd)
  | sound cause t => exact absurd hr (hc.sound n d cause t hd)
  | step _ h => exact absurd hover h
  | proceed h => exact absurd hover h
  | @quit t => exact ⟨t, rfl⟩

/-- A console loads what its machine loads. -/
lemma machine_load {ι : Type} [Input ι] (c : Console ι) (p : List UInt8) :
    c.act (.load p) = { c with machine := c.machine.act (.load p) } := by
  rcases act_load c p with ⟨e, he, ht⟩ | ⟨machine, hm, ht⟩
  · rw [ht, Machine.act, state_of_error he]
  · rw [ht, Machine.act, state_of_ok hm]

lemma follows_load (config : Config) (random : Randomness) (input : Flaky Keyboard)
    (faults : Faults) (p : List UInt8) : Follows config input.device.script input.device.quits
      ((new config random input faults).after [.load p])
      ((Machine.new config random).after [.load p]) := by
  rw [after_cons, after_nil, machine_load]
  exact ⟨rfl, rfl, .refl _⟩

/-- A machine that jumps to itself, for the one frame that the script has keys for. -/
lemma replay_jump (config : Config) (hone : config.stepsPerFrame = 1)
    (h : Machine.Fresh [0x12, 0x00] m) (keys : Keypad) :
    ∃ b, (Machine.replay config [keys] 1).run m = .ok () b ∧ b.keypad = keys := by
  obtain ⟨t, ht⟩ : ∃ t, t = ({ m with keypad := keys } : Machine).finish 0x200 := ⟨_, rfl⟩
  have hi : ({ m with keypad := keys } : Machine).instruction? = some (.jump 0x200) :=
    h.instruction?
  have hstep : Machine.step.run { m with keypad := keys } = .ok () t := by
    rw [Machine.step_of_executes hi (.jump 0x200), ht]
    rfl
  have hframe : (Machine.replayFrame config (some keys)).run m = .ok () (t.endFrame config) := by
    refine Machine.replayFrame_eq_ok_iff.mpr ⟨t, ?_, rfl⟩
    rw [hone]
    exact Machine.steps_succ_eq_ok_iff.mpr ⟨t, hstep, rfl⟩
  refine ⟨t.endFrame config, Machine.replay_succ_eq_ok_iff.mpr ⟨_, hframe, rfl⟩, ?_⟩
  unfold Machine.endFrame
  rw [ht]
  split <;> rfl

/-- **A console adds nothing to the emulation and loses nothing of it.** After frames that went
through, its machine is what the machine without devices has come to on the same script, but for
the mark. If the keyboard asks to quit in the end, no step fails and no device does, a run ends
with the script. -/
theorem frames_replay (config : Config) (random : Randomness) (input : Flaky Keyboard)
    (faults : Faults) (p : List UInt8) :
    let c := (new config random input faults).after [.load p]
    let keyboard := input.device
    let m := (Machine.new config random).after [.load p]
    (∀ n d, Proceeds n c d →
      ∃ b, (Machine.replay config keyboard.script n).run m = .ok () b ∧ d.machine.Alike b ∧
        d.machine.cycles = n * config.stepsPerFrame) ∧
    let length := keyboard.script.length
    keyboard.quits = true → length * config.stepsPerFrame < UInt64.size → Undisturbed c →
      ∀ b, (Machine.replay config keyboard.script length).run m = .ok () b →
        ∃ d t u, Proceeds length c d ∧ frame.run d = .ok .quit t ∧
          (run none).run c = .ok length u := by
  intro c keyboard m
  have hfollows := follows_load config random input faults p
  refine ⟨fun n d hd => ?_, ?_⟩
  · obtain ⟨b, hb, h⟩ := hfollows.of_proceeds hd
    refine ⟨b, hb, h.machine, ?_⟩
    rw [← h.machine.cycles, Machine.cycles_of_replay hb, Machine.cycles_after_load, Nat.zero_add]
  · intro length hquits hlength hc b hb
    obtain ⟨d, hd, h⟩ := hfollows.of_replay (Nat.le_refl _) hc hb
    have hover : d.input.device.Over := by
      rw [h.keyboard]
      exact ⟨List.drop_length, hquits⟩
    obtain ⟨t, ht⟩ := hd.frame_eq_quit hc hover
    have hbudget : length < none.getD endless :=
      Nat.lt_of_le_of_lt (Nat.le_mul_of_pos_right _ config.stepsPerFrame_pos) hlength
    obtain ⟨u, hu⟩ := hd.run_of_quit ht hbudget fun cause => hc.silence _ d t cause hd ht
    exact ⟨d, t, u, hd, ht, hu⟩

/-- A script of one state of the keypad: the run takes one frame, with these keys down. -/
theorem frames_replay_once : ∃ d u,
    let input : Flaky Keyboard := { device := { script := [.ofKeys [3]], quits := true } }
    let c := (new { clockHz := 60 } (.chaCha .zero) input {}).after [.load [0x12, 0x00]]
    Proceeds 1 c d ∧ (run none).run c = .ok 1 u ∧ d.machine.cycles = 1 ∧
      d.machine.keypad = .ofKeys [3] := by
  obtain ⟨m, hm⟩ := (Machine.new { clockHz := 60 } (.chaCha .zero)).load_accepted
    (p := [0x12, 0x00]) (by decide) (by decide)
  have hafter : (Machine.new { clockHz := 60 } (.chaCha .zero)).after [.load [0x12, 0x00]] = m := by
    rw [Machine.after_cons, Machine.after_nil, Machine.act, state_of_ok hm]
  obtain ⟨b, hb, hkeys⟩ := replay_jump { clockHz := 60 } (by decide)
    (Machine.fresh_of_load hm) (.ofKeys [3])
  rw [← hafter] at hb
  obtain ⟨input, hinput⟩ : ∃ input : Flaky Keyboard,
      input = { device := { script := [.ofKeys [3]], quits := true } } := ⟨_, rfl⟩
  obtain ⟨hframes, hrun⟩ := frames_replay { clockHz := 60 } (.chaCha .zero) input {} [0x12, 0x00]
  have hfaultless :
      Faultless ((new { clockHz := 60 } (.chaCha .zero) input {}).after [.load [0x12, 0x00]]) := by
    rw [after_cons, after_nil, machine_load, hinput]
    exact ⟨rfl, rfl⟩
  subst hinput
  obtain ⟨d, t, u, hd, -, hu⟩ := hrun rfl (by decide) hfaultless.undisturbed b hb
  obtain ⟨b', hb', halike, hcycles⟩ := hframes 1 d hd
  rw [hb] at hb'
  cases hb'
  exact ⟨d, u, hd, hu, hcycles, halike.keypad.symm.trans hkeys⟩

end Console

end Chip8
