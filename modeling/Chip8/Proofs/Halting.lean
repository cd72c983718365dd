import Chip8.Proofs.Exits

/-!
A failure lasts. A machine whose step has failed can do nothing but fail again, in the same way,
until it starts over.

Whether a step fails depends on the memory, the registers, the index, the program counter and the
stack. What goes on around a machine that does not step changes none of these.
-/

namespace Chip8

namespace Machine

/-- No action of the history starts the machine over. -/
def GoesOn (m : Machine) : List Action → Prop
  | [] => True
  | a :: as => m.startsOver a = false ∧ (m.act a).GoesOn as

/-- Machine `t` is machine `m` after its timers were counted down `n` times; keypad and mark may
have changed too. -/
structure Rests (n : Nat) (m t : Machine) : Prop where
  eq : t = { m with
    delay := t.delay
    sound := t.sound
    keypad := t.keypad
    screen := { m.screen with dirty := t.screen.dirty } }
  delay : t.delay.toNat = m.delay.toNat - n
  sound : t.sound.toNat = m.sound.toNat - n

variable {m t u : Machine} {i : Instruction 16} {e : StepError} {n k : Nat}

lemma Rests.refl (m : Machine) : Rests 0 m m := ⟨rfl, rfl, rfl⟩

lemma Rests.trans (h : Rests n m t) (h' : Rests k t u) : Rests (n + k) m u where
  eq := h'.eq.trans (by rw [h.eq])
  delay := by rw [h'.delay, h.delay, Nat.sub_sub]
  sound := by rw [h'.sound, h.sound, Nat.sub_sub]

/-- An instruction fails whatever the timers, the keypad and the mark are. -/
lemma Fails.of_rests (h : Fails m i e) (ht : Rests n m t) : Fails t i e := by
  rw [ht.eq]
  cases h with
  | ret h => exact .ret h
  | call a h => exact .call a h
  | draw x y n h => exact .draw x y n h
  | decimal x h => exact .decimal x h
  | save x h => exact .save x h
  | restore x h => exact .restore x h

lemma Rests.step_error (ht : Rests n m t) (h : step.run m = .error e m) :
    step.run t = .error e t := by
  have hmemory : t.memory = m.memory := by rw [ht.eq]
  have hpc : t.pc = m.pc := by rw [ht.eq]
  obtain ⟨-, ⟨c, hw, rfl⟩ | ⟨i, hi, hr⟩⟩ := step_eq_error_iff.mp h
  · exact step_of_fetch_error (by rw [hmemory, hpc, hw])
  · refine step_of_fails ?_ (hr.of_rests ht)
    rw [← hi, instruction?, instruction?, hmemory, hpc]

/-- Around a machine that cannot step, only the timers count, if they are told to. -/
lemma rests_act (h : step.run m = .error e m) {a : Action} (ha : m.startsOver a = false) :
    Rests (if a = .tick then 1 else 0) m (m.act a) := by
  cases a with
  | load p =>
    rcases act_load m p with ⟨-, hm⟩ | ⟨memory, -, hs, -⟩
    · rw [hm]
      exact .refl m
    · rw [hs] at ha
      cases ha
  | reset => cases ha
  | step =>
    have hm : m.act .step = m := state_of_error h
    rw [hm]
    exact .refl m
  | tick => exact ⟨rfl, toNat_countDown _, toNat_countDown _⟩
  | takeFrame =>
    refine ⟨?_, rfl, rfl⟩
    have hframe : m.screen.takeFrame.2.frame = m.screen.frame := by
      unfold Screen.takeFrame
      split <;> rfl
    change { m with screen := m.screen.takeFrame.2 } =
      { m with screen := ⟨m.screen.frame, m.screen.takeFrame.2.dirty⟩ }
    rw [← hframe]
  | press | release | store | clean => exact ⟨rfl, rfl, rfl⟩

lemma rests_after (h : step.run m = .error e m) {later : List Action} (hl : m.GoesOn later) :
    Rests (later.count .tick) m (m.after later) := by
  induction later generalizing m with
  | nil => exact .refl m
  | cons a as ih =>
    obtain ⟨ha, has⟩ := hl
    have hact := rests_act h ha
    have hafter := hact.trans (ih (hact.step_error h) has)
    rw [after_cons, List.count_cons, Nat.add_comm]
    simpa only [beq_iff_eq] using hafter

end Machine

namespace Console

variable {ι : Type}

/-- No action of the history starts the machine over. -/
def GoesOn [Input ι] (c : Console ι) : List Action → Prop
  | [] => True
  | .load p :: as => c.machine.startsOver (.load p) = false ∧ (c.act (.load p)).GoesOn as
  | a :: as => (c.act a).GoesOn as

/-- The next step of the machine fails, at the address `pc`. -/
structure Halted (pc : UInt16) (e : StepError) (c : Console ι) : Prop where
  pc : c.machine.pc = pc
  step : Machine.step.run c.machine = .error e c.machine

/-- Nothing has happened but looks at the input, and calls to switch the buzzer off. -/
def Idled (c t : Console ι) : Prop := t = { c with
  input := t.input
  machine := { c.machine with keypad := t.machine.keypad }
  beeping := t.beeping
  buzzer := t.buzzer
  calls := { c.calls with stop := t.calls.stop } }

variable {c d t : Console ι} {pc : UInt16} {e : StepError}

lemma Halted.of_keypad (h : Halted pc e c)
    (ht : t.machine = { c.machine with keypad := t.machine.keypad }) : Halted pc e t where
  pc := by
    rw [ht]
    exact h.pc
  step := by
    have hrests : Machine.Rests 0 c.machine t.machine := by
      rw [ht]
      exact ⟨rfl, rfl, rfl⟩
    exact hrests.step_error h.step

lemma Halted.of_looked (h : Halted pc e c) (ht : Looked c t) : Halted pc e t :=
  h.of_keypad (by rw [ht])

lemma Halted.of_idled (h : Halted pc e c) (ht : Idled c t) : Halted pc e t :=
  h.of_keypad (by rw [ht])

lemma Looked.idled (h : Looked c t) : Idled c t :=
  Eq.trans h (by rw [show t = _ from h])

lemma Idled.trans {u : Console ι} (h : Idled c t) (h' : Idled t u) : Idled c u :=
  Eq.trans h' (by rw [show t = _ from h])

lemma idled_silence (c : Console ι) : Idled c (state silence c) := by
  simp only [Idled, state, run_silence, run_stop]
  cases c.beeping
  · rfl
  · cases c.faults.stop (c.calls.stop + 1) <;> rfl

variable [Input ι]

/-- A frame that reports a failed step leaves a machine that cannot step. -/
lemma halted_of_frame (h : frame.run c = .error (.step pc e) d) : Halted pc e d := by
  have hframe := frame_outcome c
  rw [h] at hframe
  cases hframe with
  | step hsteps =>
    obtain ⟨k, -, -, he⟩ := Machine.exists_steps_of_error hsteps
    exact ⟨rfl, he⟩

/-- A frame of a console whose machine cannot step gets no further than its first step. -/
lemma Halted.run_frame (h : Halted pc e c) : frame.run c = match pump.run c with
    | .ok .proceed t => .error (.step pc e) t
    | .ok .quit t => .ok .quit t
    | .error cause t => .error cause t := by
  rw [Console.run_frame, run_prepare]
  rcases hp : pump.run c with ⟨signal, t⟩ | ⟨cause, t⟩
  · cases signal with
    | quit => rfl
    | proceed =>
      obtain ⟨hpc, hstep⟩ := h.of_looked (looked_of_ok hp)
      have hsteps := Machine.run_steps_of_error t.config.stepsPerFrame_pos rfl hstep
      dsimp only
      rw [hsteps, ← hpc]
  · rfl

lemma Halted.looked_frame (h : Halted pc e c) : Looked c (state frame c) := by
  rw [state, h.run_frame]
  rcases hp : pump.run c with ⟨signal, t⟩ | ⟨cause, t⟩
  · cases signal <;> exact looked_of_ok hp
  · exact looked_of_error hp

/-- A run of such a console ends with its first frame. -/
lemma Halted.idled_frames (h : Halted pc e c) (n count : Nat) :
    Idled c (state (frames n count) c) := by
  cases n with
  | zero => exact rfl
  | succ n =>
    rw [frames, state_bind, h.run_frame]
    rcases hp : pump.run c with ⟨signal, t⟩ | ⟨cause, t⟩
    · cases signal <;> exact (looked_of_ok hp).idled
    · exact (looked_of_error hp).idled

lemma Halted.idled_act (h : Halted pc e c) (a : Action) (ha : c.GoesOn [a]) :
    Idled c (c.act a) := by
  cases a with
  | load p =>
    rcases act_load c p with ⟨e', -, hc⟩ | ⟨machine, hm, -⟩
    · rw [hc]
      exact rfl
    · have hrefused := ha.1
      rw [Machine.startsOver, state?_of_ok hm] at hrefused
      cases hrefused
  | frame => exact h.looked_frame.idled
  | run budget =>
    rw [act, state_run]
    exact (h.idled_frames _ 0).trans (idled_silence _)

lemma Halted.idled_after (h : Halted pc e c) {later : List Action} (hl : c.GoesOn later) :
    Idled c (c.after later) := by
  induction later generalizing c with
  | nil => exact rfl
  | cons a as ih =>
    obtain ⟨ha, has⟩ : c.GoesOn [a] ∧ (c.act a).GoesOn as := by
      cases a with
      | load p => exact ⟨⟨hl.1, trivial⟩, hl.2⟩
      | frame | run => exact ⟨trivial, hl⟩
    have hact := h.idled_act a ha
    exact hact.trans (ih (h.of_idled hact) has)

/-- **Failures last.** Where a step has failed, every step fails in the same way until the machine
starts over, and meanwhile only the timers change, at each tick, with the keypad and the mark. Where
a frame has failed with a step, every frame does, unless the input asks to quit or fails first; and
it does nothing but look at the input. -/
theorem failure_lasts :
    (∀ (m t : Machine) (e : StepError), Machine.step.run m = .error e t →
      ∀ later, t.GoesOn later →
        Machine.step.run (t.after later) = .error e (t.after later) ∧
        Machine.Rests (later.count .tick) t (t.after later)) ∧
    ∀ (c d : Console ι) (pc : UInt16) (e : StepError), frame.run c = .error (.step pc e) d →
      ∀ later, d.GoesOn later →
        let t := d.after later
        let u := state frame t
        Idled d t ∧ Looked t u ∧
        (frame.run t = .error (.step pc e) u ∨ frame.run t = .ok .quit u ∨
          ∃ cause, pump.run t = .error (.terminal cause) u ∧
            frame.run t = .error (.terminal cause) u) := by
  refine ⟨fun m t e h later hl => ?_, fun c d pc e h later hl => ?_⟩
  · obtain ⟨rfl, -⟩ := Machine.step_eq_error_iff.mp h
    have hrests := Machine.rests_after h hl
    exact ⟨hrests.step_error h, hrests⟩
  · intro t u
    have hd := halted_of_frame h
    have hidled : Idled d t := hd.idled_after hl
    have ht : Halted pc e t := hd.of_idled hidled
    refine ⟨hidled, ht.looked_frame, ?_⟩
    have hu : u = state frame t := rfl
    rw [state, ht.run_frame] at hu
    rw [ht.run_frame]
    rcases hv : pump.run t with ⟨signal, v⟩ | ⟨e', v⟩
    · rw [hv] at hu
      rw [hu]
      cases signal with
      | proceed => exact .inl rfl
      | quit => exact .inr (.inl rfl)
    · obtain ⟨cause, rfl⟩ := pump_eq_error hv
      rw [hv] at hu
      rw [hu]
      exact .inr (.inr ⟨cause, rfl, rfl⟩)

/-- A return without a call: the machine is ticked, gets a key and a load that is refused, and its
picture is taken, and it fails as before. The console never shows the cleared screen. -/
theorem failure_lasts_return :
    (∃ m : Machine, (Machine.load [0x00, 0xEE]).run (Machine.new {} (.chaCha .zero)) = .ok () m ∧
      let t := m.after [.tick, .press 3, .load [], .takeFrame, .step]
      Machine.step.run t = .error (.stackUnderflow 0x200) t ∧ t.pc = m.pc ∧ t.memory = m.memory) ∧
    ∃ d, frame.run ((unattended {} {}).after [.load [0x00, 0xEE]]) =
        .error (.step 0x200 (.stackUnderflow 0x200)) d ∧
      let t := d.after [.frame, .run (some 3)]
      (∀ u, frame.run t ≠ .ok .proceed u) ∧ (state frame t).calls.draw = 0 ∧
        (state frame t).machine.screen.dirty = true := by
  obtain ⟨m, hm⟩ := (Machine.new {} (.chaCha .zero)).load_accepted (p := [0x00, 0xEE]) (by decide)
    (by decide)
  obtain ⟨hlast, hlasts⟩ := @failure_lasts Keyboard _
  have hfresh := Machine.fresh_of_load hm
  have hstep : Machine.step.run m = .error (.stackUnderflow 0x200) m := by
    rw [Machine.step_ret_of_empty hfresh.instruction? hfresh.stack, hfresh.pc]
  constructor
  · obtain ⟨hfails, hrests⟩ := hlast m m _ hstep
      [.tick, .press 3, .load [], .takeFrame, .step] ⟨rfl, rfl, rfl, rfl, rfl, trivial⟩
    exact ⟨m, hm, hfails, by rw [hrests.eq], by rw [hrests.eq]⟩
  · rw [after_load (c := unattended {} {}) hm]
    have hlook := run_pump_of_idle (c := { unattended {} {} with machine := m }) rfl
    have hframe := run_frame_of_step_error hlook (k := 0) (Config.stepsPerFrame_pos _) rfl hstep
    rw [hfresh.pc] at hframe
    obtain ⟨hidled, hlooked, hends⟩ := hlasts _ _ _ _ hframe [.frame, .run (some 3)] trivial
    refine ⟨_, hframe, fun u hu => ?_, ?_, ?_⟩
    · rcases hends with h | h | ⟨cause, -, h⟩ <;> cases hu.symm.trans h
    · rw [hlooked, hidled]
      rfl
    · rw [hlooked, hidled]
      change m.screen.dirty = true
      rw [hfresh.screen]
      rfl

end Console

end Chip8
