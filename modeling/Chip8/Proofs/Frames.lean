import Chip8.Console.Run
import Chip8.Proofs.History

/-!
What can be done to a console from outside, and the console after any history of it.

A frame is in two parts: all that comes before the picture, and the picture. A failure ends a frame
or a run, but not a history.
-/

namespace Chip8.Console

variable {ι : Type}

inductive Action where
  | load (program : List UInt8)
  | frame
  | run (budget : Option Nat)
deriving DecidableEq

section

variable [Input ι]

def act (c : Console ι) : Action → Console ι
  | .load program => state (load program) c
  | .frame => state frame c
  | .run budget => state (run budget) c

/-- The console after a history. -/
def after (c : Console ι) (history : List Action) : Console ι := history.foldl act c

@[simp] lemma after_nil (c : Console ι) : c.after [] = c := rfl

@[simp] lemma after_cons (c : Console ι) (a : Action) (as : List Action) :
    c.after (a :: as) = (c.act a).after as := rfl

lemma after_append (c : Console ι) (as bs : List Action) :
    c.after (as ++ bs) = (c.after as).after bs := List.foldl_append

/-- A load is refused and changes nothing, or it loads the machine. -/
lemma act_load (c : Console ι) (program : List UInt8) :
    (∃ e, (Machine.load program).run c.machine = .error e c.machine ∧
      c.act (.load program) = c) ∨
    ∃ machine, (Machine.load program).run c.machine = .ok () machine ∧
      c.act (.load program) = { c with machine } := by
  simp only [act, state, load, run_onPart]
  rcases h : (Machine.load program).run c.machine with ⟨⟨⟩, machine⟩ | ⟨e, machine⟩
  · exact .inr ⟨machine, rfl, rfl⟩
  · obtain rfl := Machine.eq_of_load_error h
    exact .inl ⟨e, rfl, rfl⟩

lemma after_load {c : Console ι} {program : List UInt8} {m : Machine}
    (h : (Machine.load program).run c.machine = .ok () m) :
    c.after [.load program] = { c with machine := m } := by
  simp only [after_cons, after_nil, act, state, load, run_onPart, h]

end

/-! ### Calls to the buzzer and the display -/

lemma run_beep (c : Console ι) : beep.run c =
    match c.faults.beep (c.calls.beep + 1) with
    | some cause => .error (.sound cause) { c with calls.beep := c.calls.beep + 1 }
    | none => .ok () { c with calls.beep := c.calls.beep + 1, buzzer := c.buzzer.beep } := by
  simp only [beep, EStateM.run_bind, EStateM.run_modify, EStateM.run_get]
  cases c.faults.beep (c.calls.beep + 1) <;> rfl

lemma run_stop (c : Console ι) : stop.run c =
    match c.faults.stop (c.calls.stop + 1) with
    | some cause => .error (.sound cause) { c with calls.stop := c.calls.stop + 1 }
    | none => .ok () { c with calls.stop := c.calls.stop + 1, buzzer := c.buzzer.stop } := by
  simp only [stop, EStateM.run_bind, EStateM.run_modify, EStateM.run_get]
  cases c.faults.stop (c.calls.stop + 1) <;> rfl

lemma run_draw (c : Console ι) (f : Frame) : (draw f).run c =
    match c.faults.draw (c.calls.draw + 1) with
    | some cause => .error (.terminal cause) { c with calls.draw := c.calls.draw + 1 }
    | none => .ok ()
      { c with calls.draw := c.calls.draw + 1, display := c.display.draw f } := by
  simp only [draw, EStateM.run_bind, EStateM.run_modify, EStateM.run_get]
  cases c.faults.draw (c.calls.draw + 1) <;> rfl

/-! ### The parts of a frame -/

lemma run_step (c : Console ι) : step.run c = match Machine.step.run c.machine with
    | .ok _ machine => .ok () { c with machine }
    | .error e _ => .error (.step c.machine.pc e) c := by
  simp only [step, EStateM.run_bind, EStateM.run_get]
  rcases h : Machine.step.run c.machine with ⟨⟨⟩, t⟩ | ⟨e, t⟩
  · rfl
  · obtain ⟨rfl, -⟩ := Machine.step_eq_error_iff.mp h
    rfl

/-- The steps of a frame are those of the machine. -/
lemma run_steps (n : Nat) (c : Console ι) : (steps n).run c =
    match (Machine.steps n).run c.machine with
    | .ok _ machine => .ok () { c with machine }
    | .error e machine => .error (.step machine.pc e) { c with machine } := by
  induction n generalizing c with
  | zero => rfl
  | succ n ih =>
    rw [steps, Machine.steps_succ, EStateM.run_bind, EStateM.run_bind, run_step]
    rcases h : Machine.step.run c.machine with ⟨⟨⟩, t⟩ | ⟨e, t⟩
    · exact ih _
    · obtain ⟨rfl, -⟩ := Machine.step_eq_error_iff.mp h
      rfl

lemma run_tick (c : Console ι) : tick.run c = .ok ()
    { c with machine := if c.config.timers = .fixed then c.machine.tick else c.machine } := by
  change EStateM.Result.ok ()
    (if c.config.timers = .fixed then { c with machine := c.machine.tick } else c) = _
  split <;> rfl

lemma run_updateBuzzer (c : Console ι) : updateBuzzer.run c =
    if c.machine.soundActive = c.beeping then .ok () c
    else match (if c.machine.soundActive then beep else stop).run c with
      | .ok _ t => .ok () { t with beeping := c.machine.soundActive }
      | .error e t => .error e t := by
  simp only [updateBuzzer, EStateM.run_bind, EStateM.run_get]
  by_cases h : c.machine.soundActive = c.beeping
  · rw [if_pos h, if_neg (by simp [h])]
    rfl
  · rw [if_neg h, if_pos (by simpa using h)]
    cases c.machine.soundActive
    · simp only [EStateM.run_bind, Bool.false_eq_true, if_false]
      cases stop.run c <;> rfl
    · simp only [EStateM.run_bind, if_true]
      cases beep.run c <;> rfl

/-- Whatever the buzzer is told, and whether it listens or not, the machine goes on as it was. -/
lemma machine_updateBuzzer (c : Console ι) : (state updateBuzzer c).machine = c.machine := by
  simp only [state, run_updateBuzzer]
  by_cases h : c.machine.soundActive = c.beeping
  · rw [if_pos h]
  · rw [if_neg h]
    cases c.machine.soundActive
    · simp only [Bool.false_eq_true, if_false, run_stop]
      cases c.faults.stop (c.calls.stop + 1) <;> rfl
    · simp only [if_true, run_beep]
      cases c.faults.beep (c.calls.beep + 1) <;> rfl

lemma run_silence (c : Console ι) : silence.run c =
    if c.beeping then match stop.run c with
      | .ok _ t => .ok () { t with beeping := false }
      | .error e t => .error e t
    else .ok () c := by
  simp only [silence, EStateM.run_bind, EStateM.run_get]
  by_cases h : c.beeping
  · rw [if_pos h, if_pos h, EStateM.run_bind]
    cases stop.run c <;> rfl
  · rw [if_neg h, if_neg h]
    rfl

lemma machine_silence (c : Console ι) : (state silence c).machine = c.machine := by
  simp only [state, run_silence, run_stop]
  cases c.beeping
  · rfl
  · cases c.faults.stop (c.calls.stop + 1) <;> rfl

/-- The picture counts as taken before it is shown. -/
lemma run_present (c : Console ι) : present.run c =
    if c.machine.screen.dirty then
      (draw c.machine.screen.frame).run { c with machine.screen := c.machine.screen.clean }
    else .ok () c := by
  simp only [present, EStateM.run_bind, EStateM.run_get, EStateM.run_set, Machine.takeFrame,
    Screen.takeFrame]
  by_cases h : c.machine.screen.dirty
  · simp only [h, if_true]
  · simp only [h]
    rfl

/-! ### However an action ends -/

section Within

variable {α β : Type} {R : Console ι → Console ι → Prop}

/-- However the action ends, it takes each console to one that `R` relates it to. -/
def Within (R : Console ι → Console ι → Prop) (x : Exec ι α) : Prop := ∀ c, R c (state x c)

lemma Within.bind (trans : ∀ c t u, R c t → R t u → R c u) {x : Exec ι α} {f : α → Exec ι β}
    (hx : Within R x) (hf : ∀ a, Within R (f a)) : Within R (x >>= f) := by
  intro c
  have hc := hx c
  rw [state_bind]
  rcases h : x.run c with ⟨a, t⟩ | ⟨e, t⟩
  · rw [state_of_ok h] at hc
    exact trans c t _ hc (hf a t)
  · rw [state_of_error h] at hc
    exact hc

end Within

variable [Input ι]

/-! ### Looks at the input -/

/-- Nothing has happened but looks at the input. -/
def Looked (c t : Console ι) : Prop :=
  t = { c with input := t.input, machine := { c.machine with keypad := t.machine.keypad } }

lemma run_pump (c : Console ι) : pump.run c =
    match Input.pump.run (c.input, c.machine.keypad) with
    | .ok signal (input, keypad) => .ok signal { c with input, machine.keypad := keypad }
    | .error cause (input, keypad) =>
      .error (.terminal cause) { c with input, machine.keypad := keypad } := by
  rw [pump, run_onPart]
  cases Input.pump.run (c.input, c.machine.keypad) <;> rfl

lemma looked_pump (c : Console ι) : Looked c (state pump c) := by
  simp only [Looked, state, run_pump]
  cases Input.pump.run (c.input, c.machine.keypad) <;> rfl

lemma looked_of_ok {c t : Console ι} {signal : Signal} (h : pump.run c = .ok signal t) :
    Looked c t := by
  rw [← state_of_ok h]
  exact looked_pump c

lemma looked_of_error {c t : Console ι} {e : ConsoleError} (h : pump.run c = .error e t) :
    Looked c t := by
  rw [← state_of_error h]
  exact looked_pump c

/-- A failure of the input is reported as one of the terminal. -/
lemma pump_eq_error {c t : Console ι} {e : ConsoleError} (h : pump.run c = .error e t) :
    ∃ cause, e = .terminal cause := by
  rw [run_pump] at h
  cases hr : Input.pump.run (c.input, c.machine.keypad) with
  | ok signal s =>
    rw [hr] at h
    cases h
  | error cause s =>
    rw [hr] at h
    cases h
    exact ⟨cause, rfl⟩

/-! ### What comes before the picture -/

/-- What a frame does before it shows the picture. -/
def prepare : Exec ι Signal := do
  match ← pump with
  | .quit => return .quit
  | .proceed =>
    steps (← get).config.stepsPerFrame
    tick
    updateBuzzer
    return .proceed

lemma run_prepare (c : Console ι) : prepare.run c = match pump.run c with
    | .error e t => .error e t
    | .ok .quit t => .ok .quit t
    | .ok .proceed t => match (Machine.steps t.config.stepsPerFrame).run t.machine with
      | .error e m => .error (.step m.pc e) { t with machine := m }
      | .ok _ m =>
        match updateBuzzer.run
            { t with machine := if t.config.timers = .fixed then m.tick else m } with
        | .error e u => .error e u
        | .ok _ u => .ok .proceed u := by
  simp only [prepare, EStateM.run_bind]
  rcases pump.run c with ⟨signal, t⟩ | ⟨e, t⟩
  · cases signal with
    | quit => rfl
    | proceed =>
      simp only [EStateM.run_bind, EStateM.run_get, run_steps]
      rcases (Machine.steps t.config.stepsPerFrame).run t.machine with ⟨⟨⟩, m⟩ | ⟨e, m⟩
      · simp only [run_tick]
        cases updateBuzzer.run _ <;> rfl
      · rfl
  · rfl

/-- The console when it is time for the picture, or when the frame is cut short before that. -/
lemma state_prepare (c : Console ι) : state prepare c = match pump.run c with
    | .error _ t => t
    | .ok .quit t => t
    | .ok .proceed t => match (Machine.steps t.config.stepsPerFrame).run t.machine with
      | .error _ m => { t with machine := m }
      | .ok _ m => state updateBuzzer
          { t with machine := if t.config.timers = .fixed then m.tick else m } := by
  simp only [state, run_prepare]
  rcases pump.run c with ⟨signal, t⟩ | ⟨e, t⟩
  · cases signal with
    | quit => rfl
    | proceed =>
      dsimp only
      rcases (Machine.steps t.config.stepsPerFrame).run t.machine with ⟨⟨⟩, m⟩ | ⟨e, m⟩
      · dsimp only
        cases updateBuzzer.run _ <;> rfl
      · rfl
  · rfl

/-- A frame that nobody interrupts, up to the buzzer. -/
lemma run_prepare_eq_updateBuzzer {c : Console ι} {m : Machine}
    (hpump : pump.run c = .ok .proceed c) (htimers : c.config.timers = .fixed)
    (hsteps : (Machine.steps c.config.stepsPerFrame).run c.machine = .ok () m) : prepare.run c =
      match updateBuzzer.run { c with machine := m.tick } with
      | .error e t => .error e t
      | .ok _ t => .ok .proceed t := by
  simp only [run_prepare, hpump, hsteps, htimers, if_true]

/-- A frame that nobody interrupts and that has no use for the buzzer. -/
lemma run_prepare_of_steps {c : Console ι} {m : Machine}
    (hpump : pump.run c = .ok .proceed c) (htimers : c.config.timers = .fixed)
    (hsteps : (Machine.steps c.config.stepsPerFrame).run c.machine = .ok () m)
    (hsound : m.tick.soundActive = c.beeping) :
    prepare.run c = .ok .proceed { c with machine := m.tick } := by
  rw [run_prepare_eq_updateBuzzer hpump htimers hsteps, run_updateBuzzer, if_pos hsound]

/-- A frame that nobody interrupts and that switches the buzzer on. -/
lemma run_prepare_of_beep {c : Console ι} {m : Machine}
    (hpump : pump.run c = .ok .proceed c) (htimers : c.config.timers = .fixed)
    (hsteps : (Machine.steps c.config.stepsPerFrame).run c.machine = .ok () m)
    (hsound : m.tick.soundActive = true) (hoff : c.beeping = false)
    (hbeep : c.faults.beep (c.calls.beep + 1) = none) : prepare.run c = .ok .proceed
      { c with
        calls.beep := c.calls.beep + 1
        machine := m.tick
        buzzer := c.buzzer.beep
        beeping := true } := by
  rw [run_prepare_eq_updateBuzzer hpump htimers hsteps, run_updateBuzzer]
  simp only [hsound, hoff, Bool.true_eq_false, if_false, if_true, run_beep, hbeep]

lemma run_frame (c : Console ι) : frame.run c = match prepare.run c with
    | .error e t => .error e t
    | .ok .quit t => .ok .quit t
    | .ok .proceed t => match present.run t with
      | .error e u => .error e u
      | .ok _ u => .ok .proceed u := by
  simp only [frame, prepare, EStateM.run_bind]
  rcases pump.run c with ⟨signal, t⟩ | ⟨e, t⟩
  · cases signal with
    | quit => rfl
    | proceed =>
      simp only [EStateM.run_bind, EStateM.run_get]
      cases (steps t.config.stepsPerFrame).run t with
      | error e t => rfl
      | ok _ t =>
        simp only
        cases tick.run t with
        | error e t => rfl
        | ok _ t =>
          simp only
          cases updateBuzzer.run t with
          | error e t => rfl
          | ok _ t =>
            simp only [EStateM.run_pure]
            cases present.run t <;> rfl
  · rfl

/-- Without a new picture the display is left alone. -/
lemma run_frame_of_clean {c t : Console ι} (h : prepare.run c = .ok .proceed t)
    (hclean : t.machine.screen.dirty = false) : frame.run c = .ok .proceed t := by
  simp only [run_frame, h, run_present, hclean]
  rfl

lemma run_frame_of_shown {c t : Console ι} (h : prepare.run c = .ok .proceed t)
    (hdirty : t.machine.screen.dirty = true) (hdraw : t.faults.draw (t.calls.draw + 1) = none) :
    frame.run c = .ok .proceed
      { t with
        machine.screen := t.machine.screen.clean
        calls.draw := t.calls.draw + 1
        display := t.display.draw t.machine.screen.frame } := by
  simp only [run_frame, h, run_present, hdirty, if_true, run_draw, hdraw]

lemma run_frame_of_refused {c t : Console ι} {cause : String} (h : prepare.run c = .ok .proceed t)
    (hdirty : t.machine.screen.dirty = true)
    (hdraw : t.faults.draw (t.calls.draw + 1) = some cause) : frame.run c = .error (.terminal cause)
      { t with machine.screen := t.machine.screen.clean, calls.draw := t.calls.draw + 1 } := by
  simp only [run_frame, h, run_present, hdirty, if_true, run_draw, hdraw]

/-- A frame is cut short before its picture, or comes down to showing it. -/
lemma frame_cases (c : Console ι) :
    ((∀ t, prepare.run c ≠ .ok .proceed t) ∧ (∀ t, frame.run c ≠ .ok .proceed t) ∧
      state frame c = state prepare c) ∨
    ∃ t, prepare.run c = .ok .proceed t ∧ state frame c = state present t := by
  simp only [state, run_frame]
  rcases prepare.run c with ⟨signal, t⟩ | ⟨e, t⟩
  · cases signal with
    | quit => exact .inl ⟨by simp, by simp, rfl⟩
    | proceed =>
      refine .inr ⟨t, rfl, ?_⟩
      dsimp only
      cases present.run t <;> rfl
  · exact .inl ⟨by simp, by simp, rfl⟩

lemma run_run (budget : Option Nat) (c : Console ι) : (run budget).run c =
    match (frames (budget.getD endless) 0).run c with
    | .ok count t => match silence.run t with
      | .ok _ u => .ok count u
      | .error e u => .error e u
    | .error e t => match silence.run t with
      | .ok _ u => .error e u
      | .error e' u => .error e' u := by
  change (match (frames (budget.getD endless) 0).run c with
    | .ok count t => (do silence; return count : Exec ι Nat).run t
    | .error e t => (do silence; throw e : Exec ι Nat).run t) = _
  rcases (frames (budget.getD endless) 0).run c with ⟨count, t⟩ | ⟨e, t⟩
  · simp only [EStateM.run_bind]
    cases silence.run t <;> rfl
  · simp only [EStateM.run_bind]
    cases silence.run t <;> rfl

/-- However the frames of a run end, the buzzer is seen to after them. -/
lemma state_run (budget : Option Nat) (c : Console ι) :
    state (run budget) c = state silence (state (frames (budget.getD endless) 0) c) := by
  simp only [state, run_run]
  rcases (frames (budget.getD endless) 0).run c with ⟨count, t⟩ | ⟨e, t⟩
  · dsimp only
    cases silence.run t <;> rfl
  · dsimp only
    cases silence.run t <;> rfl

/-! ### However a frame ends -/

section Within

variable {R : Console ι → Console ι → Prop}
variable (refl : ∀ c, R c c) (trans : ∀ c t u, R c t → R t u → R c u)
include refl trans

/-- What relates a console to the next at each part of a frame does so over all that comes before
the picture. -/
lemma within_prepare (hpump : Within R pump) (hstep : Within R step) (htick : Within R tick)
    (hbuzzer : Within R updateBuzzer) : Within R prepare := by
  have hsteps (n : Nat) : Within R (steps n) := by
    induction n with
    | zero => exact refl
    | succ n ih => exact hstep.bind trans fun _ => ih
  refine hpump.bind trans fun signal => ?_
  cases signal with
  | quit => exact refl
  | proceed =>
    exact Within.bind (x := get) trans refl fun c => (hsteps _).bind trans fun _ =>
      htick.bind trans fun _ => hbuzzer.bind trans fun _ => refl

omit refl in
lemma within_frame (hprepare : Within R prepare) (hpresent : Within R present) :
    Within R frame := by
  intro c
  rcases frame_cases c with ⟨-, -, hs⟩ | ⟨t, ht, hs⟩
  · rw [hs]
    exact hprepare c
  · have hc := hprepare c
    rw [state_of_ok ht] at hc
    rw [hs]
    exact trans c t _ hc (hpresent t)

end Within

/-! ### Notes taken along a history -/

/-- Somebody who looks on and takes notes at each load and at each frame. -/
structure Onlooker (ι α : Type) where
  load : Console ι → List UInt8 → List α
  frame : Console ι → List α

namespace Onlooker

variable {α : Type}

/-- The notes on at most `n` frames of a run. -/
def frames (o : Onlooker ι α) : Nat → Console ι → List α
  | 0, _ => []
  | n + 1, c => o.frame c ++
    match Console.frame.run c with
    | .ok .proceed t => o.frames n t
    | _ => []

def action (o : Onlooker ι α) (c : Console ι) : Action → List α
  | .load program => o.load c program
  | .frame => o.frame c
  | .run budget => o.frames (budget.getD endless) c

/-- The notes on a history, the latest last. -/
def notes (o : Onlooker ι α) (c : Console ι) : List Action → List α
  | [] => []
  | a :: as => o.action c a ++ o.notes (c.act a) as

/-- What holds of a console and the notes so far, and survives every load, every frame and every
end of a run, holds after every history. -/
lemma induction (o : Onlooker ι α) {P : List α → Console ι → Prop}
    (load : ∀ l c program, P l c → P (l ++ o.load c program) (c.act (.load program)))
    (frame : ∀ l c, P l c → P (l ++ o.frame c) (state Console.frame c))
    (silence : ∀ l c, P l c → P l (state silence c)) {l : List α} {c : Console ι} (start : P l c)
    (history : List Action) : P (l ++ o.notes c history) (c.after history) := by
  have frames (n count : Nat) {l : List α} {c : Console ι} (h : P l c) :
      P (l ++ o.frames n c) (state (Console.frames n count) c) := by
    -- a frame that quits or fails is the last one, and the notes on it still count
    induction n generalizing l c count with
    | zero => simpa [Onlooker.frames, Console.frames] using h
    | succ n ih =>
      have hf := frame l c h
      rw [Console.frames, state_bind, Onlooker.frames, ← List.append_assoc]
      rcases hr : Console.frame.run c with ⟨signal, t⟩ | ⟨e, t⟩
      · rw [state_of_ok hr] at hf
        cases signal with
        | quit => simpa using hf
        | proceed => exact ih (count + 1) hf
      · rw [state_of_error hr] at hf
        simpa using hf
  induction history generalizing l c with
  | nil => simpa [notes] using start
  | cons a as ih =>
    rw [notes, ← List.append_assoc]
    refine ih ?_
    cases a with
    | load program => exact load l c program start
    | frame => exact frame l c start
    | run budget =>
      rw [act, state_run]
      exact silence _ _ (frames _ 0 start)

end Onlooker

/-- What survives every load, every frame and every end of a run survives every history. -/
lemma after_induction {P : Console ι → Prop}
    (load : ∀ c program, P c → P (c.act (.load program)))
    (frame : ∀ c, P c → P (state frame c)) (silence : ∀ c, P c → P (state silence c))
    {c : Console ι} (start : P c) (history : List Action) : P (c.after history) :=
  Onlooker.induction (α := Empty) ⟨fun _ _ => [], fun _ => []⟩ (P := fun _ => P)
    (fun _ => load) (fun _ => frame) (fun _ => silence) (l := []) start history

/-! ### Nobody at the keyboard -/

/-- At 120 steps a second a frame has two of them. -/
lemma run_twoSteps {config : Config} {m : Machine} {r : EStateM.Result StepError Machine Unit}
    (hconfig : config = { clockHz := 120 }) (h : (Machine.steps 2).run m = r) :
    (Machine.steps config.stepsPerFrame).run m = r := by
  have htwo : config.stepsPerFrame = 2 := by
    rw [hconfig]
    decide
  rw [htwo, h]

/-- A console whose keyboard nobody uses. -/
abbrev unattended (config : Config) (faults : Faults) : Console Keyboard :=
  new config (.chaCha .zero) {} faults

/-- A keyboard that nobody uses changes nothing. -/
lemma run_pump_of_idle {c : Console Keyboard} (h : c.input = {}) : pump.run c = .ok .proceed c := by
  obtain ⟨machine, config, beeping, input, display, buzzer, faults, calls⟩ := c
  cases h
  rfl

end Chip8.Console
