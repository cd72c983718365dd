import Chip8.Proofs.Chronicle
import Chip8.Proofs.Reload
import Mathlib.Data.List.Induction

/-!
How far the timers have run down.

A history is a log of beats: a start stops both timers, an instruction sets one of them, and every
count takes one from each that still runs. So a timer shows the value that it was given last, less
the number of counts since then.
-/

namespace Chip8

inductive Timer where
  | delay
  | sound
deriving DecidableEq

/-- What happens to the timers. -/
inductive Beat where
  /-- The machine starts over. -/
  | start
  | set (timer : Timer) (value : UInt8)
  /-- Both timers count down. -/
  | count
deriving DecidableEq

namespace Beat

/-- The value that a beat gives to a timer. -/
def gives? (timer : Timer) : Beat → Option UInt8
  | start => some 0
  | set t value => if t = timer then some value else none
  | count => none

/-- By the log, the timer was given `v` last, and `k` counts came after that. -/
def LastGiven (timer : Timer) (log : List Beat) (v : UInt8) (k : Nat) : Prop :=
  ∃ earlier b later, log = earlier ++ b :: later ∧ b.gives? timer = some v ∧
    (∀ c ∈ later, c.gives? timer = none) ∧ later.count count = k

/-- What a timer shows after a beat. -/
def apply (timer : Timer) (value : UInt8) : Beat → UInt8
  | start => 0
  | set t v => if t = timer then v else value
  | count => Machine.countDown value

variable {timer : Timer} {b : Beat} {log later : List Beat} {v x : UInt8} {k : Nat}

lemma apply_of_gives (h : b.gives? timer = some v) (x : UInt8) : b.apply timer x = v := by
  cases b with
  | start => exact Option.some.inj h
  | set t value =>
    rw [gives?] at h
    split at h
    next ht => rw [apply, if_pos ht, Option.some.inj h]
    next => cases h
  | count => cases h

/-- Beats that give a timer nothing can only count it down. -/
lemma toNat_foldl_apply (h : ∀ c ∈ later, c.gives? timer = none) (x : UInt8) :
    (later.foldl (Beat.apply timer) x).toNat = x.toNat - later.count count := by
  induction later generalizing x with
  | nil => simp
  | cons c rest ih =>
    have hc : c.gives? timer = none := h c List.mem_cons_self
    have hrest := ih fun d hd => h d (List.mem_cons_of_mem c hd)
    rw [List.foldl_cons, hrest]
    cases c with
    | count =>
      rw [apply, Machine.toNat_countDown, List.count_cons_self]
      omega
    | start => cases hc
    | set t value =>
      have ht : t ≠ timer := by simpa [gives?] using hc
      rw [apply, if_neg ht, List.count_cons_of_ne (by simp)]

/-- A log that begins with a start has given the timer something. -/
lemma exists_lastGiven (timer : Timer) (log : List Beat) :
    ∃ v k, LastGiven timer (start :: log) v k := by
  induction log using List.reverseRecOn with
  | nil => exact ⟨0, 0, [], start, [], rfl, rfl, nofun, rfl⟩
  | append_singleton log b ih =>
    rcases hb : b.gives? timer with _ | v
    · obtain ⟨v, k, earlier, c, later, hlog, hc, hlater, -⟩ := ih
      refine ⟨v, _, earlier, c, later ++ [b], ?_, hc, ?_, rfl⟩
      · rw [← List.cons_append, hlog, List.append_assoc, List.cons_append]
      · intro d hd
        rcases List.mem_append.mp hd with hd | hd
        · exact hlater d hd
        · rwa [List.mem_singleton.mp hd]
    · exact ⟨v, 0, start :: log, b, [], rfl, hb, nofun, rfl⟩

/-- Beat after beat, a timer comes to the value it was given last less the counts since then. -/
lemma LastGiven.toNat_foldl (h : LastGiven timer log v k) (x : UInt8) :
    (log.foldl (Beat.apply timer) x).toNat = v.toNat - k := by
  obtain ⟨earlier, b, later, rfl, hb, hlater, rfl⟩ := h
  rw [List.foldl_append, List.foldl_cons, apply_of_gives hb, toNat_foldl_apply hlater]

end Beat

namespace Machine

open Beat

def timer (m : Machine) : Timer → UInt8
  | .delay => m.delay
  | .sound => m.sound

/-- How often the timers count down at the end of a step. -/
def stepCounts (m : Machine) : Nat := if m.timers = .perStep then 1 else 0

/-- The timers that an instruction sets. -/
def settings (m : Machine) : Instruction 16 → List Beat
  | .setDelay x => [.set .delay (m.v.get x)]
  | .setSound x => [.set .sound (m.v.get x)]
  | _ => []

/-- What an action does to the timers. A step counts after its instruction is done. -/
def beats (m : Machine) : Action → List Beat
  | .load p => if m.startsOver (.load p) then [.start] else []
  | .reset => [.start]
  | .step =>
    match m.completed? with
    | some i => m.settings i ++ List.replicate m.stepCounts .count
    | none => []
  | .tick => [.count]
  | _ => []

variable {m t : Machine} {i : Instruction 16} {f : Flow}

lemma Executes.timer (h : Executes m i f t) (timer : Timer) :
    t.timer timer = (m.settings i).foldl (Beat.apply timer) (m.timer timer) := by
  cases h with
  | setDelay | setSound => cases timer <;> rfl
  | save x | restore x =>
    obtain ⟨index, ht⟩ := movePast_eq _ x
    rw [ht]
    cases timer <;> rfl
  | _ => cases timer <;> rfl

/-- At the end of a step the timers count down, or not at all. -/
lemma timer_finish (h : t.timers = m.timers) (pc : UInt16) (timer : Timer) :
    (t.finish pc).timer timer =
      (List.replicate m.stepCounts Beat.count).foldl (Beat.apply timer) (t.timer timer) := by
  have hcounted : (t.finish pc).timer timer = m.counted (t.timer timer) := by
    cases timer
    · rw [← counted_eq h]
      rfl
    · rw [← counted_eq h]
      rfl
  rw [hcounted, counted, stepCounts]
  split <;> rfl

lemma timer_act (m : Machine) (a : Action) (timer : Timer) :
    (m.act a).timer timer = (m.beats a).foldl (Beat.apply timer) (m.timer timer) := by
  cases a with
  | load p =>
    rcases act_load m p with ⟨hs, hm⟩ | ⟨memory, -, hs, hm⟩
    · rw [hm, beats, hs]
      rfl
    · rw [hm, beats, hs]
      cases timer <;> rfl
  | step =>
    rcases act_step_cases m with ⟨hnone, hm⟩ | ⟨i, f, t, hi, hr, hm⟩
    · rw [beats, hnone, hm]
      rfl
    · rw [beats, hi, hm, timer_finish hr.spared.timers, hr.timer, List.foldl_append]
  | _ => cases timer <;> rfl

/-- The timers after a history are what its beats come to. -/
lemma timer_after (m : Machine) (history : List Action) (timer : Timer) :
    (m.after history).timer timer =
      (m.log beats history).foldl (Beat.apply timer) (m.timer timer) := by
  induction history generalizing m with
  | nil => rfl
  | cons a as ih => rw [after_cons, ih, timer_act, log_cons, List.foldl_append]

/-- A step that sets no timer counts both down, as often as the end of a step does. -/
lemma step_counts {w : UInt16} (hw : m.memory.fetch m.pc = .ok w) (hi : Instruction.table w = i)
    (hr : Executes m i f t) (hset : m.settings i = []) :
    step.run m = .ok () (t.finish (f.target m.pc)) ∧ ∀ timer,
      ((t.finish (f.target m.pc)).timer timer).toNat = (m.timer timer).toNat - m.stepCounts := by
  have hinst : m.instruction? = some i := hi ▸ instruction?_of_fetch hw
  refine ⟨step_of_executes hinst hr, fun timer => ?_⟩
  have hbeats : m.beats .step = List.replicate m.stepCounts .count := by
    rw [beats, completed?_of_executes hinst hr]
    dsimp only
    rw [hset, List.nil_append]
  rw [← act_step_of_executes hinst hr, timer_act, hbeats, toNat_foldl_apply,
    List.count_replicate_self]
  intro c hc
  rw [List.eq_of_mem_replicate hc]
  rfl

/-- **Timers count exactly.** After any history a timer shows the value that it was given last, less
one for each count since then, and at least zero. A step that fails counts nothing; a step that
waits for a key counts like any other; and a step that reads the delay timer reads it before it
counts. -/
theorem timer_eq_lastGiven_sub (c : Config) (random : Randomness) (history : List Action) :
    let m := (new c random).after history
    let log := .start :: (new c random).log beats history
    m.timers = c.timers ∧
    (∀ timer, (∃ v k, LastGiven timer log v k) ∧
      ∀ v k, LastGiven timer log v k → (m.timer timer).toNat = v.toNat - k) ∧
    (∀ e t, step.run m = .error e t → m.beats .step = [] ∧
      ∀ timer, t.timer timer = m.timer timer) ∧
    (∀ w x, m.memory.fetch m.pc = .ok w → Instruction.table w = .waitKey x →
      m.keypad.firstDown = none → ∃ t, step.run m = .ok () t ∧ t.pc = m.pc ∧
        ∀ timer, (t.timer timer).toNat = (m.timer timer).toNat - m.stepCounts) ∧
    ∀ w x, m.memory.fetch m.pc = .ok w → Instruction.table w = .getDelay x →
      ∃ t, step.run m = .ok () t ∧ t.v.get x = m.delay ∧
        ∀ timer, (t.timer timer).toNat = (m.timer timer).toNat - m.stepCounts := by
  intro m log
  refine ⟨((built_poweredOn c .idle (random.generator c.seed)).after history).timers,
    fun timer => ⟨exists_lastGiven timer _, fun v k h => ?_⟩, fun e t h => ?_,
    fun w x hw hi hkey => ?_, fun w x hw hi => ?_⟩
  · rw [timer_after, ← h.toNat_foldl 0, List.foldl_cons]
    cases timer <;> rfl
  · obtain ⟨rfl, -⟩ := step_eq_error_iff.mp h
    exact ⟨by simp only [beats, completed?_of_error h], fun _ => rfl⟩
  · obtain ⟨hrun, htimer⟩ := step_counts hw hi (.keepWaiting x hkey) rfl
    exact ⟨_, hrun, rfl, htimer⟩
  · obtain ⟨hrun, htimer⟩ := step_counts hw hi (.getDelay x) rfl
    exact ⟨_, hrun, Bank.get_set_self .., htimer⟩

/-- Sets the delay timer to five, and reads it. -/
def countdown : List UInt8 := [0x60, 0x05, 0xF0, 0x15, 0xF1, 0x07]

/-- The step that sets the timer counts already, and the step that reads it counts after that. -/
theorem timer_eq_lastGiven_sub_countdown :
    let m := (new { timers := .perStep } (.chaCha .zero)).after [.load countdown, .step, .step]
    (m.timer .delay).toNat = 4 ∧ ∃ t, step.run m = .ok () t ∧ t.v.get 1 = m.delay ∧
      (t.timer .delay).toNat = 3 := by
  intro m
  obtain ⟨m₀, h₀⟩ := (new { timers := .perStep } (.chaCha .zero)).load_accepted (p := countdown)
    (by decide) (by decide)
  have hfresh := fresh_of_load h₀
  have hmode₀ : m₀.timers = .perStep := by
    obtain ⟨memory, -, rfl⟩ := load_eq_ok_iff.mp h₀
    rfl
  have hload : (new { timers := .perStep } (.chaCha .zero)).act (.load countdown) = m₀ :=
    act_load_of_ok h₀
  have hstart :
      (new { timers := .perStep } (.chaCha .zero)).beats (.load countdown) = [.start] := by
    rw [beats, startsOver, state?_of_ok h₀]
    rfl
  -- the first step loads a register
  obtain ⟨m₁, h₁⟩ : ∃ m₁, m₁ = (m₀.put 0 5).finish 0x202 := ⟨_, rfl⟩
  have hi₀ : m₀.instruction? = some (.setByte 0 5) := hfresh.instruction?
  have hact₀ : m₀.act .step = m₁ := by
    rw [act_step_of_executes hi₀ (.setByte 0 5), hfresh.pc, h₁]
    rfl
  have hbeats₀ : m₀.beats .step = [.count] := by
    rw [beats, completed?_of_executes hi₀ (.setByte 0 5), stepCounts, if_pos hmode₀]
    rfl
  -- the second sets the timer
  obtain ⟨hmemory₁, hpc₁, hmode₁, hv₁⟩ : m₁.memory = m₀.memory ∧ m₁.pc = 0x202 ∧
      m₁.timers = .perStep ∧ m₁.v.get 0 = 5 := by
    rw [h₁]
    exact ⟨rfl, rfl, hmode₀, Bank.get_set_self ..⟩
  have hi₁ : m₁.instruction? = some (.setDelay 0) :=
    hfresh.instruction?_at hmemory₁ hpc₁ (by decide) (by decide)
  have hact₁ := act_step_of_executes hi₁ (.setDelay 0)
  have hbeats₁ : m₁.beats .step = [.set .delay 5, .count] := by
    rw [beats, completed?_of_executes hi₁ (.setDelay 0), stepCounts, if_pos hmode₁, ← hv₁]
    rfl
  have hm : m = m₁.act .step := by simp only [m, after_cons, after_nil, hload, hact₀]
  obtain ⟨hmode, htimer, -, -, hread⟩ :=
    timer_eq_lastGiven_sub { timers := .perStep } (.chaCha .zero) [.load countdown, .step, .step]
  have hdelay : (m.timer .delay).toNat = 4 := by
    refine (htimer .delay).2 5 1
      ⟨[.start, .start, .count], .set .delay 5, [.count], ?_, rfl, ?_, rfl⟩
    · simp only [log_cons, log_nil, hstart, hload, hbeats₀, hact₀, hbeats₁]
      rfl
    · simp [gives?]
  have hfetch : m.memory.fetch m.pc = .ok 0xF107 := by
    rw [hm, hact₁, memory_finish, pc_finish, hmemory₁, hpc₁]
    exact hfresh.fetch (a := 0x204) (by decide) (by decide)
  obtain ⟨t, hstep, hv, ht⟩ := hread 0xF107 1 hfetch rfl
  refine ⟨hdelay, t, hstep, hv, (ht .delay).trans ?_⟩
  rw [show (new { timers := .perStep } (.chaCha .zero)).after [.load countdown, .step, .step] = m
    from rfl, hdelay, stepCounts, if_pos hmode]

end Machine

end Chip8
