import Chip8.Proofs.Bounds
import Chip8.Proofs.Sharing
import Chip8.Proofs.Successor
import Chip8.Proofs.Timers

/-!
Waiting for a key that others press.

A machine reads its keypad through a handle, and others change the keypad through copies of it while
the machine steps. A step that waits sees the keys of its own instant: a key that came and went
between two steps has left no trace, and of several keys the lowest is taken.
-/

namespace Chip8

namespace Keypad

variable {p : Keypad} {k : Nibble}

lemma firstDown_eq_none_iff : p.firstDown = none ↔ ∀ k, p.keys.get k = false := by
  rw [firstDown, List.head?_eq_none_iff, List.eq_nil_iff_forall_not_mem]
  simp only [mem_down, Bool.not_eq_true]

/-- The first key that is down is the lowest. -/
lemma firstDown_eq_some_iff :
    p.firstDown = some k ↔ p.keys.get k = true ∧ ∀ j < k, p.keys.get j = false := by
  rw [firstDown, down, List.head?_filter, List.find?_eq_some_iff_getElem]
  simp only [List.getElem_finRange]
  refine and_congr_right fun _ => ?_
  constructor
  · rintro ⟨i, hi, rfl, h⟩ j hj
    simpa using h j.val hj
  · intro h
    exact ⟨k, by simp, rfl, fun j hj => by simpa using h ⟨j, by omega⟩ hj⟩

end Keypad

namespace Machine

/-- Machine `m` after `n` steps and `k` counts of its timers that changed nothing else, with the
keys as given. -/
def waited (m : Machine) (n k : Nat) (keys : Keypad) : Machine :=
  { m.ticks k with cycles := m.cycles + n, keypad := keys }

variable {m : Machine} {i : Instruction 16} {x : Nibble} {n k : Nat} {keys : Keypad}

lemma ticks_add (m : Machine) (j k : Nat) : m.ticks (j + k) = (m.ticks j).ticks k := by
  induction j generalizing m with
  | zero => rw [Nat.zero_add, ticks]
  | succ j ih => rw [Nat.succ_add, ticks, ih, ticks]

lemma ticks_with (m : Machine) (cycles : Nat) (keypad : Keypad) (k : Nat) :
    ticks { m with cycles, keypad } k = { m.ticks k with cycles, keypad } := by
  induction k generalizing m with
  | zero => rfl
  | succ k ih => exact ih m.tick

/-- Only the timers count down. -/
lemma ticks_eq (m : Machine) (k : Nat) : ∃ delay sound, m.ticks k = { m with delay, sound } := by
  induction k generalizing m with
  | zero => exact ⟨m.delay, m.sound, rfl⟩
  | succ k ih =>
    obtain ⟨delay, sound, h⟩ := ih m.tick
    exact ⟨delay, sound, h⟩

lemma waited_waited (m : Machine) (n k n' k' : Nat) (keys keys' : Keypad) :
    (m.waited n k keys).waited n' k' keys' = m.waited (n + n') (k + k') keys' := by
  rw [waited, waited, waited, ticks_with, ticks_add, Nat.add_assoc]

/-- Waiting leaves all that an instruction and its place depend on. -/
lemma waited_eq (m : Machine) (n k : Nat) (keys : Keypad) : ∃ delay sound, m.waited n k keys =
    { m with cycles := m.cycles + n, keypad := keys, delay, sound } := by
  obtain ⟨delay, sound, h⟩ := m.ticks_eq k
  exact ⟨delay, sound, by rw [waited, h]⟩

@[simp] lemma pc_waited : (m.waited n k keys).pc = m.pc := by
  obtain ⟨delay, sound, h⟩ := m.waited_eq n k keys
  rw [h]

@[simp] lemma v_waited : (m.waited n k keys).v = m.v := by
  obtain ⟨delay, sound, h⟩ := m.waited_eq n k keys
  rw [h]

@[simp] lemma stepCounts_waited : (m.waited n k keys).stepCounts = m.stepCounts := by
  obtain ⟨delay, sound, h⟩ := m.waited_eq n k keys
  rw [h]
  rfl

@[simp] lemma instruction?_waited : (m.waited n k keys).instruction? = m.instruction? := by
  obtain ⟨delay, sound, h⟩ := m.waited_eq n k keys
  rw [h]
  rfl

lemma finish_eq_waited (m : Machine) (pc : UInt16) :
    m.finish pc = { m.waited 1 m.stepCounts m.keypad with pc } := by
  rw [finish, waited, stepCounts]
  split <;> rfl

/-! ### One step -/

/-- A step never changes the keypad. -/
lemma keypad_step (m : Machine) : (m.act .step).keypad = m.keypad := by
  rcases act_step m with ⟨-, hm⟩ | h
  · rw [hm]
  · obtain ⟨i, f, u, -, hr, hm⟩ := step_eq_ok_iff.mp h
    rw [hm]
    exact hr.spared.keypad

lemma step_of_idle (hi : m.instruction? = some (.waitKey x)) (hkeys : m.keypad.firstDown = none) :
    step.run m = .ok () (m.waited 1 m.stepCounts m.keypad) := by
  obtain ⟨delay, sound, h⟩ := m.waited_eq 1 m.stepCounts m.keypad
  rw [step_of_executes hi (.keepWaiting x hkeys), finish_eq_waited, h]
  rfl

lemma step_of_firstDown {j : Nibble} (hi : m.instruction? = some (.waitKey x))
    (hkeys : m.keypad.firstDown = some j) :
    step.run m = .ok () { m.waited 1 m.stepCounts m.keypad with
      v := m.v.set x (UInt8.ofNat j)
      pc := m.pc + 2 } := by
  have hput (pc : UInt16) : (m.put x (UInt8.ofNat j)).finish pc =
      { m.finish pc with v := m.v.set x (UInt8.ofNat j) } := rfl
  rw [step_of_executes hi (.takeKey x hkeys), hput, finish_eq_waited]
  rfl

end Machine

/-- A machine among keypads. The first handle is the machine's own. -/
structure Station where
  core : Machine
  keypads : Keypads

namespace Station

open Keypad Machine

/-- What can happen at a station, one after another. -/
inductive Event where
  | keys (event : Keypads.Event)
  | step
  | tick
deriving DecidableEq

/-- A machine that has been given a new keypad. -/
def start (m : Machine) : Station := ⟨m, .single⟩

/-- The machine as it stands: its keypad is what it sees through its handle. -/
def machine (s : Station) : Machine := { s.core with keypad := s.keypads.read 0 }

/-- The machine turns into `t`, and what it does to its keypad is done through its handle. -/
def become (s : Station) (t : Machine) : Station := ⟨t, s.keypads.change 0 (.store t.keypad)⟩

def act (s : Station) : Event → Station
  | .keys e => { s with keypads := s.keypads.act e }
  | .step => s.become (s.machine.act .step)
  | .tick => s.become s.machine.tick

/-- The station after a history. -/
def after (s : Station) (history : List Event) : Station := history.foldl act s

/-- What a history does to the keypads. -/
def keyEvents (history : List Event) : List Keypads.Event :=
  history.filterMap fun
    | .keys e => some e
    | _ => none

/-- The latest change that affects key `k` of the machine's keypad put it down. -/
def HoldsDown (history : List Event) (k : Nibble) : Prop :=
  LeftDown k (Keypads.single.changes 0 (keyEvents history))

instance (history : List Event) (k : Nibble) : Decidable (HoldsDown history k) :=
  inferInstanceAs (Decidable (LeftDown _ _))

/-- No key was down at any step of the history. -/
def Idles (history : List Event) : Prop :=
  ∀ n < history.length, history[n]? = some .step → ∀ k, ¬ HoldsDown (history.take n) k

instance (history : List Event) : Decidable (Idles history) :=
  inferInstanceAs (Decidable (∀ n < history.length, _))

variable {s : Station} {m t : Machine} {x : Nibble} {history : List Event}

/-! ### Keypads -/

lemma keypads_become (ht : t.keypad = s.machine.keypad) : (s.become t).keypads = s.keypads := by
  rw [become, ht]
  exact s.keypads.change_store_read 0

lemma machine_become (ht : t.keypad = s.machine.keypad) : (s.become t).machine = t := by
  rw [machine, keypads_become ht]
  change { t with keypad := s.machine.keypad } = t
  rw [← ht]

lemma keypads_step (s : Station) : (s.act .step).keypads = s.keypads :=
  keypads_become s.machine.keypad_step

lemma keypads_tick (s : Station) : (s.act .tick).keypads = s.keypads := keypads_become rfl

/-- What steps and ticks come between the changes makes no difference to the keypads. -/
lemma keypads_after (s : Station) (history : List Event) :
    (s.after history).keypads = s.keypads.after (keyEvents history) := by
  induction history generalizing s with
  | nil => rfl
  | cons e es ih =>
    cases e with
    | keys e => exact ih (s.act (.keys e))
    | step => exact (ih (s.act .step)).trans (by rw [keypads_step]; rfl)
    | tick => exact (ih (s.act .tick)).trans (by rw [keypads_tick]; rfl)

/-- Through any handle a key is seen to be down if it was left down. -/
lemma isDown_after (m : Machine) (history : List Event) {h p : Nat}
    (hp : ((start m).after history).keypads.handles[h]? = some p) (k : UInt8) :
    (((start m).after history).keypads.read h).isDown k = true ↔
      LeftDown (key k) (Keypads.single.changes p (keyEvents history)) := by
  rw [keypads_after] at hp ⊢
  exact Keypads.get_read_after _ hp (key k)

/-- The machine sees what the changes left. -/
lemma get_keypad_after (m : Machine) (history : List Event) (k : Nibble) :
    ((start m).after history).machine.keypad.keys.get k = true ↔ HoldsDown history k := by
  have hown : (Keypads.single.after (keyEvents history)).handles[0]? = some 0 :=
    Keypads.handles_after _ rfl
  rw [HoldsDown, ← Keypads.get_read_after _ hown, machine, keypads_after]
  rfl

lemma firstDown_eq_none (m : Machine) (h : ∀ k, ¬ HoldsDown history k) :
    ((start m).after history).machine.keypad.firstDown = none := by
  rw [firstDown_eq_none_iff]
  exact fun k => Bool.eq_false_iff.mpr fun hk => h k ((get_keypad_after m history k).mp hk)

/-- Of the keys that are down the machine sees the lowest. -/
lemma exists_firstDown (m : Machine) (h : ∃ k, HoldsDown history k) :
    ∃ k, HoldsDown history k ∧ (∀ j < k, ¬ HoldsDown history j) ∧
      ((start m).after history).machine.keypad.firstDown = some k := by
  obtain ⟨k, hk⟩ := h
  rcases hfirst : ((start m).after history).machine.keypad.firstDown with _ | j
  · have := firstDown_eq_none_iff.mp hfirst k
    rw [(get_keypad_after m history k).mpr hk] at this
    cases this
  · obtain ⟨hj, hleast⟩ := firstDown_eq_some_iff.mp hfirst
    refine ⟨j, (get_keypad_after m history j).mp hj, fun l hl hdown => ?_, rfl⟩
    rw [← get_keypad_after m, hleast l hl] at hdown
    cases hdown

/-! ### Waiting -/

lemma after_append (s : Station) (es es' : List Event) :
    s.after (es ++ es') = (s.after es).after es' := List.foldl_append

lemma after_concat (s : Station) (history : List Event) (e : Event) :
    s.after (history ++ [e]) = (s.after history).act e := after_append s history [e]

lemma idles_concat {e : Event} : Idles (history ++ [e]) ↔
    Idles history ∧ (e = .step → ∀ k, ¬ HoldsDown history k) := by
  constructor
  · intro h
    refine ⟨fun n hn hstep => ?_, fun he => ?_⟩
    · have hn' : n < (history ++ [e]).length := by simp; omega
      have hidle := h n hn' (by rw [List.getElem?_append_left hn, hstep])
      rwa [List.take_append_of_le_length (Nat.le_of_lt hn)] at hidle
    · have hidle := h history.length (by simp) (by rw [List.getElem?_concat_length, he])
      rwa [List.take_left] at hidle
  · rintro ⟨h, he⟩ n hn hstep
    rw [List.length_append, List.length_singleton, Nat.lt_succ_iff] at hn
    rcases Nat.lt_or_eq_of_le hn with hn | rfl
    · rw [List.getElem?_append_left hn] at hstep
      rw [List.take_append_of_le_length (Nat.le_of_lt hn)]
      exact h n hn hstep
    · rw [List.getElem?_concat_length, Option.some_inj] at hstep
      rw [List.take_left]
      exact he hstep

/-- A history idles, or there is a first step that does not. -/
lemma idles_or_exists_step (history : List Event) : Idles history ∨
    ∃ before later, history = before ++ .step :: later ∧ Idles before ∧
      ∃ k, HoldsDown before k := by
  induction history using List.reverseRecOn with
  | nil => exact .inl nofun
  | append_singleton history e ih =>
    rcases ih with h | ⟨before, later, rfl, h, hdown⟩
    · by_cases he : e = .step → ∀ k, ¬ HoldsDown history k
      · exact .inl (idles_concat.mpr ⟨h, he⟩)
      · simp only [Classical.not_forall, not_not] at he
        obtain ⟨rfl, hdown⟩ := he
        exact .inr ⟨history, [], rfl, h, hdown⟩
    · exact .inr ⟨before, later ++ [e], by simp, h, hdown⟩

lemma machine_keys (s : Station) (e : Keypads.Event) : (s.act (.keys e)).machine =
    s.machine.waited 0 0 (s.act (.keys e)).machine.keypad := rfl

lemma machine_tick (s : Station) :
    (s.act .tick).machine = s.machine.waited 0 1 s.machine.keypad := machine_become rfl

lemma machine_step (s : Station) : (s.act .step).machine = s.machine.act .step :=
  machine_become s.machine.keypad_step

/-- A step that waits changes nothing but the cycles, and the timers at the end of the step. -/
lemma machine_step_of_idle (hi : s.machine.instruction? = some (.waitKey x))
    (hkeys : s.machine.keypad.firstDown = none) : (s.act .step).machine =
      s.machine.waited 1 s.machine.stepCounts s.machine.keypad := by
  rw [machine_step, Machine.act, state_of_ok (step_of_idle hi hkeys)]

/-- Without steps, only the timers and the keypad change. -/
lemma machine_after_of_no_step (s : Station) {later : List Event} (h : .step ∉ later) :
    (s.after later).machine =
      s.machine.waited 0 (later.count .tick) (s.after later).machine.keypad := by
  induction later using List.reverseRecOn with
  | nil => rfl
  | append_singleton later e ih =>
    simp only [List.mem_append, List.mem_singleton, not_or] at h
    have hlater := ih h.1
    rw [after_concat, List.count_append]
    cases e with
    | keys e =>
      rw [machine_keys, hlater, waited_waited]
      rfl
    | step => exact absurd rfl h.2
    | tick =>
      rw [machine_tick, hlater, waited_waited]
      rfl

/-- A machine that stands at a wait stays there while no key is down at its steps. -/
lemma machine_after_of_idles (hi : m.instruction? = some (.waitKey x)) (h : Idles history) :
    ((start m).after history).machine = m.waited (history.count .step)
      (history.count .tick + m.stepCounts * history.count .step)
      ((start m).after history).machine.keypad := by
  induction history using List.reverseRecOn with
  | nil => rfl
  | append_singleton history e ih =>
    obtain ⟨hbefore, he⟩ := idles_concat.mp h
    have hm := ih hbefore
    rw [after_concat, List.count_append, List.count_append]
    cases e with
    | keys e =>
      rw [machine_keys, hm, waited_waited]
      rfl
    | step =>
      have hwaits : ((start m).after history).machine.instruction? = some (.waitKey x) := by
        rw [hm, instruction?_waited, hi]
      rw [machine_step_of_idle hwaits (firstDown_eq_none m (he rfl)), hm, waited_waited,
        stepCounts_waited, Nat.add_assoc]
      rfl
    | tick =>
      rw [machine_tick, hm, waited_waited, Nat.add_right_comm]
      rfl

section

variable (hi : m.instruction? = some (.waitKey x)) (h : Idles history)
include hi h

lemma instruction?_after_of_idles :
    ((start m).after history).machine.instruction? = some (.waitKey x) := by
  rw [machine_after_of_idles hi h, instruction?_waited, hi]

lemma stepCounts_after_of_idles :
    ((start m).after history).machine.stepCounts = m.stepCounts := by
  rw [machine_after_of_idles hi h, stepCounts_waited]

/-- A step that finds no key down only counts. -/
lemma step_of_not_holdsDown (hidle : ∀ k, ¬ HoldsDown history k) :
    let s := (start m).after history
    step.run s.machine = .ok () (s.machine.waited 1 m.stepCounts (s.keypads.read 0)) := by
  intro s
  rw [step_of_idle (instruction?_after_of_idles hi h) (firstDown_eq_none m hidle),
    stepCounts_after_of_idles hi h]
  rfl

/-- The first step that finds a key down takes the lowest, and as long as no other step follows the
machine stays behind its wait. -/
lemma step_of_firstDown_after {k : Nibble}
    (hfirst : ((start m).after history).machine.keypad.firstDown = some k) :
    let s := (start m).after history
    let t : Machine := { s.machine.waited 1 m.stepCounts (s.keypads.read 0) with
      v := m.v.set x (UInt8.ofNat k)
      pc := m.pc + 2 }
    step.run s.machine = .ok () t ∧ ∀ later, .step ∉ later →
      let u := (start m).after (history ++ .step :: later)
      u.machine = t.waited 0 (later.count .tick) (u.keypads.read 0) := by
  intro s t
  have hrun : step.run s.machine = .ok () t := by
    have hv : s.machine.v = m.v := by rw [machine_after_of_idles hi h, v_waited]
    have hpc : s.machine.pc = m.pc := by rw [machine_after_of_idles hi h, pc_waited]
    rw [step_of_firstDown (instruction?_after_of_idles hi h) hfirst,
      stepCounts_after_of_idles hi h, hv, hpc]
    rfl
  refine ⟨hrun, fun later hlater => ?_⟩
  have hu : (start m).after (history ++ .step :: later) = (s.act .step).after later :=
    after_append (start m) history (.step :: later)
  dsimp only
  rw [hu, machine_after_of_no_step _ hlater, machine_step, Machine.act, state_of_ok hrun]
  rfl

end

/-- **Waiting for a key** that others press, through copies of the machine's handle and in whatever
order with its steps. Through every handle, a key is down exactly if the latest change that affects
it put it down; steps change no keypad. As long as no step finds a key down, steps only count, and
the first step that does takes the lowest key and goes on by one instruction, where the machine
stays until its next step. -/
theorem waits_for_lowest_key {w : UInt16} (hw : m.memory.fetch m.pc = .ok w)
    (hx : Instruction.table w = .waitKey x) :
    -- the keys, through every handle
    (∀ history h p, ((start m).after history).keypads.handles[h]? = some p → ∀ k : UInt8,
      ((((start m).after history).keypads.read h).isDown k = true ↔
        LeftDown (key k) (Keypads.single.changes p (keyEvents history)))) ∧
    (∀ s : Station, (s.act .step).keypads = s.keypads ∧ (s.act .tick).keypads = s.keypads) ∧
    (∀ before, Idles before →
      let s := (start m).after before
      s.machine = m.waited (before.count .step)
        (before.count .tick + m.stepCounts * before.count .step) (s.keypads.read 0) ∧
      -- a step without a key
      ((∀ k, ¬ HoldsDown before k) →
        step.run s.machine = .ok () (s.machine.waited 1 m.stepCounts (s.keypads.read 0))) ∧
      -- the first step with a key
      ((∃ k, HoldsDown before k) → ∃ k, HoldsDown before k ∧ (∀ j < k, ¬ HoldsDown before j) ∧
        let t : Machine := { s.machine.waited 1 m.stepCounts (s.keypads.read 0) with
          v := m.v.set x (UInt8.ofNat k)
          pc := m.pc + 2 }
        step.run s.machine = .ok () t ∧ t.pc.toNat = m.pc.toNat + 2 ∧
        ∀ later, .step ∉ later →
          let u := (start m).after (before ++ .step :: later)
          u.machine = t.waited 0 (later.count .tick) (u.keypads.read 0))) ∧
    -- every history is of one of these kinds
    ∀ history, Idles history ∨ ∃ before later, history = before ++ .step :: later ∧
      Idles before ∧ ∃ k, HoldsDown before k := by
  have hi : m.instruction? = some (.waitKey x) := hx ▸ instruction?_of_fetch hw
  refine ⟨fun history h p => isDown_after m history, fun s => ⟨keypads_step s, keypads_tick s⟩,
    fun before h => ⟨machine_after_of_idles hi h, step_of_not_holdsDown hi h, fun hdown => ?_⟩,
    idles_or_exists_step⟩
  obtain ⟨k, hk, hleast, hfirst⟩ := exists_firstDown m hdown
  obtain ⟨hrun, hlater⟩ := step_of_firstDown_after hi h hfirst
  have hpc : (m.pc + 2).toNat = m.pc.toNat + 2 := toNat_target_next (pc_of_instruction? hi).2
  exact ⟨k, hk, hleast, hrun, hpc, hlater⟩

/-- Waits for a key in `V5`. -/
def waitInFive : List UInt8 := [0xF5, 0x0A]

/-- A key that comes and goes between two steps is missed; of two keys pressed through different
handles the lower one is taken. -/
theorem waits_for_lowest_key_two :
    let before : List Event := [.keys (.copy 0), .step, .keys (.change 1 (.press 0x13)),
      .keys (.change 0 (.release 3)), .tick, .step, .keys (.change 1 (.press 0x1C)),
      .keys (.change 0 (.press 9))]
    ∃ m t : Machine, m.memory.fetch m.pc = .ok 0xF50A ∧
      (((start m).after before).keypads.read 1).isDown 9 = true ∧
      ((start m).after before).machine.cycles = 2 ∧
      step.run ((start m).after before).machine = .ok () t ∧
      t.v.get 5 = 9 ∧ t.pc = 0x202 ∧ t.cycles = 3 := by
  intro before
  obtain ⟨m, hm⟩ := (new { timers := .perStep } (.chaCha .zero)).load_accepted (p := waitInFive)
    (by decide) (by decide)
  have hfresh := fresh_of_load hm
  have hcycles : m.cycles = 0 := by
    obtain ⟨memory, -, rfl⟩ := load_eq_ok_iff.mp hm
    rfl
  obtain ⟨hkeys, -, hwait, -⟩ := waits_for_lowest_key (x := 5) hfresh.fetch_pc rfl
  obtain ⟨hwaited, -, htake⟩ := hwait before (by decide)
  obtain ⟨k, hk, hleast, hrun, -⟩ := htake ⟨9, by decide⟩
  have hnine : ∀ k, HoldsDown before k → (∀ j < k, ¬ HoldsDown before j) → k = 9 := by decide
  obtain rfl := hnine k hk hleast
  have hown : ((start m).after before).keypads.handles[1]? = some 0 := rfl
  have hsteps : ((start m).after before).machine.cycles = 2 := by
    rw [hwaited, waited, hcycles]
    rfl
  refine ⟨m, _, hfresh.fetch_pc, (hkeys before 1 0 hown 9).mpr (by decide), hsteps, hrun,
    Bank.get_set_self .., ?_, ?_⟩
  · exact (congrArg (· + 2) hfresh.pc).trans (by decide)
  · exact congrArg (· + 1) hsteps

end Station

end Chip8
