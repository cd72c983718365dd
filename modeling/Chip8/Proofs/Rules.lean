import Chip8.Machine.Step
import Chip8.Proofs.Access

/-!
The rules of the instruction set, one for each way an instruction can end, as relations beside the
machine that executes them.

An instruction runs as its rules say, and in every state a rule applies. So what a step does, and
what it does not do, is read off the rules by cases.
-/

namespace Chip8.Machine

open Instruction

/-- The instruction at the program counter. -/
def instruction? (m : Machine) : Option (Instruction 16) :=
  (m.memory.fetch m.pc).toOption.map decode

/-- The rows that a draw instruction reads. -/
def sprite (m : Machine) (n : UInt8) : Except MemoryError (List UInt8) :=
  if n = 0 then .ok [] else m.memory.readBlock m.index n.toNat

def put (m : Machine) (x : Nibble) (b : UInt8) : Machine := { m with v := m.v.set x b }

def putWithFlag (m : Machine) (x : Nibble) (b : Bool) (result : UInt8) : Machine :=
  (m.put flag (if b then 1 else 0)).put x result

def movePast (m : Machine) (x : Nibble) : Machine :=
  if m.movesIndex then { m with index := m.index + UInt16.ofNat (x + 1) } else m

/-- What a sprite at `Vx`, `Vy` does to the screen, and whether it hits a lit pixel. -/
def blitAt (m : Machine) (x y : Nibble) (rows : List UInt8) : Bool × Screen :=
  let left := (m.v.get x).toNat % Screen.width
  let top := (m.v.get y).toNat % Screen.height
  m.screen.blit (Screen.spritePixels left top rows)

/-- `Executes m i f t`: instruction `i` takes machine `m` to `t`, and the program counter goes on
by `f`. -/
inductive Executes (m : Machine) : Instruction 16 → Flow → Machine → Prop where
  | clearScreen : Executes m .clearScreen .next { m with screen := m.screen.clear }
  | ret {a : UInt16} {stack : CallStack} (h : m.stack.pop? = some (a, stack)) :
    Executes m .ret (.jump a) { m with stack }
  | jump (a : UInt16) : Executes m (.jump a) (.jump a) m
  | call (a : UInt16) {stack : CallStack} (h : m.stack.push? (m.pc + 2) = some stack) :
    Executes m (.call a) (.jump a) { m with stack }
  | skipEqByte (x : Nibble) (b : UInt8) :
    Executes m (.skipEqByte x b) (.skipIf (m.v.get x == b)) m
  | skipNeByte (x : Nibble) (b : UInt8) :
    Executes m (.skipNeByte x b) (.skipIf (m.v.get x != b)) m
  | skipEq (x y : Nibble) : Executes m (.skipEq x y) (.skipIf (m.v.get x == m.v.get y)) m
  | setByte (x : Nibble) (b : UInt8) : Executes m (.setByte x b) .next (m.put x b)
  | addByte (x : Nibble) (b : UInt8) : Executes m (.addByte x b) .next (m.put x (m.v.get x + b))
  | copy (x y : Nibble) : Executes m (.copy x y) .next (m.put x (m.v.get y))
  | bitOr (x y : Nibble) : Executes m (.bitOr x y) .next (m.put x (m.v.get x ||| m.v.get y))
  | bitAnd (x y : Nibble) : Executes m (.bitAnd x y) .next (m.put x (m.v.get x &&& m.v.get y))
  | bitXor (x y : Nibble) : Executes m (.bitXor x y) .next (m.put x (m.v.get x ^^^ m.v.get y))
  | add (x y : Nibble) : Executes m (.add x y) .next
      (m.putWithFlag x (255 < (m.v.get x).toNat + (m.v.get y).toNat) (m.v.get x + m.v.get y))
  | sub (x y : Nibble) :
    Executes m (.sub x y) .next (m.putWithFlag x (m.v.get y ≤ m.v.get x) (m.v.get x - m.v.get y))
  | shiftRight (x : Nibble) :
    Executes m (.shiftRight x) .next (m.putWithFlag x (m.v.get x % 2 = 1) (m.v.get x / 2))
  | subFrom (x y : Nibble) : Executes m (.subFrom x y) .next
      (m.putWithFlag x (m.v.get x ≤ m.v.get y) (m.v.get y - m.v.get x))
  | shiftLeft (x : Nibble) :
    Executes m (.shiftLeft x) .next (m.putWithFlag x (128 ≤ m.v.get x) (2 * m.v.get x))
  | skipNe (x y : Nibble) : Executes m (.skipNe x y) (.skipIf (m.v.get x != m.v.get y)) m
  | setIndex (a : UInt16) : Executes m (.setIndex a) .next { m with index := a }
  | jumpOffset (a : UInt16) :
    Executes m (.jumpOffset a) (.jump (a + (m.v.get (.ofNat 0)).toUInt16)) m
  | random (x : Nibble) (mask : UInt8) : Executes m (.random x mask) .next
      { m with
        generator := m.generator.advance
        v := m.v.set x (m.generator.peek &&& mask) }
  | draw (x y : Nibble) (n : UInt8) {rows : List UInt8} (h : m.sprite n = .ok rows) :
    Executes m (.draw x y n) .next
      { m with
        screen := (m.blitAt x y rows).2
        v := m.v.set flag (if (m.blitAt x y rows).1 then 1 else 0) }
  | skipKeyDown (x : Nibble) :
    Executes m (.skipKeyDown x) (.skipIf (m.keypad.isDown (m.v.get x))) m
  | skipKeyUp (x : Nibble) : Executes m (.skipKeyUp x) (.skipIf (!m.keypad.isDown (m.v.get x))) m
  | getDelay (x : Nibble) : Executes m (.getDelay x) .next (m.put x m.delay)
  | keepWaiting (x : Nibble) (h : m.keypad.firstDown = none) : Executes m (.waitKey x) .hold m
  | takeKey (x : Nibble) {k : Nibble} (h : m.keypad.firstDown = some k) :
    Executes m (.waitKey x) .next (m.put x (UInt8.ofNat k))
  | setDelay (x : Nibble) : Executes m (.setDelay x) .next { m with delay := m.v.get x }
  | setSound (x : Nibble) : Executes m (.setSound x) .next { m with sound := m.v.get x }
  | addIndex (x : Nibble) :
    Executes m (.addIndex x) .next { m with index := m.index + (m.v.get x).toUInt16 }
  | glyph (x : Nibble) :
    Executes m (.glyph x) .next { m with index := 0x050 + 5 * (m.v.get x).toUInt16 }
  | decimal (x : Nibble) {memory : Memory}
      (h : (Memory.writeBlock m.index (decimalDigits (m.v.get x))).run m.memory =
        .ok () memory) :
    Executes m (.decimal x) .next { m with memory }
  | save (x : Nibble) {memory : Memory}
      (h : (Memory.writeBlock m.index (m.v.toList.take (x + 1))).run m.memory =
        .ok () memory) :
    Executes m (.save x) .next ({ m with memory }.movePast x)
  | restore (x : Nibble) {bytes : List UInt8}
      (h : m.memory.readBlock m.index (x + 1) = .ok bytes) :
    Executes m (.restore x) .next ({ m with v := fill m.v 0 bytes }.movePast x)
  | unknown (w : UInt16) : Executes m (.unknown w) .next m

/-- `Fails m i e`: instruction `i` fails with `e` on machine `m`. -/
inductive Fails (m : Machine) : Instruction 16 → StepError → Prop where
  | ret (h : m.stack.pop? = none) : Fails m .ret (.stackUnderflow m.pc)
  | call (a : UInt16) (h : m.stack.push? (m.pc + 2) = none) :
    Fails m (.call a) (.stackOverflow m.pc)
  | draw (x y : Nibble) (n : UInt8) {e : MemoryError} (h : m.sprite n = .error e) :
    Fails m (.draw x y n) (.memory e)
  | decimal (x : Nibble) {e : MemoryError}
      (h : (Memory.writeBlock m.index (decimalDigits (m.v.get x))).run m.memory =
        .error e m.memory) :
    Fails m (.decimal x) (.memory e)
  | save (x : Nibble) {e : MemoryError}
      (h : (Memory.writeBlock m.index (m.v.toList.take (x + 1))).run m.memory =
        .error e m.memory) :
    Fails m (.save x) (.memory e)
  | restore (x : Nibble) {e : MemoryError}
      (h : m.memory.readBlock m.index (x + 1) = .error e) :
    Fails m (.restore x) (.memory e)

/-! ### Memory accesses and drawing -/

/-- Only the index can move. -/
lemma movePast_eq (m : Machine) (x : Nibble) : ∃ index, m.movePast x = { m with index } := by
  unfold movePast
  split
  · exact ⟨_, rfl⟩
  · exact ⟨m.index, rfl⟩

@[simp] lemma memory_movePast (m : Machine) (x : Nibble) :
    (m.movePast x).memory = m.memory := by
  obtain ⟨index, h⟩ := m.movePast_eq x
  rw [h]

@[simp] lemma stack_movePast (m : Machine) (x : Nibble) : (m.movePast x).stack = m.stack := by
  obtain ⟨index, h⟩ := m.movePast_eq x
  rw [h]

@[simp] lemma cycles_movePast (m : Machine) (x : Nibble) :
    (m.movePast x).cycles = m.cycles := by
  obtain ⟨index, h⟩ := m.movePast_eq x
  rw [h]

@[simp] lemma screen_movePast (m : Machine) (x : Nibble) :
    (m.movePast x).screen = m.screen := by
  obtain ⟨index, h⟩ := m.movePast_eq x
  rw [h]

@[simp] lemma v_movePast (m : Machine) (x : Nibble) : (m.movePast x).v = m.v := by
  obtain ⟨index, h⟩ := m.movePast_eq x
  rw [h]

lemma run_access {α : Type} (r : Except MemoryError α) (m : Machine) :
    (access r).run m = match r with
      | .ok a => .ok a m
      | .error e => .error (.memory e) m := by
  cases r <;> rfl

lemma run_readBlock (m : Machine) (a : UInt16) (n : Nat) :
    (readBlock a n).run m = match m.memory.readBlock a n with
      | .ok bytes => .ok bytes m
      | .error e => .error (.memory e) m := by
  simp only [readBlock, EStateM.run_bind, EStateM.run_get, run_access]
  cases m.memory.readBlock a n <;> rfl

lemma run_writeBlock (m : Machine) (a : UInt16) (data : List UInt8) :
    (writeBlock a data).run m = match (Memory.writeBlock a data).run m.memory with
      | .ok _ memory => .ok () { m with memory }
      | .error e memory => .error (.memory e) { m with memory } := by
  rw [writeBlock, onMemory, run_onPart]
  cases (Memory.writeBlock a data).run m.memory <;> rfl

lemma run_moveIndex (m : Machine) (x : Nibble) : (moveIndex x).run m = .ok () (m.movePast x) := rfl

/-- The flag is zero while a sprite is drawn, which nothing sees. -/
lemma run_draw (m : Machine) (x y : Nibble) (n : UInt8) :
    (draw x y n).run m = match m.sprite n with
      | .ok rows => .ok () { m with
          screen := (m.blitAt x y rows).2
          v := m.v.set flag (if (m.blitAt x y rows).1 then 1 else 0) }
      | .error e => .error (.memory e) m := by
  have hset (b : UInt8) : (m.v.set flag 0).set flag b = m.v.set flag b := Bank.set_set ..
  unfold draw sprite
  by_cases hn : n = 0
  · simp only [hn, if_true]
    rw [← hset]
    rfl
  · simp only [hn, if_false, EStateM.run_bind, EStateM.run_get, run_readBlock]
    cases m.memory.readBlock m.index n.toNat with
    | error e => rfl
    | ok rows =>
      dsimp only
      rw [← hset]
      rfl

variable {m t : Machine} {i : Instruction 16} {f : Flow} {e : StepError}

/-! ### Instructions run as their rules say -/

lemma Executes.run (h : Executes m i f t) : (execute i).run m = .ok f t := by
  cases h with
  | ret h | call _ h | keepWaiting _ h | takeKey _ h =>
    simp only [execute, EStateM.run_bind, EStateM.run_get, h]
    rfl
  | draw _ _ _ h => simp only [execute, EStateM.run_bind, run_draw, h, EStateM.run_pure]
  | decimal _ h =>
    simp only [execute, EStateM.run_bind, EStateM.run_get, run_writeBlock, h, EStateM.run_pure]
  | save _ h =>
    simp only [execute, EStateM.run_bind, EStateM.run_get, run_writeBlock, h, run_moveIndex,
      EStateM.run_pure]
  | restore _ h =>
    simp only [execute, EStateM.run_bind, EStateM.run_get, run_readBlock, h, run_moveIndex,
      EStateM.run_modify, EStateM.run_pure]
  | _ => rfl

lemma Fails.run (h : Fails m i e) : (execute i).run m = .error e m := by
  cases h with
  | ret h | call _ h =>
    simp only [execute, EStateM.run_bind, EStateM.run_get, h]
    rfl
  | draw _ _ _ h => simp only [execute, EStateM.run_bind, run_draw, h]
  | decimal _ h | save _ h =>
    simp only [execute, EStateM.run_bind, EStateM.run_get, run_writeBlock, h]
  | restore _ h => simp only [execute, EStateM.run_bind, EStateM.run_get, run_readBlock, h]

/-- In every state a rule applies to every instruction. -/
lemma executes_or_fails (m : Machine) (i : Instruction 16) :
    (∃ f t, Executes m i f t) ∨ ∃ e, Fails m i e := by
  cases i with
  | ret =>
    rcases h : m.stack.pop? with _ | ⟨a, stack⟩
    · exact .inr ⟨_, .ret h⟩
    · exact .inl ⟨_, _, .ret h⟩
  | call a =>
    rcases h : m.stack.push? (m.pc + 2) with _ | stack
    · exact .inr ⟨_, .call a h⟩
    · exact .inl ⟨_, _, .call a h⟩
  | draw x y n =>
    rcases h : m.sprite n with e | rows
    · exact .inr ⟨_, .draw x y n h⟩
    · exact .inl ⟨_, _, .draw x y n h⟩
  | waitKey x =>
    rcases h : m.keypad.firstDown with _ | k
    · exact .inl ⟨_, _, .keepWaiting x h⟩
    · exact .inl ⟨_, _, .takeKey x h⟩
  | decimal x =>
    rcases h : (Memory.writeBlock m.index (decimalDigits (m.v.get x))).run m.memory with
      ⟨⟨⟩, memory⟩ | ⟨e, memory⟩
    · exact .inl ⟨_, _, .decimal x h⟩
    · obtain ⟨rfl, -⟩ := Memory.writeBlock_refused_iff.mp h
      exact .inr ⟨_, .decimal x h⟩
  | save x =>
    rcases h : (Memory.writeBlock m.index (m.v.toList.take (x + 1))).run m.memory with
      ⟨⟨⟩, memory⟩ | ⟨e, memory⟩
    · exact .inl ⟨_, _, .save x h⟩
    · obtain ⟨rfl, -⟩ := Memory.writeBlock_refused_iff.mp h
      exact .inr ⟨_, .save x h⟩
  | restore x =>
    rcases h : m.memory.readBlock m.index (x + 1) with e | bytes
    · exact .inr ⟨_, .restore x h⟩
    · exact .inl ⟨_, _, .restore x h⟩
  | _ => exact .inl ⟨_, _, by constructor⟩

theorem execute_eq_ok_iff : (execute i).run m = .ok f t ↔ Executes m i f t := by
  refine ⟨fun h => ?_, Executes.run⟩
  rcases executes_or_fails m i with ⟨f', t', hr⟩ | ⟨e, hr⟩
  · obtain ⟨rfl, rfl⟩ : f' = f ∧ t' = t := by simpa [hr.run] using h
    exact hr
  · simp [hr.run] at h

theorem execute_eq_error_iff : (execute i).run m = .error e t ↔ t = m ∧ Fails m i e := by
  constructor
  · intro h
    rcases executes_or_fails m i with ⟨f, t', hr⟩ | ⟨e', hr⟩
    · simp [hr.run] at h
    · obtain ⟨rfl, rfl⟩ : e' = e ∧ m = t := by simpa [hr.run] using h
      exact ⟨rfl, hr⟩
  · rintro ⟨rfl, h⟩
    exact h.run

lemma Executes.cycles (h : Executes m i f t) : t.cycles = m.cycles := by
  cases h with
  | save | restore => rw [cycles_movePast]
  | _ => rfl

/-! ### Steps -/

/-- What is left of a step once its instruction has run. -/
def finish (m : Machine) (pc : UInt16) : Machine :=
  { m with
    pc
    cycles := m.cycles + 1
    delay := if m.timers = .perStep then countDown m.delay else m.delay
    sound := if m.timers = .perStep then countDown m.sound else m.sound }

@[simp] lemma pc_finish (m : Machine) (pc : UInt16) : (m.finish pc).pc = pc := rfl
@[simp] lemma cycles_finish (m : Machine) (pc : UInt16) :
    (m.finish pc).cycles = m.cycles + 1 := rfl
@[simp] lemma stack_finish (m : Machine) (pc : UInt16) : (m.finish pc).stack = m.stack := rfl
@[simp] lemma memory_finish (m : Machine) (pc : UInt16) : (m.finish pc).memory = m.memory := rfl
@[simp] lemma screen_finish (m : Machine) (pc : UInt16) : (m.finish pc).screen = m.screen := rfl

lemma finish_eq (t : Machine) (pc : UInt16) : t.finish pc =
    let t := { t with pc, cycles := t.cycles + 1 }
    if t.timers = .perStep then t.tick else t := by
  dsimp only [finish]
  split <;> rfl

lemma run_step (m : Machine) : step.run m = match m.memory.fetch m.pc with
    | .error e => .error (.memory e) m
    | .ok w => match (execute (decode w)).run m with
      | .error e t => .error e t
      | .ok f t => .ok () (t.finish (f.target m.pc)) := by
  simp only [step, EStateM.run_bind, EStateM.run_get, run_access, EStateM.run_modify, finish_eq]
  cases m.memory.fetch m.pc with
  | error e => rfl
  | ok w =>
    dsimp only
    cases (execute (decode w)).run m <;> rfl

lemma instruction?_eq_some_iff :
    m.instruction? = some i ↔ ∃ w, m.memory.fetch m.pc = .ok w ∧ decode w = i := by
  unfold instruction?
  cases m.memory.fetch m.pc <;> simp [Except.toOption]

lemma step_of_executes (hi : m.instruction? = some i) (h : Executes m i f t) :
    step.run m = .ok () (t.finish (f.target m.pc)) := by
  obtain ⟨w, hw, rfl⟩ := instruction?_eq_some_iff.mp hi
  simp only [run_step, hw, h.run]

lemma step_of_fails (hi : m.instruction? = some i) (h : Fails m i e) :
    step.run m = .error e m := by
  obtain ⟨w, hw, rfl⟩ := instruction?_eq_some_iff.mp hi
  simp only [run_step, hw, h.run]

/-- A return without a call. -/
lemma step_ret_of_empty (hi : m.instruction? = some .ret) (hs : m.stack = .empty) :
    step.run m = .error (.stackUnderflow m.pc) m := by
  have hempty : m.stack.pop? = none := by
    rw [hs]
    rfl
  exact step_of_fails hi (.ret hempty)

lemma step_of_fetch_error {e : MemoryError} (h : m.memory.fetch m.pc = .error e) :
    step.run m = .error (.memory e) m := by
  simp only [run_step, h]

/-- A step cannot fetch its instruction, or its instruction runs, or its instruction fails. -/
lemma step_cases (m : Machine) :
    (∃ e, m.memory.fetch m.pc = .error e) ∨
    (∃ i f t, m.instruction? = some i ∧ Executes m i f t) ∨
    ∃ i e, m.instruction? = some i ∧ Fails m i e := by
  rcases hw : m.memory.fetch m.pc with e | w
  · exact .inl ⟨e, rfl⟩
  · have hi : m.instruction? = some (decode w) := instruction?_eq_some_iff.mpr ⟨w, hw, rfl⟩
    rcases executes_or_fails m (decode w) with ⟨f, t, h⟩ | ⟨e, h⟩
    · exact .inr (.inl ⟨_, f, t, hi, h⟩)
    · exact .inr (.inr ⟨_, e, hi, h⟩)

theorem step_eq_ok_iff : step.run m = .ok () t ↔
    ∃ i f u, m.instruction? = some i ∧ Executes m i f u ∧ t = u.finish (f.target m.pc) := by
  constructor
  · intro h
    rcases step_cases m with ⟨e, hw⟩ | ⟨i, f, u, hi, hr⟩ | ⟨i, e, hi, hr⟩
    · simp [step_of_fetch_error hw] at h
    · refine ⟨i, f, u, hi, hr, ?_⟩
      simpa [step_of_executes hi hr, eq_comm] using h
    · simp [step_of_fails hi hr] at h
  · rintro ⟨i, f, u, hi, hr, rfl⟩
    exact step_of_executes hi hr

/-- **A step that fails changes nothing**, and this is how it can fail. -/
theorem step_eq_error_iff : step.run m = .error e t ↔ t = m ∧
    ((∃ c, m.memory.fetch m.pc = .error c ∧ e = .memory c) ∨
      ∃ i, m.instruction? = some i ∧ Fails m i e) := by
  constructor
  · intro h
    rcases step_cases m with ⟨c, hw⟩ | ⟨i, f, u, hi, hr⟩ | ⟨i, c, hi, hr⟩
    · obtain ⟨rfl, rfl⟩ : .memory c = e ∧ m = t := by simpa [step_of_fetch_error hw] using h
      exact ⟨rfl, .inl ⟨c, hw, rfl⟩⟩
    · simp [step_of_executes hi hr] at h
    · obtain ⟨rfl, rfl⟩ : c = e ∧ m = t := by simpa [step_of_fails hi hr] using h
      exact ⟨rfl, .inr ⟨i, hi, hr⟩⟩
  · rintro ⟨rfl, ⟨c, hw, rfl⟩ | ⟨i, hi, hr⟩⟩
    · exact step_of_fetch_error hw
    · exact step_of_fails hi hr

/-- An action and another after it come off if each of them does. -/
lemma bind_eq_ok_iff {α β : Type} {x : Exec α} {g : α → Exec β} {b : β} :
    (x >>= g).run m = .ok b t ↔ ∃ a u, x.run m = .ok a u ∧ (g a).run u = .ok b t := by
  rw [EStateM.run_bind]
  cases x.run m with
  | error e u => simp
  | ok a u =>
    constructor
    · intro h
      exact ⟨a, u, rfl, h⟩
    · rintro ⟨_, _, ⟨⟩, h⟩
      exact h

lemma steps_succ_eq_ok_iff {n : Nat} : (steps (n + 1)).run m = .ok () t ↔
    ∃ u, step.run m = .ok () u ∧ (steps n).run u = .ok () t :=
  bind_eq_ok_iff.trans ⟨fun ⟨_, h⟩ => h, fun h => ⟨(), h⟩⟩

/-- Steps come one after another: a failure among the first is a failure of all. -/
lemma run_steps_add (k n : Nat) (m : Machine) : (steps (k + n)).run m =
    match (steps k).run m with
    | .ok _ t => (steps n).run t
    | .error e t => .error e t := by
  induction k generalizing m with
  | zero =>
    rw [Nat.zero_add]
    rfl
  | succ k ih =>
    rw [Nat.succ_add, steps_succ, steps_succ, EStateM.run_bind, EStateM.run_bind]
    cases step.run m with
    | error e t => rfl
    | ok _ t => exact ih t

lemma run_steps_of_error {u : Machine} {k n : Nat} (hk : k < n) (ht : (steps k).run m = .ok () t)
    (he : step.run t = .error e u) : (steps n).run m = .error e u := by
  obtain ⟨j, rfl⟩ : ∃ j, n = k + (j + 1) := ⟨n - k - 1, by omega⟩
  rw [run_steps_add, ht]
  dsimp only
  rw [steps_succ, EStateM.run_bind, he]

/-- Steps that fail come off up to one of them, which fails. -/
lemma exists_steps_of_error (h : (steps n).run m = .error e t) :
    ∃ k < n, (steps k).run m = .ok () t ∧ step.run t = .error e t := by
  induction n generalizing m with
  | zero => cases h
  | succ n ih =>
    rw [steps_succ, EStateM.run_bind] at h
    rcases hm : step.run m with ⟨⟨⟩, u⟩ | ⟨e', u⟩
    · rw [hm] at h
      obtain ⟨k, hk, ht, he⟩ := ih h
      exact ⟨k + 1, by omega, steps_succ_eq_ok_iff.mpr ⟨u, hm, ht⟩, he⟩
    · rw [hm] at h
      cases h
      obtain ⟨rfl, -⟩ := step_eq_error_iff.mp hm
      exact ⟨0, n.succ_pos, rfl, hm⟩

lemma run_steps_two {u : Machine} (h₁ : step.run m = .ok () t) (h₂ : step.run t = .ok () u) :
    (steps 2).run m = .ok () u := by
  simp only [steps_succ, steps_zero, EStateM.run_bind, h₁, h₂]
  rfl

end Chip8.Machine
