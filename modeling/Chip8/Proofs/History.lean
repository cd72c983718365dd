import Chip8.Proofs.Access
import Chip8.Proofs.Rules

/-!
What can be done to a machine from outside, and the machine after any history of it.

A step that fails and a load that is refused leave the machine as it was, so a history goes on
after them.
-/

namespace Chip8.Machine

inductive Action where
  | load (program : List UInt8)
  | reset
  | step
  | tick
  | press (key : UInt8)
  | release (key : UInt8)
  /-- All keys change at once. -/
  | store (keys : Keypad)
  | takeFrame
  | clean
deriving DecidableEq

def act (m : Machine) : Action → Machine
  | .load program => state (load program) m
  | .reset => m.reset
  | .step => state step m
  | .tick => m.tick
  | .press k => { m with keypad := m.keypad.press k }
  | .release k => { m with keypad := m.keypad.release k }
  | .store keys => { m with keypad := keys }
  | .takeFrame => m.takeFrame.2
  | .clean => { m with screen := m.screen.clean }

/-- The machine after a history. -/
def after (m : Machine) (history : List Action) : Machine := history.foldl act m

/-- The action starts the machine over. -/
def startsOver (m : Machine) : Action → Bool
  | .load program => (state? (load program) m).isSome
  | .reset => true
  | _ => false

@[simp] lemma after_nil (m : Machine) : m.after [] = m := rfl

@[simp] lemma after_cons (m : Machine) (a : Action) (as : List Action) :
    m.after (a :: as) = (m.act a).after as := rfl

/-- What holds at first and survives every action holds after every history. -/
lemma after_induction {P : Machine → Prop} {m : Machine} (start : P m)
    (step : ∀ m a, P m → P (m.act a)) (as : List Action) : P (m.after as) := by
  induction as generalizing m with
  | nil => exact start
  | cons a as ih => exact ih (step m a start)

variable {m : Machine}

lemma run_load (m : Machine) (p : List UInt8) :
    (load p).run m = match (Memory.load p).run m.memory with
      | .ok _ memory => .ok () { m with memory }.reset
      | .error e memory => .error e { m with memory } := by
  simp only [load, onMemory, EStateM.run_bind, run_onPart]
  cases (Memory.load p).run m.memory <;> rfl

lemma load_eq_ok_iff {p : List UInt8} {t : Machine} : (load p).run m = .ok () t ↔
    ∃ memory, (Memory.load p).run m.memory = .ok () memory ∧ t = { m with memory }.reset := by
  rw [run_load]
  cases (Memory.load p).run m.memory with
  | error e memory => simp
  | ok _ memory => simp [eq_comm]

/-- A load that is refused changes nothing. -/
lemma eq_of_load_error {p : List UInt8} {e : LoadError} {t : Machine}
    (h : (load p).run m = .error e t) : t = m := by
  rw [run_load] at h
  rcases hm : (Memory.load p).run m.memory with ⟨⟨⟩, memory⟩ | ⟨c, memory⟩
  · rw [hm] at h
    cases h
  · rw [hm, Memory.eq_of_load_error hm] at h
    cases h
    rfl

lemma load_accepted (m : Machine) {p : List UInt8} (hp : p ≠ []) (hn : p.length ≤ 3584) :
    ∃ t, (load p).run m = .ok () t := by
  obtain ⟨memory, hm⟩ := m.memory.load_accepted hp hn
  exact ⟨_, load_eq_ok_iff.mpr ⟨memory, hm, rfl⟩⟩

/-- A machine that program `p` has just been loaded into. -/
structure Fresh (p : List UInt8) (m : Machine) : Prop where
  isLoaded : m.memory.isLoaded
  byte {i : Nat} (h₁ : 0x200 ≤ i) (h₂ : i < 4096) : m.memory.byte i = p.getD (i - 0x200) 0
  fetch {a : UInt16} (h₁ : 0x200 ≤ a.toNat) (h₂ : a.toNat + 2 ≤ 4096) : m.memory.fetch a =
    .ok (Word.ofBytes (p.getD (a.toNat - 0x200) 0) (p.getD (a.toNat + 1 - 0x200) 0))
  v : m.v = Vector.replicate 16 0
  index : m.index = 0
  pc : m.pc = 0x200
  stack : m.stack = .empty
  sound : m.sound = 0
  screen : m.screen = Screen.blank.clear

lemma fresh_of_load {p : List UInt8} {t : Machine} (h : (load p).run m = .ok () t) : Fresh p t := by
  obtain ⟨memory, hm, rfl⟩ := load_eq_ok_iff.mp h
  exact {
    isLoaded := Memory.isLoaded_of_load hm
    byte := fun h₁ h₂ => (Memory.byte_of_load hm h₂).trans (if_neg (by omega))
    fetch := Memory.fetch_of_load hm
    v := rfl
    index := rfl
    pc := rfl
    stack := rfl
    sound := rfl
    screen := rfl }

lemma Fresh.fetch_pc {p : List UInt8} (h : Fresh p m) :
    m.memory.fetch m.pc = .ok (Word.ofBytes (p.getD 0 0) (p.getD 1 0)) := by
  rw [h.pc]
  exact h.fetch (by decide) (by decide)

/-- As long as the memory stays, the instructions are the words of the program. -/
lemma Fresh.instruction?_at {p : List UInt8} {t : Machine} {a : UInt16} (h : Fresh p m)
    (hmem : t.memory = m.memory) (hpc : t.pc = a) (h₁ : 0x200 ≤ a.toNat)
    (h₂ : a.toNat + 2 ≤ 4096) : t.instruction? = some (Instruction.decode
      (Word.ofBytes (p.getD (a.toNat - 0x200) 0) (p.getD (a.toNat + 1 - 0x200) 0))) :=
  instruction?_eq_some_iff.mpr ⟨_, by rw [hmem, hpc, h.fetch h₁ h₂], rfl⟩

/-- It stands at the first word of its program. -/
lemma Fresh.instruction? {p : List UInt8} (h : Fresh p m) :
    m.instruction? = some (Instruction.decode (Word.ofBytes (p.getD 0 0) (p.getD 1 0))) := by
  rw [h.instruction?_at rfl h.pc (by decide) (by decide)]
  rfl

lemma act_load_of_ok {p : List UInt8} {t : Machine} (h : (load p).run m = .ok () t) :
    m.act (.load p) = t :=
  state_of_ok h

/-- A load is refused and changes nothing, or it replaces the memory and starts over. -/
lemma act_load (m : Machine) (p : List UInt8) :
    (m.startsOver (.load p) = false ∧ m.act (.load p) = m) ∨
    ∃ memory, (Memory.load p).run m.memory = .ok () memory ∧ m.startsOver (.load p) = true ∧
      m.act (.load p) = { m with memory }.reset := by
  rcases h : (load p).run m with ⟨⟨⟩, t⟩ | ⟨e, t⟩
  · obtain ⟨memory, hm, rfl⟩ := load_eq_ok_iff.mp h
    exact .inr ⟨memory, hm, by rw [startsOver, state?_of_ok h]; rfl, act_load_of_ok h⟩
  · obtain rfl := eq_of_load_error h
    exact .inl ⟨by rw [startsOver, state?_of_error h]; rfl, state_of_error h⟩

/-- A step fails and changes nothing, or it succeeds. -/
lemma act_step (m : Machine) :
    ((∃ e, step.run m = .error e m) ∧ m.act .step = m) ∨ step.run m = .ok () (m.act .step) := by
  rcases h : step.run m with ⟨⟨⟩, t⟩ | ⟨e, t⟩
  · exact .inr (by rw [act, state_of_ok h])
  · obtain ⟨rfl, -⟩ := step_eq_error_iff.mp h
    exact .inl ⟨⟨e, rfl⟩, state_of_error h⟩

end Chip8.Machine
