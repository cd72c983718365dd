import Chip8.Proofs.Reserved

/-!
Loading a program erases the history of the machine.

What survives a load is the memory below the program region, which no history changes, and what
the machine was built with. The keypad and the random generator are its surroundings: they are
not part of what a load starts over.
-/

namespace Chip8

namespace Memory

variable {m m' t : Memory} {p : List UInt8}

/-- What a load leaves depends on the reserved area only. -/
lemma load_congr (h : Pristine m) (h' : Pristine m') (ht : (load p).run m = .ok () t) :
    (load p).run m' = .ok () t := by
  obtain ⟨hne, hfits, rfl⟩ := load_eq_ok_iff.mp ht
  refine load_eq_ok_iff.mpr ⟨hne, hfits, ?_⟩
  unfold image
  have hbyte (a : Fin 4096) : (if a.val < 0x200 then m.byte a else p.getD (a - 0x200) 0) =
      if a.val < 0x200 then m'.byte a else p.getD (a - 0x200) 0 := by
    split
    next ha => rw [h a ha, h' a ha]
    next => rfl
  simp only [hbyte]

lemma load_of_tooLarge (m : Memory) (h : 3584 < p.length) :
    (load p).run m = .error (.tooLarge p.length) m := by
  have hne : p ≠ [] := by
    rintro rfl
    exact absurd h (by simp)
  rw [run_load, if_neg hne, if_pos h]

end Memory

namespace Machine

/-- What a machine keeps of its configuration in every history. -/
structure Built (c : Config) (m : Machine) : Prop where
  pristine : m.memory.Pristine
  timers : m.timers = c.timers
  movesIndex : m.movesIndex = c.movesIndex

variable {c : Config} {m m' t : Machine} {p : List UInt8}

lemma built_poweredOn (c : Config) (keypad : Keypad) (generator : Generator) :
    Built c (poweredOn c keypad generator) :=
  ⟨Memory.pristine_blank, rfl, rfl⟩

lemma Built.act (h : Built c m) (a : Action) : Built c (m.act a) := by
  have hpristine : (m.act a).memory.Pristine := pristine_after h.pristine [a]
  cases a with
  | load p =>
    rcases act_load m p with ⟨-, ht⟩ | ⟨memory, -, -, ht⟩
    · rw [ht]
      exact h
    · rw [ht] at hpristine ⊢
      exact ⟨hpristine, h.timers, h.movesIndex⟩
  | step =>
    rcases act_step m with ⟨-, ht⟩ | ht
    · rw [ht]
      exact h
    · obtain ⟨i, f, u, -, hr, hu⟩ := step_eq_ok_iff.mp ht
      rw [hu] at hpristine ⊢
      exact ⟨hpristine, hr.spared.timers.trans h.timers, hr.spared.movesIndex.trans h.movesIndex⟩
  | _ => exact ⟨hpristine, h.timers, h.movesIndex⟩

lemma Built.after (h : Built c m) (history : List Action) : Built c (m.after history) :=
  after_induction h (fun _ a ha => ha.act a) history

/-- Machines that were built alike are alike again after a load. -/
lemma Built.load (h : Built c m) (h' : Built c m') (ht : (load p).run m = .ok () t) :
    (load p).run m' = .ok () { t with keypad := m'.keypad, generator := m'.generator } := by
  obtain ⟨memory, hm, rfl⟩ := load_eq_ok_iff.mp ht
  refine load_eq_ok_iff.mpr ⟨memory, ?_, ?_⟩
  · exact Memory.load_congr h.pristine h'.pristine hm
  · simp only [reset, h.timers, h.movesIndex, h'.timers, h'.movesIndex, Screen.clear]

/-- A load leaves the keypad and the random generator alone. -/
lemma surroundings_of_load (ht : (load p).run m = .ok () t) :
    t.keypad = m.keypad ∧ t.generator = m.generator := by
  obtain ⟨memory, -, rfl⟩ := load_eq_ok_iff.mp ht
  exact ⟨rfl, rfl⟩

lemma load_nil (m : Machine) : (load []).run m = .error .empty m := rfl

lemma load_of_tooLarge (m : Machine) (h : 3584 < p.length) :
    (load p).run m = .error (.tooLarge p.length) m := by
  rw [run_load, m.memory.load_of_tooLarge h]

/-- **A load erases history.** After any history, a program that fits leaves the machine as the
same load leaves a new one, between its own keypad and random generator; so with the same keypad
and generator the two go on alike, whatever is done to them. A program that does not fit changes
nothing. -/
theorem load_erases_history (c : Config) (keypad : Keypad) (generator : Generator)
    (history : List Action) (p : List UInt8) :
    let m := (poweredOn c keypad generator).after history
    (p ≠ [] → p.length ≤ 3584 → ∃ t, (load p).run m = .ok () t ∧
      t.keypad = m.keypad ∧ t.generator = m.generator ∧
      (∀ k g, (load p).run (poweredOn c k g) = .ok () { t with keypad := k, generator := g }) ∧
      ∃ u, (load p).run (poweredOn c m.keypad m.generator) = .ok () u ∧
        ∀ later n, trail n (u.after later) = trail n (t.after later)) ∧
    (p = [] → (load p).run m = .error .empty m ∧ m.act (.load p) = m) ∧
    (3584 < p.length →
      (load p).run m = .error (.tooLarge p.length) m ∧ m.act (.load p) = m) := by
  intro m
  have hbuilt : Built c m := (built_poweredOn c keypad generator).after history
  refine ⟨fun hne hfits => ?_, ?_, fun hlarge => ?_⟩
  · obtain ⟨t, ht⟩ := m.load_accepted hne hfits
    obtain ⟨hkeypad, hgenerator⟩ := surroundings_of_load ht
    have hfresh (k : Keypad) (g : Generator) :
        (load p).run (poweredOn c k g) = .ok () { t with keypad := k, generator := g } :=
      hbuilt.load (built_poweredOn c k g) ht
    refine ⟨t, ht, hkeypad, hgenerator, hfresh, t, ?_, fun _ _ => rfl⟩
    rw [hfresh, ← hkeypad, ← hgenerator]
  · rintro rfl
    exact ⟨load_nil m, state_of_error (load_nil m)⟩
  · have h := load_of_tooLarge m hlarge
    exact ⟨h, state_of_error h⟩

/-- A program that overwrites its own tail is replaced by a shorter one. -/
theorem load_erases_history_shorter :
    let m := (poweredOn {} .idle (.start fun _ => 0)).after
      [.load [0x60, 0x41, 0xA2, 0x04, 0xF0, 0x55, 0x12, 0x00], .step, .step, .step, .tick]
    (∃ t u, (load [0x12, 0x00]).run m = .ok () t ∧
      (load [0x12, 0x00]).run (new {} (.chaCha .zero)) = .ok () u ∧
      t.memory = u.memory ∧ t.v = u.v ∧ t.index = u.index ∧ t.stack = u.stack ∧
      t.screen = u.screen) ∧
    m.act (.load []) = m ∧ m.act (.load (List.replicate 3585 0)) = m := by
  intro m
  have h := load_erases_history {} .idle (.start fun _ => 0)
    [.load [0x60, 0x41, 0xA2, 0x04, 0xF0, 0x55, 0x12, 0x00], .step, .step, .step, .tick]
  obtain ⟨t, ht, -, -, hfresh, -⟩ := (h [0x12, 0x00]).1 (by decide) (by decide)
  refine ⟨⟨t, _, ht, hfresh .idle (.start (ChaCha.stream .zero)), rfl, rfl, rfl, rfl, rfl⟩, ?_, ?_⟩
  · exact ((h []).2.1 rfl).2
  · exact ((h (List.replicate 3585 0)).2.2 (by rw [List.length_replicate]; decide)).2

end Machine

end Chip8
