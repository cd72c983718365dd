import Chip8.Proofs.History

/-!
Machines that are alike but for the mark that says whether the picture has changed.

No instruction reads the mark, so machines that are alike take the same steps.
-/

namespace Chip8

/-- What a sprite flips and hits does not depend on the mark. -/
lemma Screen.blit_congr {s s' : Screen} (h : s.frame = s'.frame) (pixels : List (Nat × Nat)) :
    (s.blit pixels).1 = (s'.blit pixels).1 ∧
      (s.blit pixels).2.frame = (s'.blit pixels).2.frame := by
  cases pixels with
  | nil => exact ⟨rfl, h⟩
  | cons p rest =>
    -- the first pixel already sets the mark
    have htoggle : s.toggle p.1 p.2 = s'.toggle p.1 p.2 := by
      simp only [toggle, h]
    have hpixel : s.pixel p.1 p.2 = s'.pixel p.1 p.2 := congrArg Prod.fst htoggle
    rw [blit_cons, blit_cons, htoggle, hpixel]
    exact ⟨rfl, rfl⟩

namespace Machine

/-- The machines agree on everything but the mark. -/
def Alike (m m' : Machine) : Prop := m.act .clean = m'.act .clean

variable {m m' t : Machine} {i : Instruction 16} {f : Flow} {s : Screen}

lemma Alike.refl (m : Machine) : Alike m m := rfl

lemma Alike.symm (h : Alike m m') : Alike m' m := Eq.symm h

lemma Alike.trans (h : Alike m m') (h' : Alike m' t) : Alike m t := Eq.trans h h'

lemma alike_clean (m : Machine) : Alike (m.act .clean) m := rfl

lemma alike_iff : Alike m m' ↔ ∃ s : Screen, s.frame = m.screen.frame ∧
    m' = { m with screen := s } := by
  constructor
  · intro h
    obtain ⟨memory, screen, keypad, v, index, pc, stack, delay, sound, timers, movesIndex,
      generator, cycles⟩ := m
    obtain ⟨memory', screen', keypad', v', index', pc', stack', delay', sound', timers',
      movesIndex', generator', cycles'⟩ := m'
    simp only [Alike, act, Screen.clean, mk.injEq, Screen.mk.injEq, and_true] at h
    obtain ⟨rfl, hframe, rfl, rfl, rfl, rfl, rfl, rfl, rfl, rfl, rfl, rfl, rfl⟩ := h
    exact ⟨screen', hframe.symm, rfl⟩
  · rintro ⟨s, hs, rfl⟩
    simp only [Alike, act, Screen.clean, hs]

lemma movePast_screen (m : Machine) (s : Screen) (x : Nibble) :
    ({ m with screen := s } : Machine).movePast x = { m.movePast x with screen := s } := by
  unfold movePast
  split <;> rfl

/-- An instruction does the same to a machine with the other mark. -/
lemma Executes.of_frame (h : Executes m i f t) (hs : s.frame = m.screen.frame) :
    ∃ s' : Screen, s'.frame = t.screen.frame ∧
      Executes { m with screen := s } i f { t with screen := s' } := by
  cases h with
  | clearScreen => exact ⟨s.clear, rfl, .clearScreen⟩
  | @draw x y n rows h =>
    obtain ⟨hhit, hframe⟩ := Screen.blit_congr hs (Screen.spritePixels
      ((m.v.get x).toNat % Screen.width) ((m.v.get y).toNat % Screen.height) rows)
    refine ⟨_, hframe, ?_⟩
    have hdraw := Executes.draw (m := { m with screen := s }) x y n h
    simp only [blitAt, hhit] at hdraw ⊢
    exact hdraw
  | save x h =>
    refine ⟨s, by rw [screen_movePast, hs], ?_⟩
    have hsave := Executes.save (m := { m with screen := s }) x h
    rwa [movePast_screen { m with memory := _ } s] at hsave
  | restore x h =>
    refine ⟨s, by rw [screen_movePast, hs], ?_⟩
    have hrestore := Executes.restore (m := { m with screen := s }) x h
    rwa [movePast_screen { m with v := _ } s] at hrestore
  | ret h => exact ⟨s, hs, .ret h⟩
  | call a h => exact ⟨s, hs, .call a h⟩
  | decimal x h => exact ⟨s, hs, .decimal x h⟩
  | keepWaiting x h => exact ⟨s, hs, .keepWaiting x h⟩
  | takeKey x h => exact ⟨s, hs, .takeKey x h⟩
  | _ => exact ⟨s, hs, by constructor⟩

lemma Alike.run_step (h : Alike m m') (ht : step.run m = .ok () t) :
    ∃ t', step.run m' = .ok () t' ∧ Alike t t' := by
  obtain ⟨s, hs, rfl⟩ := alike_iff.mp h
  obtain ⟨i, f, u, hi, hr, rfl⟩ := step_eq_ok_iff.mp ht
  obtain ⟨s', hs', hr'⟩ := hr.of_frame hs
  exact ⟨_, step_of_executes hi hr', alike_iff.mpr ⟨s', hs', rfl⟩⟩

/-- Machines that are alike stay so as long as one of them runs. -/
lemma Alike.run_steps {n : Nat} (h : Alike m m') (ht : (steps n).run m = .ok () t) :
    ∃ t', (steps n).run m' = .ok () t' ∧ Alike t t' := by
  induction n generalizing m m' with
  | zero =>
    cases ht
    exact ⟨m', rfl, h⟩
  | succ n ih =>
    obtain ⟨u, hu, ht⟩ := steps_succ_eq_ok_iff.mp ht
    obtain ⟨u', hu', halike⟩ := h.run_step hu
    obtain ⟨t', ht', h'⟩ := ih halike ht
    exact ⟨t', steps_succ_eq_ok_iff.mpr ⟨u', hu', ht'⟩, h'⟩

lemma Alike.store (h : Alike m m') (keys : Keypad) :
    Alike { m with keypad := keys } { m' with keypad := keys } := by
  obtain ⟨s, hs, rfl⟩ := alike_iff.mp h
  exact alike_iff.mpr ⟨s, hs, rfl⟩

lemma Alike.tick (h : Alike m m') : Alike m.tick m'.tick := by
  obtain ⟨s, hs, rfl⟩ := alike_iff.mp h
  exact alike_iff.mpr ⟨s, hs, rfl⟩

lemma Alike.keypad (h : Alike m m') : m'.keypad = m.keypad := by
  obtain ⟨s, -, rfl⟩ := alike_iff.mp h
  rfl

lemma Alike.cycles (h : Alike m m') : m'.cycles = m.cycles := by
  obtain ⟨s, -, rfl⟩ := alike_iff.mp h
  rfl

end Machine

end Chip8
