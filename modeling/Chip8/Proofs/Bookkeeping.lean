import Chip8.Proofs.Alike
import Chip8.Proofs.Chronicle

/-!
What a program can tell of the machine that runs it: everything but the mark on the screen, the
count of cycles, and the slots above the top of the stack.

Machines that look alike go on alike, however often their pictures are taken in between. So a
picture costs a program nothing, and an address that was popped is never read again.
-/

namespace Chip8

namespace CallStack

variable {s s' t : CallStack} {a b : UInt16}

lemma depth_congr (h : s.toList = s'.toList) : s.depth = s'.depth := by
  rw [← length_toList s, ← length_toList s', h]

lemma push?_congr (h : s'.toList = s.toList) (hp : s.push? a = some t) :
    ∃ t', s'.push? a = some t' ∧ t'.toList = t.toList := by
  rcases hp' : s'.push? a with _ | t'
  · rw [push?_eq_none_iff, depth_congr h, ← push?_eq_none_iff (a := a), hp] at hp'
    cases hp'
  · exact ⟨t', rfl, by rw [toList_push hp, toList_push hp', h]⟩

lemma pop?_congr (h : s'.toList = s.toList) (hp : s.pop? = some (a, t)) :
    ∃ t', s'.pop? = some (a, t') ∧ t'.toList = t.toList := by
  rcases hp' : s'.pop? with _ | ⟨b, t'⟩
  · rw [pop?_eq_none_iff, depth_congr h, ← pop?_eq_none_iff, hp] at hp'
    cases hp'
  · have hlist : t'.toList ++ [b] = t.toList ++ [a] := by
      rw [← toList_pop hp, ← toList_pop hp', h]
    obtain ⟨ht, hab⟩ := List.append_inj' hlist rfl
    obtain rfl : b = a := by simpa using hab
    exact ⟨t', rfl, ht⟩

end CallStack

namespace Machine

/-- What a program can tell: the return addresses, and the machine without its stack, its count of
cycles and its mark. -/
def visible (m : Machine) : List UInt16 × Machine :=
  (m.stack.toList, { m with screen := m.screen.clean, stack := .empty, cycles := 0 })

inductive Reply where
  | done
  | refused (e : LoadError)
  | failed (e : StepError)
deriving DecidableEq

/-- How an action ends. -/
def reply (m : Machine) : Action → Reply
  | .load p =>
    match (load p).run m with
    | .ok .. => .done
    | .error e _ => .refused e
  | .step =>
    match step.run m with
    | .ok .. => .done
    | .error e _ => .failed e
  | _ => .done

/-- The action only concerns how the picture is presented. -/
def Action.presents : Action → Bool
  | .takeFrame | .clean => true
  | _ => false

/-- What can be told from outside of an action that is no presentation: how it ends, and what the
program can tell of the machine after it. -/
def observed (m : Machine) (a : Action) : List (Reply × List UInt16 × Machine) :=
  if a.presents then [] else [(m.reply a, (m.act a).visible)]

variable {m m' t : Machine} {i : Instruction 16} {f : Flow} {e : StepError} {k : CallStack}

lemma visible_eq_iff : m.visible = m'.visible ↔ ∃ (s : Screen) (k : CallStack) (n : Nat),
    s.frame = m.screen.frame ∧ k.toList = m.stack.toList ∧
      m' = { m with screen := s, stack := k, cycles := n } := by
  constructor
  · intro h
    obtain ⟨memory, screen, keypad, v, index, pc, stack, delay, sound, timers, movesIndex,
      generator, cycles⟩ := m
    obtain ⟨memory', screen', keypad', v', index', pc', stack', delay', sound', timers',
      movesIndex', generator', cycles'⟩ := m'
    simp only [visible, Screen.clean, Prod.mk.injEq, mk.injEq, Screen.mk.injEq, and_true,
      true_and] at h
    obtain ⟨hstack, rfl, hframe, rfl, rfl, rfl, rfl, rfl, rfl, rfl, rfl, rfl⟩ := h
    exact ⟨screen', stack', cycles', hframe.symm, hstack.symm, rfl⟩
  · rintro ⟨s, k, n, hs, hk, rfl⟩
    simp only [visible, Screen.clean, hs, hk]

/-! ### Steps -/

lemma movePast_stack (m : Machine) (k : CallStack) (n : Nat) (x : Nibble) :
    ({ m with stack := k, cycles := n } : Machine).movePast x =
      { m.movePast x with stack := k, cycles := n } := by
  unfold movePast
  split <;> rfl

/-- An instruction does the same on a stack with the same return addresses. -/
lemma Executes.of_stack (h : Executes m i f t) (hk : k.toList = m.stack.toList) (n : Nat) :
    ∃ k' : CallStack, k'.toList = t.stack.toList ∧
      Executes { m with stack := k, cycles := n } i f { t with stack := k', cycles := n } := by
  cases h with
  | ret h =>
    obtain ⟨k', hpop, hk'⟩ := CallStack.pop?_congr hk h
    exact ⟨k', hk', .ret hpop⟩
  | call a h =>
    obtain ⟨k', hpush, hk'⟩ := CallStack.push?_congr hk h
    exact ⟨k', hk', .call a hpush⟩
  | save x h =>
    refine ⟨k, by rw [stack_movePast, hk], ?_⟩
    have hsave := Executes.save (m := { m with stack := k, cycles := n }) x h
    rwa [movePast_stack { m with memory := _ } k n] at hsave
  | restore x h =>
    refine ⟨k, by rw [stack_movePast, hk], ?_⟩
    have hrestore := Executes.restore (m := { m with stack := k, cycles := n }) x h
    rwa [movePast_stack { m with v := _ } k n] at hrestore
  | draw x y r h => exact ⟨k, hk, .draw x y r h⟩
  | decimal x h => exact ⟨k, hk, .decimal x h⟩
  | keepWaiting x h => exact ⟨k, hk, .keepWaiting x h⟩
  | takeKey x h => exact ⟨k, hk, .takeKey x h⟩
  | _ => exact ⟨k, hk, by constructor⟩

/-- The mark, the dead slots and the cycles make no difference to an instruction. -/
lemma Executes.of_visible (h : Executes m i f t) (hv : m.visible = m'.visible) :
    ∃ t', Executes m' i f t' ∧ t.visible = t'.visible := by
  obtain ⟨s, k, n, hs, hk, rfl⟩ := visible_eq_iff.mp hv
  obtain ⟨s', hs', hscreen⟩ := h.of_frame hs
  obtain ⟨k', hk', hstack⟩ := hscreen.of_stack hk n
  exact ⟨_, hstack, visible_eq_iff.mpr ⟨s', k', n, hs', hk', rfl⟩⟩

lemma Fails.of_visible (h : Fails m i e) (hv : m.visible = m'.visible) : Fails m' i e := by
  obtain ⟨s, k, n, -, hk, rfl⟩ := visible_eq_iff.mp hv
  have hdepth : k.depth = m.stack.depth := CallStack.depth_congr hk
  cases h with
  | ret h =>
    rw [CallStack.pop?_eq_none_iff, ← hdepth, ← CallStack.pop?_eq_none_iff] at h
    exact .ret h
  | call a h =>
    rw [CallStack.push?_eq_none_iff, ← hdepth, ← CallStack.push?_eq_none_iff (a := m.pc + 2)] at h
    exact .call a h
  | draw x y r h => exact .draw x y r h
  | decimal x h => exact .decimal x h
  | save x h => exact .save x h
  | restore x h => exact .restore x h

lemma visible_finish (hv : m.visible = m'.visible) (pc : UInt16) :
    (m.finish pc).visible = (m'.finish pc).visible := by
  obtain ⟨s, k, n, hs, hk, rfl⟩ := visible_eq_iff.mp hv
  exact visible_eq_iff.mpr ⟨s, k, n + 1, hs, hk, rfl⟩

/-- Machines that look alike step alike, or fail alike. -/
lemma step_of_visible (hv : m.visible = m'.visible) :
    (∃ t t', step.run m = .ok () t ∧ step.run m' = .ok () t' ∧ t.visible = t'.visible) ∨
    ∃ e, step.run m = .error e m ∧ step.run m' = .error e m' := by
  obtain ⟨hmemory, hpc⟩ : m'.memory = m.memory ∧ m'.pc = m.pc := by
    obtain ⟨s, k, n, -, -, rfl⟩ := visible_eq_iff.mp hv
    exact ⟨rfl, rfl⟩
  have hinst : m'.instruction? = m.instruction? := by
    rw [instruction?, instruction?, hmemory, hpc]
  rcases step_cases m with ⟨e, hw⟩ | ⟨i, f, t, hi, hr⟩ | ⟨i, e, hi, hr⟩
  · exact .inr ⟨.memory e, step_of_fetch_error hw,
      step_of_fetch_error (by rw [hmemory, hpc, hw])⟩
  · obtain ⟨t', hr', ht⟩ := hr.of_visible hv
    refine .inl ⟨_, _, step_of_executes hi hr, step_of_executes (hinst.trans hi) hr', ?_⟩
    rw [hpc]
    exact visible_finish ht _
  · exact .inr ⟨e, step_of_fails hi hr, step_of_fails (hinst.trans hi) (hr.of_visible hv)⟩

/-! ### Histories -/

lemma visible_act_of_presents {a : Action} (ha : a.presents) (m : Machine) :
    (m.act a).visible = m.visible := by
  cases a with
  | takeFrame =>
    refine Eq.symm (visible_eq_iff.mpr ⟨m.screen.takeFrame.2, m.stack, m.cycles, ?_, rfl, rfl⟩)
    unfold Screen.takeFrame
    split <;> rfl
  | clean => rfl
  | _ => cases ha

/-- An action ends in the same way on machines that look alike, and they look alike after it. -/
lemma act_of_visible (hv : m.visible = m'.visible) (a : Action) :
    m.reply a = m'.reply a ∧ (m.act a).visible = (m'.act a).visible := by
  cases a with
  | load p =>
    obtain ⟨s, k, n, -, -, rfl⟩ := visible_eq_iff.mp hv
    simp only [reply, act, state, run_load]
    rcases h : (Memory.load p).run m.memory with ⟨⟨⟩, memory⟩ | ⟨e, memory⟩
    · exact ⟨rfl, rfl⟩
    · obtain rfl := Memory.eq_of_load_error h
      exact ⟨rfl, hv⟩
  | step =>
    rcases step_of_visible hv with ⟨t, t', ht, ht', h⟩ | ⟨e, ht, ht'⟩
    · simp only [reply, act, state, ht, ht']
      exact ⟨trivial, h⟩
    · simp only [reply, act, state, ht, ht']
      exact ⟨trivial, hv⟩
  | takeFrame | clean =>
    refine ⟨rfl, ?_⟩
    rw [visible_act_of_presents rfl, visible_act_of_presents rfl, hv]
  | reset =>
    obtain ⟨s, k, n, -, -, rfl⟩ := visible_eq_iff.mp hv
    exact ⟨rfl, rfl⟩
  | tick | press | release | store =>
    obtain ⟨s, k, n, hs, hk, rfl⟩ := visible_eq_iff.mp hv
    exact ⟨rfl, visible_eq_iff.mpr ⟨s, k, n, hs, hk, rfl⟩⟩

lemma history_of_visible (hv : m.visible = m'.visible) (as : List Action) :
    m.log observed as = m'.log observed as ∧ (m.after as).visible = (m'.after as).visible := by
  induction as generalizing m m' with
  | nil => exact ⟨rfl, hv⟩
  | cons a as ih =>
    obtain ⟨hreply, hact⟩ := act_of_visible hv a
    obtain ⟨hlog, hafter⟩ := ih hact
    refine ⟨?_, hafter⟩
    rw [log_cons, log_cons, hlog, observed, observed, hreply, hact]

/-- Without its presentations a history comes to the same. -/
lemma history_filter (m : Machine) (as : List Action) :
    m.log observed (as.filter (!·.presents)) = m.log observed as ∧
      (m.after (as.filter (!·.presents))).visible = (m.after as).visible := by
  induction as generalizing m with
  | nil => exact ⟨rfl, rfl⟩
  | cons a as ih =>
    cases ha : a.presents with
    | true =>
      -- the rest of the history does not see whether the picture was taken
      obtain ⟨hlog, hafter⟩ := history_of_visible (visible_act_of_presents ha m)
        (as.filter (!·.presents))
      obtain ⟨hlog', hafter'⟩ := ih (m.act a)
      rw [List.filter_cons_of_neg (by simp [ha]), log_cons, after_cons, observed, if_pos ha,
        List.nil_append, ← hlog, ← hafter]
      exact ⟨hlog', hafter'⟩
    | false =>
      obtain ⟨hlog, hafter⟩ := ih (m.act a)
      rw [List.filter_cons_of_pos (by simp [ha]), log_cons, log_cons, hlog]
      exact ⟨rfl, hafter⟩

/-- **Bookkeeping is invisible.** Two machines that agree on everything but the mark, the cycles and
the slots above the stack's top are told apart by no history: with their pictures taken whenever one
likes on either side, all other actions end in the same way, and the machines agree after each of
them. -/
theorem bookkeeping_invisible (hv : m.visible = m'.visible) {as bs : List Action}
    (h : as.filter (!·.presents) = bs.filter (!·.presents)) :
    m.log observed as = m'.log observed bs ∧ (m.after as).visible = (m'.after bs).visible := by
  obtain ⟨hlog, hafter⟩ := history_of_visible hv (as.filter (!·.presents))
  obtain ⟨hlogs, hafters⟩ := m.history_filter as
  obtain ⟨hlogs', hafters'⟩ := m'.history_filter bs
  constructor
  · rw [← hlogs, hlog, h, hlogs']
  · rw [← hafters, hafter, h, hafters']

/-- Two machines at a return without a call, one of them with an address in a dead slot. -/
theorem bookkeeping_invisible_return : ∃ m m' : Machine,
    (load [0x00, 0xEE]).run (new {} (.chaCha .zero)) = .ok () m ∧
    m' = { m with
      screen := m.screen.clean
      stack := { CallStack.empty with slots := Vector.replicate 16 0x204 }
      cycles := 7 } ∧
    m.log observed [.takeFrame, .step, .tick] = m'.log observed [.step, .clean, .takeFrame, .tick] ∧
    m'.reply .step = .failed (.stackUnderflow 0x200) := by
  obtain ⟨m, hm⟩ := (new {} (.chaCha .zero)).load_accepted (p := [0x00, 0xEE])
    (by decide) (by decide)
  have hfresh := fresh_of_load hm
  have hv : m.visible = { m with
      screen := m.screen.clean
      stack := { CallStack.empty with slots := Vector.replicate 16 0x204 }
      cycles := 7 : Machine }.visible := by
    refine visible_eq_iff.mpr ⟨m.screen.clean, _, _, rfl, ?_, rfl⟩
    rw [hfresh.stack]
    rfl
  have hfilter : [Action.takeFrame, .step, .tick].filter (!·.presents) =
      [Action.step, .clean, .takeFrame, .tick].filter (!·.presents) := rfl
  obtain ⟨hlog, -⟩ := bookkeeping_invisible hv hfilter
  refine ⟨m, _, hm, rfl, hlog, ?_⟩
  rw [← (act_of_visible hv .step).1, reply, step_ret_of_empty hfresh.instruction? hfresh.stack,
    hfresh.pc]

end Machine

end Chip8
