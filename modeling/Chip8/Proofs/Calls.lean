import Chip8.Proofs.History

/-!
Calls and returns. The stack lists the return addresses of the calls that have not returned yet,
the oldest first.

Whatever a callee does, it leaves the addresses up to its own alone, and the return that ends it
goes on after the call.
-/

namespace Chip8.Machine

inductive Transfer where
  | call (source : UInt16)
  | ret
deriving DecidableEq

namespace Transfer

/-- What a transfer does to a list of return addresses. -/
def apply (stack : List UInt16) : Transfer → List UInt16
  | call source => stack ++ [source + 2]
  | ret => stack.dropLast

/-- The return addresses of the calls that have not returned. -/
def pending (ts : List Transfer) : List UInt16 := ts.foldl apply []

def isCall : Transfer → Bool
  | call _ => true
  | ret => false

def calls (ts : List Transfer) : Nat := ts.countP isCall

def returns (ts : List Transfer) : Nat := ts.count ret

lemma pending_concat (ts : List Transfer) (t : Transfer) :
    pending (ts ++ [t]) = apply (pending ts) t := by
  simp [pending]

lemma calls_concat (ts : List Transfer) (t : Transfer) :
    calls (ts ++ [t]) = calls ts + if t.isCall then 1 else 0 := by
  simp [calls, List.countP_append, List.countP_cons]

lemma returns_concat (ts : List Transfer) (t : Transfer) :
    returns (ts ++ [t]) = returns ts + if t.isCall then 0 else 1 := by
  cases t <;> simp [returns, List.count_append, isCall]

end Transfer

open Transfer

/-- The call or return that an action makes. -/
def transfer? (m : Machine) : Action → Option Transfer
  | .step =>
    match step.run m, m.instruction? with
    | .ok _ _, some (.call _) => some (.call m.pc)
    | .ok _ _, some .ret => some .ret
    | _, _ => none
  | _ => none

/-- The transfers since the last start, where `ts` were made so far. -/
def transfersFrom (m : Machine) (ts : List Transfer) : List Action → List Transfer
  | [] => ts
  | a :: as =>
    (m.act a).transfersFrom (if m.startsOver a then [] else ts ++ (m.transfer? a).toList) as

/-- The calls and returns since a history last started the machine over, the latest last. -/
def transfers (m : Machine) (history : List Action) : List Transfer := m.transfersFrom [] history

/-- `Inside d m t`: machine `t` comes from `m` without a new start, and the stack stays deeper than
`d` throughout. -/
inductive Inside (d : Nat) (m : Machine) : Machine → Prop where
  | start (h : d < m.stack.depth) : Inside d m m
  | act {t : Machine} (h : Inside d m t) (a : Action) (ha : t.startsOver a = false)
      (hd : d < (t.act a).stack.depth) : Inside d m (t.act a)

variable {m t : Machine}

/-! ### What an action does to the stack -/

lemma step_stack (h : step.run m = .ok () t) :
    (∃ a, m.instruction? = some (.call a) ∧ m.stack.push? (m.pc + 2) = some t.stack ∧ t.pc = a) ∨
    (m.instruction? = some .ret ∧ m.stack.pop? = some (t.pc, t.stack)) ∨
    (m.transfer? .step = none ∧ t.stack = m.stack) := by
  obtain ⟨i, f, u, hi, hr, rfl⟩ := step_eq_ok_iff.mp h
  cases hr with
  | call a hs => exact .inl ⟨a, hi, hs, rfl⟩
  | ret hs => exact .inr (.inl ⟨hi, hs⟩)
  | save x hs | restore x hs =>
    exact .inr (.inr ⟨by simp only [transfer?, h, hi], by simp⟩)
  | _ => exact .inr (.inr ⟨by simp only [transfer?, h, hi], rfl⟩)

/-- Without a new start, an action calls, returns or leaves the stack alone. -/
lemma act_stack (m : Machine) (a : Action) (ha : m.startsOver a = false) :
    (m.transfer? a = some (.call m.pc) ∧
      (m.act a).stack.toList = m.stack.toList ++ [m.pc + 2]) ∨
    (a = .step ∧ m.instruction? = some .ret ∧ m.transfer? a = some .ret ∧
      m.stack.toList = (m.act a).stack.toList ++ [(m.act a).pc]) ∨
    (m.transfer? a = none ∧ (m.act a).stack = m.stack) := by
  cases a with
  | load p =>
    rcases act_load m p with ⟨-, hm⟩ | ⟨memory, -, hs, -⟩
    · exact .inr (.inr ⟨rfl, by rw [hm]⟩)
    · simp [hs] at ha
  | reset => cases ha
  | step =>
    rcases act_step m with ⟨⟨e, he⟩, hm⟩ | hs
    · exact .inr (.inr ⟨by simp only [transfer?, he], by rw [hm]⟩)
    · rcases step_stack hs with ⟨a, hi, hp, -⟩ | ⟨hi, hp⟩ | ⟨hn, hk⟩
      · exact .inl ⟨by simp only [transfer?, hs, hi], CallStack.toList_push hp⟩
      · exact .inr (.inl ⟨rfl, hi, by simp only [transfer?, hs, hi], CallStack.toList_pop hp⟩)
      · exact .inr (.inr ⟨hn, hk⟩)
  | _ => exact .inr (.inr ⟨rfl, rfl⟩)

lemma stack_of_startsOver {a : Action} (ha : m.startsOver a) : (m.act a).stack = .empty := by
  cases a with
  | load p =>
    rcases act_load m p with ⟨hs, -⟩ | ⟨memory, -, -, ht⟩
    · simp [hs] at ha
    · rw [ht]
      rfl
  | reset => rfl
  | _ => cases ha

/-! ### The stack as a list of pending calls -/

/-- The stack lists the pending calls, and each transfer is accounted for. -/
structure Accounts (ts : List Transfer) (m : Machine) : Prop where
  pending : m.stack.toList = pending ts
  balance : m.stack.depth + returns ts = calls ts

lemma Accounts.empty (h : m.stack = .empty) : Accounts [] m where
  pending := by
    rw [h]
    rfl
  balance := by
    rw [h]
    rfl

lemma Accounts.act {ts : List Transfer} (h : Accounts ts m) (a : Action) :
    Accounts (if m.startsOver a then [] else ts ++ (m.transfer? a).toList) (m.act a) := by
  split
  next ha => exact .empty (stack_of_startsOver ha)
  next ha =>
    have hbalance := h.balance
    rcases act_stack m a (by simpa using ha) with ⟨ht, hs⟩ | ⟨-, -, ht, hs⟩ | ⟨ht, hs⟩
    · have hdepth : (m.act a).stack.depth = m.stack.depth + 1 := by
        simpa using congrArg List.length hs
      rw [ht, Option.toList_some]
      refine ⟨?_, ?_⟩
      · rw [hs, h.pending, pending_concat]
        rfl
      · rw [returns_concat, calls_concat]
        simp only [isCall, if_true]
        omega
    · have hdepth : m.stack.depth = (m.act a).stack.depth + 1 := by
        simpa using congrArg List.length hs
      rw [ht, Option.toList_some]
      refine ⟨?_, ?_⟩
      · rw [pending_concat, ← h.pending, hs]
        exact List.dropLast_concat.symm
      · rw [returns_concat, calls_concat]
        simp only [isCall, Bool.false_eq_true, if_false]
        omega
    · rw [ht, Option.toList_none, List.append_nil]
      exact ⟨by rw [hs, h.pending], by rw [hs, hbalance]⟩

lemma accounts_transfersFrom {ts : List Transfer} (h : Accounts ts m) (history : List Action) :
    Accounts (m.transfersFrom ts history) (m.after history) := by
  induction history generalizing m ts with
  | nil => exact h
  | cons a as ih => exact ih (h.act a)

lemma accounts (c : Config) (random : Randomness) (history : List Action) :
    Accounts ((new c random).transfers history) ((new c random).after history) :=
  accounts_transfersFrom (.empty rfl) history

/-! ### Inside a call -/

/-- Inside a call, the return addresses up to the call's own stay. -/
lemma Inside.take_toList {d : Nat} {u : Machine} (h : Inside d t u) :
    d < u.stack.depth ∧ u.stack.toList.take (d + 1) = t.stack.toList.take (d + 1) := by
  induction h with
  | start h => exact ⟨h, rfl⟩
  | @act u _ a ha hd ih =>
    refine ⟨hd, ?_⟩
    rw [← ih.2]
    have hu : u.stack.toList.length = u.stack.depth := by simp
    have hv : (u.act a).stack.toList.length = (u.act a).stack.depth := by simp
    rcases act_stack u a ha with ⟨-, hs⟩ | ⟨-, -, -, hs⟩ | ⟨-, hs⟩
    · rw [hs, List.take_append_of_le_length (by omega)]
    · rw [hs, List.take_append_of_le_length (by omega)]
    · rw [hs]

/-- Only a return takes an address off the stack, and goes there. -/
lemma act_eq_ret {d : Nat} {a : Action} (hd : d < m.stack.depth) (ha : m.startsOver a = false)
    (hd' : (m.act a).stack.depth ≤ d) : a = .step ∧ m.instruction? = some .ret ∧
      m.stack.toList = (m.act a).stack.toList ++ [(m.act a).pc] := by
  have hm : m.stack.toList.length = m.stack.depth := by simp
  have ht : (m.act a).stack.toList.length = (m.act a).stack.depth := by simp
  rcases act_stack m a ha with ⟨-, hs⟩ | ⟨rfl, hi, -, hs⟩ | ⟨-, hs⟩
  · rw [hs, List.length_append] at ht
    omega
  · exact ⟨rfl, hi, hs⟩
  · rw [hs] at hd'
    omega

/-- The action that first takes the stack down to the depth of a call is the return that belongs
to the call. -/
lemma Inside.ret {u : Machine} {a : Action} {stack : List UInt16} {r : UInt16}
    (h : Inside stack.length t u) (ht : t.stack.toList = stack ++ [r])
    (ha : u.startsOver a = false) (hd : (u.act a).stack.depth ≤ stack.length) :
    a = .step ∧ u.instruction? = some .ret ∧ (u.act a).pc = r ∧
      (u.act a).stack.toList = stack := by
  obtain ⟨hu, htake⟩ := h.take_toList
  obtain ⟨rfl, hi, hs⟩ := act_eq_ret hu ha hd
  have hv : (u.act .step).stack.toList.length = (u.act .step).stack.depth := by simp
  have hlen : u.stack.toList.length = u.stack.depth := by simp
  have hall : u.stack.toList = stack ++ [r] := by
    rw [List.take_of_length_le (by rw [hs, List.length_append, hv]; simp; omega), ht,
      List.take_of_length_le (by simp)] at htake
    exact htake
  obtain ⟨hstack, hpc⟩ := List.append_inj' (hs.symm.trans hall) rfl
  exact ⟨rfl, hi, by simpa using hpc, hstack⟩

lemma step_of_call {a : UInt16} (hi : m.instruction? = some (.call a)) (hd : m.stack.depth < 16) :
    ∃ t, step.run m = .ok () t ∧ t.pc = a ∧ t.stack.toList = m.stack.toList ++ [m.pc + 2] := by
  rcases hp : m.stack.push? (m.pc + 2) with _ | stack
  · have := CallStack.push?_eq_none_iff.mp hp
    omega
  · exact ⟨_, step_of_executes hi (.call a hp), rfl, CallStack.toList_push hp⟩

lemma step_of_ret (hi : m.instruction? = some .ret) (hd : 0 < m.stack.depth) :
    ∃ t, step.run m = .ok () t ∧ m.stack.toList = t.stack.toList ++ [t.pc] := by
  rcases hp : m.stack.pop? with _ | ⟨a, stack⟩
  · have := CallStack.pop?_eq_none_iff.mp hp
    omega
  · exact ⟨_, step_of_executes hi (.ret hp), CallStack.toList_pop hp⟩

/-- **Calls and returns match.** -/
theorem call_return_discipline (c : Config) (random : Randomness) (history : List Action) :
    let m := (new c random).after history
    let ts := (new c random).transfers history
    -- the stack is the list of pending calls
    (m.stack.toList = pending ts ∧ m.stack.depth + returns ts = calls ts ∧ m.stack.depth ≤ 16) ∧
    -- a call needs room, and a return a call
    (∀ a, m.instruction? = some (.call a) → m.stack.depth = 16 →
      step.run m = .error (.stackOverflow m.pc) m) ∧
    (m.instruction? = some .ret → m.stack.depth = 0 →
      step.run m = .error (.stackUnderflow m.pc) m) ∧
    -- inside a call, no return address up to the call's own changes, and the call returns
    ∀ a, m.instruction? = some (.call a) → m.stack.depth < 16 →
      ∃ t, step.run m = .ok () t ∧ t.pc = a ∧
        t.stack.toList = m.stack.toList ++ [m.pc + 2] ∧
        ∀ u, Inside m.stack.depth t u →
          u.stack.toList.take (m.stack.depth + 1) = m.stack.toList ++ [m.pc + 2] ∧
          ∀ b, u.startsOver b = false → (u.act b).stack.depth ≤ m.stack.depth →
            b = .step ∧ u.instruction? = some .ret ∧ (u.act b).pc = m.pc + 2 ∧
              (u.act b).stack.toList = m.stack.toList := by
  intro m ts
  obtain ⟨hpending, hbalance⟩ := accounts c random history
  refine ⟨⟨hpending, hbalance, m.stack.depth_le⟩, fun a hi hd => ?_, fun hi hd => ?_,
    fun a hi hd => ?_⟩
  · exact step_of_fails hi (.call a (CallStack.push?_eq_none_iff.mpr hd))
  · exact step_of_fails hi (.ret (CallStack.pop?_eq_none_iff.mpr hd))
  · obtain ⟨t, hs, hpc, ht⟩ := step_of_call hi hd
    refine ⟨t, hs, hpc, ht, fun u hu => ⟨?_, fun b hb hd' => ?_⟩⟩
    · rw [hu.take_toList.2, ht, List.take_of_length_le (by simp)]
    · rw [← m.stack.length_toList] at hu hd'
      exact hu.ret ht hb hd'

/-- A program that calls address `0x204`, where it returns. -/
theorem call_return_discipline_once : ∃ t : Machine,
    step.run ((new {} (.chaCha .zero)).after [.load [0x22, 0x04, 0x00, 0x00, 0x00, 0xEE]]) =
      .ok () t ∧ t.pc = 0x204 ∧ t.instruction? = some .ret ∧ (t.act .step).pc = 0x202 := by
  obtain ⟨m, hm⟩ := (new {} (.chaCha .zero)).load_accepted
    (p := [0x22, 0x04, 0x00, 0x00, 0x00, 0xEE]) (by decide) (by decide)
  have hafter :
      (new {} (.chaCha .zero)).after [.load [0x22, 0x04, 0x00, 0x00, 0x00, 0xEE]] = m := by
    rw [after_cons, after_nil, act_load_of_ok hm]
  have hfresh := fresh_of_load hm
  have hi : m.instruction? = some (.call 0x204) := hfresh.instruction?
  have hdepth : m.stack.depth = 0 := by
    rw [hfresh.stack]
    rfl
  obtain ⟨-, -, -, hcall⟩ := call_return_discipline {} (.chaCha .zero)
    [.load [0x22, 0x04, 0x00, 0x00, 0x00, 0xEE]]
  rw [hafter] at hcall ⊢
  obtain ⟨t, hs, hpc, ht, hinside⟩ := hcall 0x204 hi (by omega)
  have hmem : t.memory = m.memory := by
    obtain ⟨i, f, u, hi', hr, rfl⟩ := step_eq_ok_iff.mp hs
    obtain rfl : .call 0x204 = i := Option.some.inj (hi.symm.trans hi')
    cases hr
    rfl
  have hret : t.instruction? = some .ret := hfresh.instruction?_at hmem hpc (by decide) (by decide)
  have hlen : t.stack.depth = 1 := by simpa [hdepth] using congrArg List.length ht
  have hact : (t.act .step).stack.depth ≤ m.stack.depth := by
    obtain ⟨u, hu, hstack⟩ := step_of_ret hret (by omega)
    have hout : t.stack.depth = u.stack.depth + 1 := by simpa using congrArg List.length hstack
    simp only [act, state_of_ok hu]
    omega
  refine ⟨t, hs, hpc, hret, ?_⟩
  rw [((hinside t (.start (by omega))).2 .step rfl hact).2.2.1, hfresh.pc]
  rfl

end Chip8.Machine
