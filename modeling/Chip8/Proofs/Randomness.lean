import Chip8.Proofs.Chronicle

/-!
The random bytes that a machine draws: those of the sequence of its seed, in order, each once.

Loads and resets do not go back in the sequence, and an instruction draws its byte whether or not
its mask leaves anything of it.
-/

namespace Chip8.Machine

/-- A random byte that was put into a register under a mask. -/
structure Draw where
  mask : UInt8
  result : UInt8
deriving DecidableEq

/-- What an action draws. -/
def draws (m : Machine) : Action → List Draw
  | .step =>
    match m.completed? with
    | some (.random x mask) => [⟨mask, (m.act .step).v.get x⟩]
    | _ => []
  | _ => []

variable {m t : Machine} {i : Instruction 16} {f : Flow} {stream : Nat → UInt8} {n : Nat}

/-- Only one instruction moves the generator. -/
lemma Executes.generator (h : Executes m i f t) :
    (∃ x mask, i = .random x mask ∧ t.v.get x = m.generator.peek &&& mask ∧
      t.generator = m.generator.advance) ∨
    ((∀ x mask, i ≠ .random x mask) ∧ t.generator = m.generator) := by
  cases h with
  | random x mask => exact .inl ⟨x, mask, rfl, Bank.get_set_self .., rfl⟩
  | save x | restore x =>
    obtain ⟨index, ht⟩ := movePast_eq _ x
    refine .inr ⟨nofun, ?_⟩
    rw [ht]
  | _ => exact .inr ⟨nofun, rfl⟩

/-- An action draws the next byte and moves the generator past it, or it does neither. -/
lemma act_draws (m : Machine) (a : Action) :
    (∃ mask, m.draws a = [⟨mask, m.generator.peek &&& mask⟩] ∧
      (m.act a).generator = m.generator.advance) ∨
    (m.draws a = [] ∧ (m.act a).generator = m.generator) := by
  cases a with
  | load p =>
    refine .inr ⟨rfl, ?_⟩
    rcases act_load m p with ⟨-, hm⟩ | ⟨memory, -, -, hm⟩
    · rw [hm]
    · rw [hm]
      rfl
  | step =>
    rcases act_step_cases m with ⟨hnone, hm⟩ | ⟨i, f, t, hi, hr, hm⟩
    · exact .inr ⟨by rw [draws, hnone], by rw [hm]⟩
    · rw [draws, hi, hm]
      rcases hr.generator with ⟨x, mask, rfl, hv, hg⟩ | ⟨hne, hg⟩
      · exact .inl ⟨mask, by rw [← hv]; rfl, hg⟩
      · refine .inr ⟨?_, hg⟩
        cases i with
        | random x mask => exact absurd rfl (hne x mask)
        | _ => rfl
  | _ => exact .inr ⟨rfl, rfl⟩

lemma generator_after (hg : m.generator = ⟨stream, n⟩) (history : List Action) :
    (m.after history).generator = ⟨stream, n + (m.log draws history).length⟩ := by
  induction history generalizing m n with
  | nil => exact hg
  | cons a as ih =>
    rw [after_cons, log_cons, List.length_append]
    rcases act_draws m a with ⟨mask, hdraw, hact⟩ | ⟨hdraw, hact⟩
    · rw [hg] at hact
      rw [ih hact, hdraw, List.length_singleton, Nat.add_assoc]
    · rw [hg] at hact
      rw [ih hact, hdraw, List.length_nil, Nat.zero_add]

/-- The draws of a history take the bytes from the generator's position on, one after another. -/
lemma result_of_draw (hg : m.generator = ⟨stream, n⟩) {history : List Action} {k : Nat} {d : Draw}
    (hd : (m.log draws history)[k]? = some d) :
    d.result = stream (n + k) &&& d.mask := by
  induction history generalizing m n k with
  | nil => cases hd
  | cons a as ih =>
    rw [log_cons] at hd
    rcases act_draws m a with ⟨mask, hdraw, hact⟩ | ⟨hdraw, hact⟩
    · rw [hg] at hact
      rw [hdraw, List.singleton_append] at hd
      cases k with
      | zero =>
        rw [List.getElem?_cons_zero, hg] at hd
        obtain rfl := Option.some.inj hd
        rfl
      | succ k =>
        rw [List.getElem?_cons_succ] at hd
        rw [ih hact hd, Nat.add_assoc, Nat.add_comm 1]
    · rw [hg] at hact
      rw [hdraw, List.nil_append] at hd
      exact ih hact hd

/-- **Randomness is one unbroken stream.** Over any history, loads and resets included, the draws
take the bytes of the seed's sequence in order, and nothing else moves the generator: it stands
behind as many bytes as were drawn. -/
theorem draws_in_order (random : Randomness) (c : Config) (seed : UInt64)
    (hseed : c.seed = some seed) (history : List Action) :
    let m := (new c random).after history
    let log := (new c random).log draws history
    let stream := random.seeded seed
    (∀ k d, log[k]? = some d → d.result = stream k &&& d.mask) ∧
    m.generator = ⟨stream, log.length⟩ ∧
    (∀ a, m.draws a = [] → (m.act a).generator = m.generator) ∧
    ∀ w x mask, m.memory.fetch m.pc = .ok w → Instruction.table w = .random x mask →
      ∃ t, step.run m = .ok () t ∧ t.v.get x = stream log.length &&& mask ∧
        t.generator = ⟨stream, log.length + 1⟩ := by
  intro m log stream
  have hnew : (new c random).generator = ⟨stream, 0⟩ := by
    rw [new, hseed]
    rfl
  have hlog := generator_after hnew history
  rw [Nat.zero_add] at hlog
  refine ⟨fun k d hd => ?_, hlog, fun a ha => ?_, fun w x mask hw hi => ?_⟩
  · rw [result_of_draw hnew hd, Nat.zero_add]
  · rcases act_draws m a with ⟨mask, hdraw, -⟩ | ⟨-, hact⟩
    · rw [hdraw] at ha
      cases ha
    · exact hact
  · have hinst : m.instruction? = some (.random x mask) := hi ▸ instruction?_of_fetch hw
    refine ⟨_, step_of_executes hinst (.random x mask), ?_, ?_⟩
    · rw [show stream log.length = m.generator.peek by rw [hlog]; rfl]
      exact Bank.get_set_self ..
    · change m.generator.advance = _
      rw [hlog]
      rfl

/-- Draws under a zero mask, and then under one of four bits. -/
def twoDraws : List UInt8 := [0xC0, 0x00, 0xC1, 0x0F]

/-- The first draw is made twice, before and after a reset. -/
theorem draws_in_order_twoDraws :
    let m := (new { seed := some 7 } (.chaCha .zero)).after [.load twoDraws, .step, .reset, .step]
    let stream := ChaCha.stream (.ofSeed 7)
    m.v.get 0 = 0 ∧ m.generator = ⟨stream, 2⟩ ∧
      ∃ t, step.run m = .ok () t ∧ t.v.get 1 = stream 2 &&& 0x0F := by
  intro m stream
  obtain ⟨m₀, h₀⟩ := (new { seed := some 7 } (.chaCha .zero)).load_accepted (p := twoDraws)
    (by decide) (by decide)
  have hfresh := fresh_of_load h₀
  have hload : (new { seed := some 7 } (.chaCha .zero)).act (.load twoDraws) = m₀ :=
    act_load_of_ok h₀
  -- the first instruction, wherever the generator stands
  have hdraw {n : Machine} (hmemory : n.memory = m₀.memory) (hpc : n.pc = 0x200) :
      n.draws .step = [⟨0, 0⟩] ∧ (n.act .step).memory = m₀.memory ∧
        (n.act .step).pc = 0x202 ∧ (n.act .step).v.get 0 = 0 := by
    have hi : n.instruction? = some (.random 0 0) :=
      hfresh.instruction?_at hmemory hpc (by decide) (by decide)
    have hact := act_step_of_executes hi (.random 0 0)
    have hv : (n.act .step).v.get 0 = 0 := by
      rw [hact]
      exact (Bank.get_set_self ..).trans UInt8.and_zero
    refine ⟨?_, ?_, ?_, hv⟩
    · rw [draws, completed?_of_executes hi (.random 0 0)]
      dsimp only
      rw [hv]
    · rw [hact]
      exact hmemory
    · rw [hact, hpc]
      rfl
  obtain ⟨hdraw₀, hmemory₀, -, -⟩ := hdraw rfl hfresh.pc
  obtain ⟨hdraw₁, hmemory, hpc, hv⟩ := hdraw (n := (m₀.act .step).act .reset) hmemory₀ rfl
  have hm : (new { seed := some 7 } (.chaCha .zero)).after [.load twoDraws, .step, .reset, .step] =
      ((m₀.act .step).act .reset).act .step := by
    simp only [after_cons, after_nil, hload]
  have hlog : (new { seed := some 7 } (.chaCha .zero)).log draws
      [.load twoDraws, .step, .reset, .step] = [⟨0, 0⟩, ⟨0, 0⟩] := by
    simp only [log_cons, log_nil, hload, hdraw₀, hdraw₁]
    rfl
  obtain ⟨-, hgenerator, -, hnext⟩ :=
    draws_in_order (.chaCha .zero) { seed := some 7 } 7 rfl [.load twoDraws, .step, .reset, .step]
  rw [hm, hlog] at hgenerator hnext
  rw [show m = _ from hm]
  have hfetch : (((m₀.act .step).act .reset).act .step).memory.fetch
      (((m₀.act .step).act .reset).act .step).pc = .ok 0xC10F := by
    rw [hmemory, hpc]
    exact hfresh.fetch (a := 0x202) (by decide) (by decide)
  obtain ⟨t, hstep, ht, -⟩ := hnext 0xC10F 1 0x0F hfetch rfl
  exact ⟨hv, hgenerator, t, hstep, ht⟩

end Chip8.Machine
