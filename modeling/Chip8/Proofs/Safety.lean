import Chip8.Proofs.Bounds
import Chip8.Proofs.Checked
import Mathlib.Data.List.GetD

/-!
No check ever fails: a machine with all checks runs every history as the machine without them does.

Most checks hold in every state. That the program counter can go on past an instruction rests on the
bounds that every history keeps.
-/

namespace Chip8.Checked

open Machine

/-! ### Checks that hold -/

lemma add?_of_lt {a b : UInt16} (h : a.toNat + b.toNat < 65536) : add? a b = some (a + b) :=
  if_pos h

lemma mul?_of_lt {a b : UInt16} (h : a.toNat * b.toNat < 65536) : mul? a b = some (a * b) :=
  if_pos h

lemma place?_of_lt {n i : Nat} (h : i < n) : place? n i = some ⟨i, h⟩ := dif_pos h

lemma byte?_of_lt (m : Memory) {a : Nat} (h : a < 4096) : byte? m a = some (m.byte a) := by
  rw [byte?, place?_of_lt h, m.byte_eq_getElem h]
  rfl

lemma slice?_of_le (m : Memory) {a n : Nat} (h : a + n ≤ 4096) :
    slice? m a (a + n) = some (m.slice a n) := by
  rw [slice?, if_pos ⟨Nat.le_add_right a n, h⟩, Nat.add_sub_cancel_left]

lemma overwrite?_of_le (m : Memory) {a b : Nat} (data : List UInt8) (hb : a + data.length = b)
    (h : b ≤ 4096) :
    overwrite? m a b data = some { m with bytes := Memory.store m.bytes a data } :=
  if_pos ⟨by omega, h, by omega⟩

/-! ### Memory -/

lemma readBlock?_eq (m : Memory) (a : UInt16) (n : Nat) :
    readBlock? m a n = some (m.readBlock a n) := by
  unfold readBlock? Memory.readBlock
  cases h : m.checkReadable a n with
  | error e => rfl
  | ok _ =>
    have hle : a.toNat + n ≤ 4096 := by
      rcases (Memory.checkReadable_eq_ok_iff.mp h).2 with hr | hr <;> omega
    dsimp only
    rw [slice?_of_le m hle]
    rfl

lemma writeBlock?_eq (m : Memory) (a : UInt16) (data : List UInt8) :
    writeBlock? m a data = some ((Memory.writeBlock a data).run m) := by
  unfold writeBlock?
  rw [Memory.run_writeBlock]
  cases h : m.checkWritable a data.length with
  | error e => rfl
  | ok _ =>
    dsimp only
    rw [overwrite?_of_le m data rfl (Memory.checkWritable_eq_ok_iff.mp h).2.2]
    rfl

lemma fetch?_eq (m : Memory) (a : UInt16) : fetch? m a = some (m.fetch a) := by
  unfold fetch? Memory.fetch
  cases h : m.checkWritable a 2 with
  | error e => rfl
  | ok _ =>
    have hle := (Memory.checkWritable_eq_ok_iff.mp h).2.2
    dsimp only
    rw [byte?_of_lt m (by omega), byte?_of_lt m (by omega)]
    rfl

lemma load?_eq (m : Memory) (p : List UInt8) : load? m p = some ((Memory.load p).run m) := by
  unfold load?
  rw [Memory.run_load]
  simp only [List.isEmpty_iff]
  by_cases hp : p = []
  · rw [if_pos hp, if_pos hp]
  · by_cases hn : 3584 < p.length
    · rw [if_neg hp, if_neg hp, if_pos hn, if_pos (show p.length > Memory.capacity from hn)]
    · have hblank := overwrite?_of_le m (a := 0x200) (List.replicate 3584 0)
        (by rw [List.length_replicate]) (Nat.le_refl 4096)
      have hcopy (n : Memory) := overwrite?_of_le n (a := 0x200) p rfl (by omega)
      have himage : Memory.store (Memory.store m.bytes 0x200 (List.replicate 3584 0)) 0x200 p =
          (m.image p).bytes := m.store_replicate_store p
      rw [if_neg hp, if_neg hp, if_neg hn, if_neg (show ¬ p.length > Memory.capacity from hn),
        hblank]
      simp only [Option.bind_eq_bind, Option.bind_some, hcopy, himage]
      rfl

/-! ### Registers, keys and pixels -/

lemma registers?_eq (v : Bank UInt8) (x : Nibble) :
    registers? v (x + 1) = some (v.toList.take (x + 1)) := if_pos x.isLt

lemma fill?_eq (v : Bank UInt8) (x : Nibble) {bytes : List UInt8}
    (h : bytes.length = x + 1) : fill? v (x + 1) bytes = some (fill v 0 bytes) :=
  if_pos ⟨x.isLt, h⟩

/-- The lower four bits of a byte number a key. -/
lemma place?_key (k : UInt8) : place? 16 (k &&& 0xF).toNat = some (Keypad.key k) := by
  have h : (k &&& 0xF).toNat = k.toNat % 16 := by
    rw [UInt8.toNat_and]
    exact Nat.and_two_pow_sub_one_eq_mod k.toNat 4
  rw [place?_of_lt (by omega)]
  exact congrArg some (Fin.ext h)

lemma isDown?_eq (p : Keypad) (k : UInt8) : isDown? p k = some (p.isDown k) := by
  rw [isDown?, place?_key]
  rfl

lemma setKey?_true (p : Keypad) (k : UInt8) : setKey? p k true = some (p.press k) := by
  rw [setKey?, place?_key]
  rfl

lemma setKey?_false (p : Keypad) (k : UInt8) : setKey? p k false = some (p.release k) := by
  rw [setKey?, place?_key]
  rfl

lemma toggle?_eq (s : Screen) (x y : Nat) : toggle? s x y = some (s.toggle x y) := by
  have hbyte : place? 256 ((y % 32 * 64 + x % 64) / 8) = some (Frame.locate x y).1 := by
    rw [place?_of_lt (by omega)]
    refine congrArg some (Fin.ext ?_)
    change (y % 32 * 64 + x % 64) / 8 = (64 * (y % 32) + x % 64) / 8
    rw [Nat.mul_comm]
  have hshift : place? 8 (x % 64 % 8) = some ⟨x % 64 % 8, Nat.mod_lt _ (by decide)⟩ :=
    place?_of_lt _
  rw [toggle?, hbyte, hshift]
  rfl

lemma blit?_eq (s : Screen) (pixels : List (Nat × Nat)) :
    blit? s pixels = some (s.blit pixels) := by
  induction pixels generalizing s with
  | nil => rfl
  | cons p rest ih =>
    obtain ⟨x, y⟩ := p
    rw [blit?, toggle?_eq]
    simp only [Option.bind_eq_bind, Option.bind_some, ih]
    rfl

/-! ### Decoding -/

lemma toNat_and_low (w : UInt16) : (w &&& 0xF).toNat = w.toNat % 16 := by
  rw [UInt16.toNat_and]
  exact Nat.and_two_pow_sub_one_eq_mod w.toNat 4

lemma register?_eq (w : UInt16) {shift : UInt16} {k : Nat} (h : shift.toNat = 4 * k)
    (hk : k < 4) : register? w shift = some (Word.nibble w k) := by
  have hfield : ((w >>> shift) &&& 0xF).toNat = (w.toNat >>> (4 * k)) % 16 := by
    rw [toNat_and_low, UInt16.toNat_shiftRight, h, Nat.mod_eq_of_lt (show 4 * k < 16 by omega)]
  rw [register?, place?_of_lt (by omega)]
  exact congrArg some (Fin.ext hfield)

lemma and_lowByte (w : UInt16) : (w &&& 0xFF).toUInt8 = Word.lowByte w := by
  refine UInt8.toNat_inj.mp ?_
  rw [UInt16.toNat_toUInt8, UInt16.toNat_and, Word.toNat_lowByte,
    show w.toNat &&& (0xFF : UInt16).toNat = w.toNat % 256 from
      Nat.and_two_pow_sub_one_eq_mod w.toNat 8]
  exact Nat.mod_mod _ _

lemma and_lowAddress (w : UInt16) : w &&& 0xFFF = Word.lowAddress w := by
  refine UInt16.toNat_inj.mp ?_
  rw [UInt16.toNat_and, Word.toNat_lowAddress]
  exact Nat.and_two_pow_sub_one_eq_mod w.toNat 12

lemma and_low (w : UInt16) : (w &&& 0xF).toUInt8 = UInt8.ofNat (w.toNat % 16) := by
  refine UInt8.toNat_inj.mp ?_
  rw [UInt16.toNat_toUInt8, toNat_and_low, UInt8.toNat_ofNat']

/-- The first four bits of a word always name a row of the table. -/
lemma decode?_eq (w : UInt16) : decode? w = some (Instruction.decode w) := by
  have hrow : (w >>> 12).toNat = w.toNat / 4096 := Nat.shiftRight_eq_div_pow w.toNat 12
  have hlow : (UInt8.ofNat (w.toNat % 16)).toNat = w.toNat % 16 := by
    rw [UInt8.toNat_ofNat']
    omega
  unfold decode? Instruction.decode
  rw [register?_eq w (k := 2) rfl (by decide), register?_eq w (k := 1) rfl (by decide)]
  simp only [Option.bind_eq_bind, Option.bind_some, hrow, and_lowByte, and_lowAddress, and_low,
    hlow, Word.toNat_lowByte]
  have hlt : w.toNat / 4096 < 16 := by
    have := w.toNat_lt
    omega
  generalize w.toNat / 4096 = row at hlt
  split
  case h_1 => split <;> simp_all
  case h_9 =>
    change _ = some (Instruction.decodeArithmetic w)
    unfold Instruction.decodeArithmetic
    split <;> simp [*]
  case h_15 =>
    change _ = some (Instruction.decodeKeys w)
    unfold Instruction.decodeKeys
    split <;> simp [*]
  case h_16 =>
    change _ = some (Instruction.decodeDevices w)
    unfold Instruction.decodeDevices
    split <;> simp [*]
  case h_17 => grind
  all_goals rfl

/-! ### Instructions -/

variable {m : Machine}

lemma execute?_ret : execute? m .ret = some ((execute .ret).run m) := by
  simp only [execute?]
  by_cases hd : m.stack.depth = 0
  · rw [if_pos hd, (Fails.ret (CallStack.pop?_eq_none_iff.mpr hd)).run]
  · have := m.stack.depth_le
    have hpop : m.stack.pop? = some (m.stack.slots[m.stack.depth - 1],
      { m.stack with depth := m.stack.depth - 1, depth_le := by omega }) := dif_pos (by omega)
    rw [if_neg hd, (Executes.ret hpop).run, place?_of_lt (by omega)]
    rfl

lemma execute?_call (a : UInt16) (hpc : m.pc.toNat + 2 < 65536) :
    execute? m (.call a) = some ((execute (.call a)).run m) := by
  simp only [execute?]
  by_cases hd : m.stack.depth = 16
  · rw [if_pos hd, (Fails.call a (CallStack.push?_eq_none_iff.mpr hd)).run]
  · have := m.stack.depth_le
    have hpush : m.stack.push? (m.pc + 2) = some
      { slots := m.stack.slots.set m.stack.depth (m.pc + 2), depth := m.stack.depth + 1 } :=
        dif_pos (by omega)
    rw [if_neg hd, (Executes.call a hpush).run, place?_of_lt (by omega), add?_of_lt hpc]
    rfl

lemma execute?_add (x y : Nibble) : execute? m (.add x y) = some ((execute (.add x y)).run m) := by
  have hx := (m.v.get x).toNat_lt
  have hy := (m.v.get y).toNat_lt
  have hsum : (m.v.get x).toUInt16.toNat + (m.v.get y).toUInt16.toNat < 65536 := by
    rw [UInt8.toNat_toUInt16, UInt8.toNat_toUInt16]
    omega
  have hcarry : 0xFF < (m.v.get x).toUInt16 + (m.v.get y).toUInt16 ↔
      255 < (m.v.get x).toNat + (m.v.get y).toNat := by
    rw [UInt16.lt_iff_toNat_lt, UInt16.toNat_add, Nat.mod_eq_of_lt hsum, UInt8.toNat_toUInt16,
      UInt8.toNat_toUInt16]
    rfl
  simp only [execute?]
  rw [add?_of_lt hsum, (Executes.add x y).run]
  simp only [Option.bind_eq_bind, Option.bind_some, hcarry]
  simp

lemma execute?_jumpOffset {a : UInt16} (ha : a.toNat < 4096) :
    execute? m (.jumpOffset a) = some ((execute (.jumpOffset a)).run m) := by
  have hv := (m.v.get (.ofNat 0)).toNat_lt
  simp only [execute?]
  rw [add?_of_lt (by rw [UInt8.toNat_toUInt16]; omega), (Executes.jumpOffset a).run]
  rfl

lemma sprite?_eq (m : Machine) (n : UInt8) : sprite? m n = some (m.sprite n) := by
  rw [sprite?, sprite, readBlock?_eq]
  split <;> rfl

lemma execute?_draw (x y : Nibble) (n : UInt8) :
    execute? m (.draw x y n) = some ((execute (.draw x y n)).run m) := by
  simp only [execute?, sprite?_eq, Option.bind_eq_bind, Option.bind_some]
  rcases h : m.sprite n with e | rows
  · rw [(Fails.draw x y n h).run]
    rfl
  · simp only [blit?_eq, Option.bind_some]
    rw [(Executes.draw x y n h).run]
    rfl

/-- Glyph addresses end far below the last word. -/
lemma glyph_lt (b : UInt8) : (5 : UInt16).toNat * b.toUInt16.toNat < 65536 ∧
    (0x050 : UInt16).toNat + (5 * b.toUInt16).toNat < 65536 := by
  have hb : b.toUInt16.toNat < 256 := by
    rw [UInt8.toNat_toUInt16]
    exact b.toNat_lt
  have hmul : (5 : UInt16).toNat * b.toUInt16.toNat < 65536 := by
    change 5 * b.toUInt16.toNat < 65536
    omega
  refine ⟨hmul, ?_⟩
  rw [UInt16.toNat_mul, Nat.mod_eq_of_lt hmul]
  change 0x050 + 5 * b.toUInt16.toNat < 65536
  omega

lemma execute?_glyph (x : Nibble) :
    execute? m (.glyph x) = some ((execute (.glyph x)).run m) := by
  obtain ⟨hmul, hadd⟩ := glyph_lt (m.v.get x)
  simp only [execute?, mul?_of_lt hmul, add?_of_lt hadd, Option.bind_eq_bind, Option.bind_some]
  rw [(Executes.glyph x).run]
  rfl

lemma movePast?_eq (m : Machine) (x : Nibble) : movePast? m x = some (m.movePast x) := by
  have hx : (UInt16.ofNat x).toNat = x.val := by
    rw [UInt16.toNat_ofNat']
    omega
  have hadd : (UInt16.ofNat x).toNat + (1 : UInt16).toNat < 65536 := by
    change (UInt16.ofNat x).toNat + 1 < 65536
    omega
  rw [movePast?, movePast]
  split
  · rw [add?_of_lt hadd, UInt16.ofNat_add]
    rfl
  · rfl

lemma execute?_decimal (x : Nibble) :
    execute? m (.decimal x) = some ((execute (.decimal x)).run m) := by
  simp only [execute?, writeBlock?_eq, Option.bind_eq_bind, Option.bind_some]
  rcases h : (Memory.writeBlock m.index (decimalDigits (m.v.get x))).run m.memory with
    ⟨⟨⟩, memory⟩ | ⟨e, memory⟩
  · rw [(Executes.decimal x h).run]
    rfl
  · obtain ⟨rfl, -⟩ := Memory.writeBlock_refused_iff.mp h
    rw [(Fails.decimal x h).run]
    rfl

lemma execute?_save (x : Nibble) : execute? m (.save x) = some ((execute (.save x)).run m) := by
  simp only [execute?, registers?_eq, writeBlock?_eq, Option.bind_eq_bind, Option.bind_some]
  rcases h : (Memory.writeBlock m.index (m.v.toList.take (x + 1))).run m.memory with
    ⟨⟨⟩, memory⟩ | ⟨e, memory⟩
  · simp only [movePast?_eq, Option.bind_some]
    rw [(Executes.save x h).run]
    rfl
  · obtain ⟨rfl, -⟩ := Memory.writeBlock_refused_iff.mp h
    rw [(Fails.save x h).run]
    rfl

lemma execute?_restore (x : Nibble) :
    execute? m (.restore x) = some ((execute (.restore x)).run m) := by
  simp only [execute?, readBlock?_eq, Option.bind_eq_bind, Option.bind_some]
  rcases h : m.memory.readBlock m.index (x + 1) with e | bytes
  · rw [(Fails.restore x h).run]
    rfl
  · have hlen : bytes.length = x + 1 := by
      rw [(Memory.readBlock_eq_ok_iff.mp h).2, Memory.length_slice]
    simp only [fill?_eq m.v x hlen, movePast?_eq, Option.bind_some]
    rw [(Executes.restore x h).run]
    rfl

/-- Every instruction passes its checks where the program counter can go on and a jump stays among
the twelve-bit addresses. -/
lemma execute?_eq {i : Instruction 16} (hpc : m.pc.toNat + 2 < 65536)
    (ha : ∀ a, i.address? = some a → a.toNat < 4096) :
    execute? m i = some ((execute i).run m) := by
  cases i with
  | ret => exact execute?_ret
  | call a => exact execute?_call a hpc
  | add x y => exact execute?_add x y
  | jumpOffset a => exact execute?_jumpOffset (ha a rfl)
  | draw x y n => exact execute?_draw x y n
  | skipKeyDown x =>
    simp only [execute?, isDown?_eq]
    rfl
  | skipKeyUp x =>
    simp only [execute?, isDown?_eq]
    rfl
  | glyph x => exact execute?_glyph x
  | decimal x => exact execute?_decimal x
  | save x => exact execute?_save x
  | restore x => exact execute?_restore x
  | _ => rfl

/-! ### Steps and histories -/

lemma target?_eq {pc : UInt16} (h : pc.toNat + 4 < 65536) (f : Flow) :
    target? pc f = some (f.target pc) := by
  cases f with
  | next => exact add?_of_lt (Nat.lt_trans (Nat.add_lt_add_left (by decide) _) h)
  | skip => exact add?_of_lt h
  | jump a => rfl
  | hold => rfl

lemma run_map {α β : Type} (f : α → β) (x : Exec α) (m : Machine) :
    (f <$> x).run m = match x.run m with
      | .ok a t => .ok (f a) t
      | .error e t => .error e t := by
  change EStateM.map f x m = _
  unfold EStateM.map EStateM.run
  cases x m <;> rfl

lemma word?_eq (h : m.pc.toNat + 4 < 65536) (w : UInt16) :
    word? m w = some ((Flow.target m.pc <$> execute (Instruction.decode w)).run m) := by
  have hi := execute?_eq (m := m) (by omega) fun a => Instruction.toNat_lt_of_address? (w := w)
  rw [run_map, word?, decode?_eq]
  simp only [Option.bind_eq_bind, Option.bind_some, hi, target?_eq h]
  cases (execute (Instruction.decode w)).run m <;> rfl

lemma step?_eq (hpc : m.pc.toNat + 4 < 65536) (hc : m.cycles + 1 < UInt64.size) :
    step? m = some (step.run m) := by
  rw [step?, fetch?_eq, run_step]
  rcases m.memory.fetch m.pc with e | w
  · rfl
  · simp only [Option.bind_eq_bind, Option.bind_some, word?_eq hpc, run_map]
    rcases hr : (execute (Instruction.decode w)).run m with ⟨f, t⟩ | ⟨e, t⟩
    · have hcount : count? t.cycles = some (t.cycles + 1) :=
        if_pos (by rwa [(execute_eq_ok_iff.mp hr).cycles])
      simp only [hcount, Option.bind_some]
      rw [← finish_eq]
      rfl
    · rfl

/-- What one action keeps: the bounds, and room in the counter of cycles. -/
lemma act?_eq (hm : Bounded m) {a : Action} (hc : a = .step → m.cycles + 1 < UInt64.size) :
    act? m a = some (m.act a) := by
  cases a with
  | load p =>
    simp only [act?, load?_eq, Option.bind_eq_bind, Option.bind_some, act, state, run_load]
    cases (Memory.load p).run m.memory <;> rfl
  | step =>
    have hpc := hm.pc
    simp only [act?, step?_eq (by omega) (hc rfl), Option.bind_eq_bind, Option.bind_some, act,
      state]
    cases step.run m <;> rfl
  | press k =>
    simp only [act?, setKey?_true]
    rfl
  | release k =>
    simp only [act?, setKey?_false]
    rfl
  | _ => rfl

lemma after?_eq (hm : Bounded m) {history : List Action}
    (hc : m.cycles + history.count .step < UInt64.size) :
    after? m history = some (m.after history) := by
  -- each step of the history may use up one of the cycles that are left
  induction history generalizing m with
  | nil => rfl
  | cons a as ih =>
    have hact := cycles_act_le m a
    rw [List.count_cons] at hc
    have hfirst : act? m a = some (m.act a) := by
      refine act?_eq hm fun ha => ?_
      rw [ha, if_pos BEq.rfl] at hc
      omega
    have hrest := ih (hm.act a) (by omega)
    simp only [after?, List.foldlM_cons, hfirst, Option.bind_eq_bind, Option.bind_some]
    exact hrest

/-- **No check fails** in fewer than `2 ^ 64` steps, and none would fail in the next one, whatever
word it fetched. -/
theorem checks_pass (c : Config) (random : Randomness) (history : List Action)
    (h : history.count .step < UInt64.size) :
    let m := (new c random).after history
    -- where the machine can stand, and where it can go back to
    (m.stack.depth ≤ 16 ∧ (∀ a ∈ m.stack.toList, 0x202 ≤ a.toNat ∧ a.toNat ≤ 0x1000) ∧
      m.pc.toNat ≤ 0x10FE) ∧
    -- the history as a machine with checks runs it
    after? (new c random) history = some m ∧
    -- a next fetch, and any word
    fetch? m.memory m.pc = some (m.memory.fetch m.pc) ∧
    ∀ w, word? m w = some ((Flow.target m.pc <$> execute (Instruction.decode w)).run m) := by
  intro m
  have hm : Bounded m := bounded c random history
  have hpc := hm.pc
  refine ⟨⟨m.stack.depth_le, hm.pending, hm.pc⟩, ?_, fetch?_eq _ _, word?_eq (by omega)⟩
  exact after?_eq (.start rfl rfl) (by simpa [new, poweredOn] using h)

/-- A program that jumps as far as it can. -/
theorem checks_pass_beyond : ∃ m : Machine,
    after? (new {} (.chaCha .zero)) [.load [0x60, 0xFF, 0xBF, 0xFF], .step, .step] = some m ∧
    m.pc = 0x10FE := by
  obtain ⟨m, hm⟩ := (new {} (.chaCha .zero)).load_accepted (p := [0x60, 0xFF, 0xBF, 0xFF])
    (by decide) (by decide)
  have hfresh := fresh_of_load hm
  have h₁ := step_of_executes hfresh.instruction? (.setByte 0 0xFF)
  have hi : ((m.put 0 0xFF).finish (Flow.next.target m.pc)).instruction? =
      some (.jumpOffset 0xFFF) :=
    hfresh.instruction?_at (a := 0x202) rfl (by rw [pc_finish, hfresh.pc]; rfl) (by decide)
      (by decide)
  have h₂ := step_of_executes hi (.jumpOffset 0xFFF)
  obtain ⟨-, hrun, -⟩ := checks_pass {} (.chaCha .zero)
    [.load [0x60, 0xFF, 0xBF, 0xFF], .step, .step] (by decide)
  refine ⟨_, hrun, ?_⟩
  simp only [after_cons, after_nil, act, state_of_ok hm, state_of_ok h₁, state_of_ok h₂, pc_finish]
  change 0xFFF + ((m.v.set (.ofNat 0) 0xFF).get (.ofNat 0)).toUInt16 = 0x10FE
  rw [Bank.get_set_self]
  rfl

end Chip8.Checked
