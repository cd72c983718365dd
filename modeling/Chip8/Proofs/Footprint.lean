import Chip8.Proofs.History
import Chip8.Proofs.Opcodes

/-!
What a step can change, for each instruction. Everything else stays as it was.

The program counter, the counter of cycles and, on machines that do so, the timers change at every
step. What else an instruction changes is its footprint.
-/

namespace Chip8

namespace Instruction

/-- How many bytes an instruction writes, from the index on. -/
def size : Instruction 16 → Nat
  | decimal _ => 3
  | save x => x + 1
  | _ => 0

/-- The bytes that an instruction writes. -/
def data (m : Machine) : Instruction 16 → List UInt8
  | decimal x => Machine.decimalDigits (m.v.get x)
  | save x => m.v.toList.take (x + 1)
  | _ => []

/-- The instruction can change a register. -/
def Targets (m : Machine) (k : Nibble) : Instruction 16 → Prop
  | setByte x _ | addByte x _ | copy x _ | bitOr x _ | bitAnd x _ | bitXor x _ | random x _
  | getDelay x => k = x
  | waitKey x => m.keypad.anyDown ∧ k = x
  | add x _ | sub x _ | shiftRight x | subFrom x _ | shiftLeft x => k = x ∨ k = Machine.flag
  | draw _ _ _ => k = Machine.flag
  | restore x => k ≤ x
  | _ => False

lemma length_data (m : Machine) (i : Instruction 16) : (i.data m).length = i.size := by
  cases i with
  | save x =>
    rw [data, size, List.length_take, Vector.length_toList]
    omega
  | _ => rfl

end Instruction

namespace Machine

/-- A timer at the end of a step. -/
def counted (m : Machine) (timer : UInt8) : UInt8 :=
  if m.timers = .perStep then countDown timer else timer

/-- `Footprint i m t`: machine `t` is what a step of machine `m` with instruction `i` may leave,
whatever it does to the program counter. -/
structure Footprint (i : Instruction 16) (m t : Machine) : Prop where
  byte : ∀ a, a < m.index.toNat ∨ m.index.toNat + i.size ≤ a → t.memory.byte a = m.memory.byte a
  written : t.memory.slice m.index.toNat i.size = i.data m
  programSize : t.memory.programSize = m.memory.programSize
  screen : t.screen = m.screen ∨ i = .clearScreen ∨ ∃ x y n, i = .draw x y n
  /-- A call writes the slot above the top. -/
  slots : ∀ k : Fin 16, t.stack.slots[k] = m.stack.slots[k] ∨
    k.val = m.stack.depth ∧ ∃ a, i = .call a
  depth : t.stack.depth = m.stack.depth ∨ i = .ret ∨ ∃ a, i = .call a
  index : t.index = m.index ∨ (∃ a, i = .setIndex a) ∨ (∃ x, i = .addIndex x ∨ i = .glyph x) ∨
    m.movesIndex = true ∧ ∃ x, i = .save x ∨ i = .restore x
  moved : m.movesIndex = true → ∀ x, i = .save x ∨ i = .restore x →
    t.index = m.index + UInt16.ofNat (x + 1)
  delay : t.delay = m.counted m.delay ∨ ∃ x, i = .setDelay x ∧ t.delay = m.counted (m.v.get x)
  sound : t.sound = m.counted m.sound ∨ ∃ x, i = .setSound x ∧ t.sound = m.counted (m.v.get x)
  generator : t.generator = m.generator ∨ ∃ x mask, i = .random x mask
  register : ∀ k, t.v.get k = m.v.get k ∨ i.Targets m k
  keypad : t.keypad = m.keypad
  timers : t.timers = m.timers
  movesIndex : t.movesIndex = m.movesIndex
  cycles : t.cycles = m.cycles + 1

variable {m t : Machine} {i : Instruction 16} {f : Flow}

/-! ### Memory -/

/-- An instruction writes its data, if it has any. -/
lemma Executes.memory (h : Executes m i f t) :
    t.memory = m.memory ∧ i.size = 0 ∨
      (Memory.writeBlock m.index (i.data m)).run m.memory = .ok () t.memory := by
  cases h with
  | decimal x h => exact .inr h
  | save x h => exact .inr (by rw [memory_movePast]; exact h)
  | restore x h => exact .inl ⟨memory_movePast .., rfl⟩
  | _ => exact .inl ⟨rfl, rfl⟩

lemma Executes.byte (h : Executes m i f t) {a : Nat}
    (ha : a < m.index.toNat ∨ m.index.toNat + i.size ≤ a) :
    t.memory.byte a = m.memory.byte a := by
  rcases h.memory with ⟨hmem, -⟩ | hmem
  · rw [hmem]
  · rw [Memory.byte_of_writeBlock hmem, i.length_data, if_neg (by omega)]

lemma Executes.written (h : Executes m i f t) :
    t.memory.slice m.index.toNat i.size = i.data m := by
  have hlen := i.length_data m
  rcases h.memory with ⟨-, hsize⟩ | hmem
  · rw [hsize] at hlen ⊢
    rw [List.eq_nil_of_length_eq_zero hlen]
    rfl
  · rw [← hlen, Memory.slice_of_writeBlock hmem]

/-- Writes leave the size of the program alone. -/
lemma Executes.programSize (h : Executes m i f t) :
    t.memory.programSize = m.memory.programSize := by
  rcases h.memory with ⟨hmem, -⟩ | hmem
  · rw [hmem]
  · obtain ⟨-, hmem⟩ := Memory.writeBlock_eq_ok_iff.mp hmem
    rw [hmem]

/-! ### Registers -/

lemma get_set_or (v : Bank UInt8) (x : Nibble) (b : UInt8) (k : Nibble) :
    (v.set x b).get k = v.get k ∨ k = x := by
  rw [Bank.get_set]
  by_cases h : x = k
  · exact .inr h.symm
  · exact .inl (if_neg h)

lemma get_putWithFlag_or (m : Machine) (x : Nibble) (b : Bool) (r : UInt8) (k : Nibble) :
    (m.putWithFlag x b r).v.get k = m.v.get k ∨ k = x ∨ k = flag := by
  rcases get_set_or (m.v.set flag (if b then 1 else 0)) x r k with hx | hx
  · rcases get_set_or m.v flag (if b then 1 else 0) k with hf | hf
    · exact .inl (hx.trans hf)
    · exact .inr (.inr hf)
  · exact .inr (.inl hx)

/-- Only the registers from the first one on change, as many as there are bytes. -/
lemma get_fill (v : Bank UInt8) (n : Nat) (bytes : List UInt8) (k : Nibble) :
    (fill v n bytes).get k =
      if n ≤ k.val ∧ k.val < n + bytes.length then bytes.getD (k.val - n) 0 else v.get k := by
  induction bytes generalizing v n with
  | nil =>
    rw [fill, if_neg]
    simp only [List.length_nil]
    omega
  | cons b rest ih =>
    have hset : Bank.get (Vector.setIfInBounds v n b) k = if n = k.val then b else v.get k := by
      simp [Bank.get, Vector.getElem_setIfInBounds]
    rw [fill, ih, List.length_cons, hset]
    by_cases h : n = k.val
    · rw [if_neg (by omega), if_pos h, if_pos (by omega), h, Nat.sub_self]
      rfl
    · rw [if_neg h]
      by_cases h' : n + 1 ≤ k.val ∧ k.val < n + 1 + rest.length
      · rw [if_pos h', if_pos (by omega), show k.val - n = k.val - (n + 1) + 1 by omega]
        rfl
      · rw [if_neg h', if_neg (by omega)]

lemma anyDown_of_firstDown {p : Keypad} {k : Nibble} (h : p.firstDown = some k) :
    p.anyDown = true := by
  unfold Keypad.firstDown at h
  unfold Keypad.anyDown
  cases hd : p.down with
  | nil => simp [hd] at h
  | cons => rfl

lemma Executes.register (h : Executes m i f t) (k : Nibble) :
    t.v.get k = m.v.get k ∨ i.Targets m k := by
  cases h with
  | setByte x b | addByte x b | copy x b | bitOr x b | bitAnd x b | bitXor x b | random x b
  | getDelay x => exact get_set_or _ _ _ k
  | add x y | sub x y | shiftRight x | subFrom x y | shiftLeft x =>
    exact get_putWithFlag_or _ _ _ _ k
  | draw x y n h => exact get_set_or _ _ _ k
  | takeKey x h =>
    exact (get_set_or _ _ _ k).imp_right fun hk => ⟨anyDown_of_firstDown h, hk⟩
  | @restore x bytes h =>
    have hlen : bytes.length = x + 1 := by
      rw [(Memory.readBlock_eq_ok_iff.mp h).2, Memory.length_slice]
    rw [v_movePast, get_fill, hlen]
    rcases Nat.lt_or_ge x.val k.val with hk | hk
    · exact .inl (if_neg (by omega))
    · exact .inr hk
  | save x h => exact .inl (by rw [v_movePast])
  | _ => exact .inl rfl

/-! ### The other parts -/

lemma Executes.screen (h : Executes m i f t) :
    t.screen = m.screen ∨ i = .clearScreen ∨ ∃ x y n, i = .draw x y n := by
  cases h with
  | clearScreen => exact .inr (.inl rfl)
  | draw x y n => exact .inr (.inr ⟨x, y, n, rfl⟩)
  | save | restore => exact .inl (screen_movePast ..)
  | _ => exact .inl rfl

/-- Calls and returns are the only ones to use the stack. -/
lemma Executes.stack (h : Executes m i f t) : t.stack = m.stack ∨
    (i = .ret ∧ t.stack.slots = m.stack.slots) ∨ ∃ a, i = .call a ∧
      ∀ k : Fin 16, t.stack.slots[k] = m.stack.slots[k] ∨ k.val = m.stack.depth := by
  cases h with
  | @ret a stack h =>
    refine .inr (.inl ⟨rfl, ?_⟩)
    unfold CallStack.pop? at h
    split at h
    next => cases h; rfl
    next => cases h
  | @call a stack h =>
    refine .inr (.inr ⟨a, rfl, fun k => ?_⟩)
    unfold CallStack.push? at h
    split at h
    next hd =>
      cases h
      by_cases hk : m.stack.depth = k
      · exact .inr hk.symm
      · exact .inl (Vector.getElem_set_ne hd k.isLt hk)
    next => cases h
  | save | restore => exact .inl (stack_movePast ..)
  | _ => exact .inl rfl

lemma movePast_of_movesIndex (h : m.movesIndex = true) (x : Nibble) :
    (m.movePast x).index = m.index + UInt16.ofNat (x + 1) := by
  rw [movePast, if_pos h]

lemma index_movePast (m : Machine) (x : Nibble) :
    (m.movePast x).index = m.index ∨ m.movesIndex = true := by
  unfold movePast
  split
  next h => exact .inr h
  next => exact .inl rfl

lemma Executes.index (h : Executes m i f t) : t.index = m.index ∨ (∃ a, i = .setIndex a) ∨
    (∃ x, i = .addIndex x ∨ i = .glyph x) ∨
    m.movesIndex = true ∧ ∃ x, i = .save x ∨ i = .restore x := by
  cases h with
  | setIndex a => exact .inr (.inl ⟨a, rfl⟩)
  | addIndex x => exact .inr (.inr (.inl ⟨x, .inl rfl⟩))
  | glyph x => exact .inr (.inr (.inl ⟨x, .inr rfl⟩))
  | save x => exact (index_movePast ..).imp_right fun h => .inr (.inr ⟨h, x, .inl rfl⟩)
  | restore x => exact (index_movePast ..).imp_right fun h => .inr (.inr ⟨h, x, .inr rfl⟩)
  | _ => exact .inl rfl

lemma Executes.moved (h : Executes m i f t) (hm : m.movesIndex = true) {x : Nibble}
    (hi : i = .save x ∨ i = .restore x) : t.index = m.index + UInt16.ofNat (x + 1) := by
  rcases hi with rfl | rfl
  · cases h with
    | save _ h => exact movePast_of_movesIndex (by exact hm) x
  · cases h with
    | restore _ h => exact movePast_of_movesIndex (by exact hm) x

/-- What no instruction changes, and what only one does. -/
structure Spared (i : Instruction 16) (m t : Machine) : Prop where
  delay : t.delay = m.delay ∨ ∃ x, i = .setDelay x ∧ t.delay = m.v.get x
  sound : t.sound = m.sound ∨ ∃ x, i = .setSound x ∧ t.sound = m.v.get x
  generator : t.generator = m.generator ∨ ∃ x mask, i = .random x mask
  keypad : t.keypad = m.keypad
  timers : t.timers = m.timers
  movesIndex : t.movesIndex = m.movesIndex

lemma Spared.movePast {u : Machine} (h : Spared i m u) (x : Nibble) :
    Spared i m (u.movePast x) := by
  obtain ⟨index, ht⟩ := u.movePast_eq x
  rw [ht]
  exact ⟨h.delay, h.sound, h.generator, h.keypad, h.timers, h.movesIndex⟩

lemma Executes.spared (h : Executes m i f t) : Spared i m t := by
  cases h with
  | setDelay x => exact ⟨.inr ⟨x, rfl, rfl⟩, .inl rfl, .inl rfl, rfl, rfl, rfl⟩
  | setSound x => exact ⟨.inl rfl, .inr ⟨x, rfl, rfl⟩, .inl rfl, rfl, rfl, rfl⟩
  | random x mask => exact ⟨.inl rfl, .inl rfl, .inr ⟨x, mask, rfl⟩, rfl, rfl, rfl⟩
  | save x | restore x =>
    refine Spared.movePast ?_ x
    exact ⟨.inl rfl, .inl rfl, .inl rfl, rfl, rfl, rfl⟩
  | _ => exact ⟨.inl rfl, .inl rfl, .inl rfl, rfl, rfl, rfl⟩

/-! ### Steps -/

lemma delay_finish (m : Machine) (pc : UInt16) : (m.finish pc).delay = m.counted m.delay := rfl

lemma sound_finish (m : Machine) (pc : UInt16) : (m.finish pc).sound = m.counted m.sound := rfl

lemma counted_eq (h : t.timers = m.timers) (timer : UInt8) : t.counted timer = m.counted timer := by
  rw [counted, counted, h]

lemma Executes.footprint (h : Executes m i f t) (pc : UInt16) : Footprint i m (t.finish pc) where
  byte _ := h.byte
  written := h.written
  programSize := h.programSize
  screen := h.screen
  slots k := by
    rw [stack_finish]
    rcases h.stack with hs | ⟨-, hs⟩ | ⟨a, rfl, hs⟩
    · exact .inl (by rw [hs])
    · exact .inl (by rw [hs])
    · exact (hs k).imp_right fun hk => ⟨hk, a, rfl⟩
  depth := by
    rw [stack_finish]
    rcases h.stack with hs | ⟨rfl, -⟩ | ⟨a, rfl, -⟩
    · exact .inl (by rw [hs])
    · exact .inr (.inl rfl)
    · exact .inr (.inr ⟨a, rfl⟩)
  index := h.index
  moved hm _ := h.moved hm
  delay := by
    rw [delay_finish, counted_eq h.spared.timers]
    rcases h.spared.delay with hd | ⟨x, hi, hd⟩
    · exact .inl (by rw [hd])
    · exact .inr ⟨x, hi, by rw [hd]⟩
  sound := by
    rw [sound_finish, counted_eq h.spared.timers]
    rcases h.spared.sound with hs | ⟨x, hi, hs⟩
    · exact .inl (by rw [hs])
    · exact .inr ⟨x, hi, by rw [hs]⟩
  generator := h.spared.generator
  register := h.register
  keypad := h.spared.keypad
  timers := h.spared.timers
  movesIndex := h.spared.movesIndex
  cycles := by rw [cycles_finish, h.cycles]

/-- **A step changes nothing outside the footprint** of the instruction that its word stands for in
the table. -/
theorem step_footprint {w : UInt16} (hw : m.memory.fetch m.pc = .ok w)
    (h : step.run m = .ok () t) : Footprint (Instruction.table w) m t := by
  obtain ⟨i, f, u, hi, hr, rfl⟩ := step_eq_ok_iff.mp h
  obtain ⟨w', hw', rfl⟩ := instruction?_eq_some_iff.mp hi
  obtain rfl : w = w' := Except.ok.inj (hw.symm.trans hw')
  rw [← Instruction.decode_eq_table]
  exact hr.footprint _

/-- Two registers are saved at `0x300`, on a machine that moves its index past them. -/
theorem step_footprint_save : ∃ m t : Machine, m.memory.fetch m.pc = .ok 0xF155 ∧
    step.run m = .ok () t ∧ m.index = 0x300 ∧ t.index = 0x302 ∧
    t.memory.slice 0x300 2 = m.v.toList.take 2 ∧
    ∀ a, 0x302 ≤ a → t.memory.byte a = m.memory.byte a := by
  obtain ⟨m, hm⟩ := (new { movesIndex := true } (.chaCha .zero)).load_accepted
    (p := [0xA3, 0x00, 0xF1, 0x55]) (by decide) (by decide)
  have hfresh := fresh_of_load hm
  have hmoves : m.movesIndex = true := by
    obtain ⟨memory, -, rfl⟩ := load_eq_ok_iff.mp hm
    rfl
  obtain ⟨u, hu⟩ : ∃ u, u = ({ m with index := 0x300 } : Machine).finish 0x202 := ⟨_, rfl⟩
  have hfetch : u.memory.fetch u.pc = .ok 0xF155 := by
    rw [hu]
    exact hfresh.fetch (a := 0x202) (by decide) (by decide)
  have hindex : u.index = 0x300 := by rw [hu]; rfl
  obtain ⟨memory, hwrite⟩ : ∃ memory,
      (Memory.writeBlock u.index (u.v.toList.take (((1 : Nibble) : Nat) + 1))).run u.memory =
        .ok () memory := by
    refine ⟨_, Memory.writeBlock_eq_ok_iff.mpr ⟨Memory.checkWritable_eq_ok_iff.mpr ?_, rfl⟩⟩
    rw [hindex, hu]
    exact ⟨hfresh.isLoaded, by decide, by simp⟩
  obtain ⟨t, hstep⟩ : ∃ t, step.run u = .ok () t :=
    ⟨_, step_of_executes (instruction?_eq_some_iff.mpr ⟨_, hfetch, rfl⟩) (.save 1 hwrite)⟩
  have hfoot := step_footprint hfetch hstep
  have hbyte := hfoot.byte
  have hwritten := hfoot.written
  rw [hindex] at hbyte hwritten
  refine ⟨u, t, hfetch, hstep, hindex, ?_, hwritten, fun a ha => hbyte a (.inr ha)⟩
  rw [hfoot.moved (by rw [hu]; exact hmoves) 1 (.inl rfl), hindex]
  rfl

end Machine

end Chip8
