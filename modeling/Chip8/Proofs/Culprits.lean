import Chip8.Proofs.Faults

/-!
The address that a refused access names.

It is always an address of the block. Writes and fetches name one that cannot be written. Reads
name one that cannot be read, but for the blocks that leave the glyphs and end in memory: there the
first address is named, which is a glyph's, and not the one behind the glyphs.
-/

namespace Chip8.Memory

/-- The block begins among the glyphs and goes on behind them, and it ends in memory. -/
def LeavesGlyphs (a : UInt16) (n : Nat) : Prop :=
  0x050 ≤ a.toNat ∧ a.toNat ≤ 0x09F ∧ 0x0A0 < a.toNat + n ∧ a.toNat + n ≤ 0x1000

/-- The address belongs to the block of `n` bytes at `a`. -/
def InBlock (a : UInt16) (n : Nat) (b : UInt16) : Prop :=
  a.toNat ≤ b.toNat ∧ b.toNat < a.toNat + n

/-- The address that the refusal of a block names. -/
def named (a : UInt16) (n : Nat) : UInt16 := if 0x1000 < a.toNat + n then max a 0x1000 else a

variable {m : Memory} {a b : UInt16} {n : Nat} {e : MemoryError}

lemma refusal_eq (a : UInt16) (n : Nat) : refusal a n = .outOfBounds (named a n) := rfl

lemma toNat_named (a : UInt16) (n : Nat) :
    (named a n).toNat = if 0x1000 < a.toNat + n then max a.toNat 0x1000 else a.toNat := by
  unfold named
  split
  next =>
    have hmax : max a 0x1000 = if a ≤ 0x1000 then 0x1000 else a := rfl
    rw [hmax, Nat.max_def, apply_ite UInt16.toNat]
    simp only [UInt16.le_iff_toNat_le, UInt16.reduceToNat]
  next => rfl

lemma inBlock_named (hn : 0 < n) : InBlock a n (named a n) := by
  unfold InBlock
  rw [toNat_named]
  split <;> omega

/-- A byte that is refused is named itself. -/
lemma named_one (b : UInt16) : named b 1 = b := by
  rw [← UInt16.toNat_inj, toNat_named]
  split <;> omega

/-! ### Refusals -/

lemma read_eq_error_iff (hl : m.isLoaded) : m.read b = .error e ↔ readFault? b 1 = some e := by
  rw [read, check_bind_eq_error_iff, checkReadable_eq hl Nat.one_pos, readFault?]
  split <;> simp

lemma write_eq_error_iff (hl : m.isLoaded) {v : UInt8} :
    (write b v).run m = .error e m ↔ writeFault? b 1 = some e :=
  writeBlock_eq_error_iff hl Nat.one_pos rfl

lemma fetch_eq_error_iff (hl : m.isLoaded) : m.fetch a = .error e ↔ writeFault? a 2 = some e := by
  rw [fetch, check_bind_eq_error_iff, checkWritable_eq hl (by decide), writeFault?]
  split <;> simp

lemma writeFault?_eq_some_iff (hn : 0 < n) : writeFault? a n = some e ↔
    ¬ (0x200 ≤ a.toNat ∧ a.toNat + n ≤ 0x1000) ∧ e = .outOfBounds (named a n) := by
  rw [writeFault?, refusal_eq, Option.ite_none_left_eq_some, within_iff hn, Option.some_inj,
    eq_comm (a := e)]

lemma readFault?_eq_some_iff (hn : 0 < n) : readFault? a n = some e ↔
    ¬ (0x050 ≤ a.toNat ∧ a.toNat + n ≤ 0x0A0) ∧ ¬ (0x200 ≤ a.toNat ∧ a.toNat + n ≤ 0x1000) ∧
      e = .outOfBounds (named a n) := by
  rw [readFault?, refusal_eq, Option.ite_none_left_eq_some, within_iff hn, within_iff hn, not_or,
    and_assoc, Option.some_inj, eq_comm (a := e)]

/-- The address named by a refused write cannot be written. -/
lemma writeFault?_named (hn : 0 < n) (h : writeFault? a n = some e) :
    e = .outOfBounds (named a n) ∧
      writeFault? (named a n) 1 = some (.outOfBounds (named a n)) := by
  obtain ⟨hout, rfl⟩ := (writeFault?_eq_some_iff hn).mp h
  refine ⟨rfl, (writeFault?_eq_some_iff Nat.one_pos).mpr ⟨?_, by rw [named_one]⟩⟩
  rw [toNat_named]
  split <;> omega

/-- The address named by a refused read cannot be read, unless it is the first of a block that
leaves the glyphs. -/
lemma readFault?_named (hn : 0 < n) (h : readFault? a n = some e) :
    e = .outOfBounds (named a n) ∧
      (readFault? (named a n) 1 = some (.outOfBounds (named a n)) ↔ ¬ LeavesGlyphs a n) := by
  obtain ⟨hglyphs, hprogram, rfl⟩ := (readFault?_eq_some_iff hn).mp h
  refine ⟨rfl, ?_⟩
  rw [readFault?_eq_some_iff Nat.one_pos, named_one, toNat_named, LeavesGlyphs]
  split <;> simp only [and_true] <;> omega

/-- In a block that leaves the glyphs, the first address is named and can be read, and the one
behind the glyphs cannot. -/
lemma named_of_leavesGlyphs (hl : m.isLoaded) (h : LeavesGlyphs a n) :
    named a n = a ∧ m.read a = .ok (m.byte a.toNat) ∧ InBlock a n 0x0A0 ∧
      m.read 0x0A0 = .error (.outOfBounds 0x0A0) := by
  obtain ⟨hfirst, hlast, hleaves, hend⟩ := h
  refine ⟨if_neg (by omega), ?_, ⟨?_, hleaves⟩, (read_eq_error_iff hl).mpr rfl⟩
  · exact check_bind_eq_ok_iff.mpr ⟨checkReadable_eq_ok_iff.mpr ⟨hl, .inl (by omega)⟩, rfl⟩
  · exact Nat.le_succ_of_le hlast

/-- **What a refusal names**: an address of the block that cannot be accessed either when it is the
only one, except for the blocks that leave the glyphs and end in memory. -/
theorem refusal_names_culprit_iff (hl : m.isLoaded) (a : UInt16) :
    -- reading
    (∀ n, 0 < n → ∀ e, m.readBlock a n = .error e → ∃ b, e = .outOfBounds b ∧ InBlock a n b ∧
      (m.read b = .error (.outOfBounds b) ↔ ¬ LeavesGlyphs a n) ∧
      (LeavesGlyphs a n → b = a ∧ m.read a = .ok (m.byte a.toNat) ∧ InBlock a n 0x0A0 ∧
        m.read 0x0A0 = .error (.outOfBounds 0x0A0))) ∧
    -- writing
    (∀ data, data ≠ [] → ∀ e t, (writeBlock a data).run m = .error e t →
      ∃ b, e = .outOfBounds b ∧ InBlock a data.length b ∧
        ∀ v, (write b v).run m = .error (.outOfBounds b) m) ∧
    -- fetching
    (∀ e, m.fetch a = .error e → ∃ b, e = .outOfBounds b ∧ InBlock a 2 b ∧
      ∀ v, (write b v).run m = .error (.outOfBounds b) m) := by
  refine ⟨fun n hn e he => ?_, fun data hdata e t he => ?_, fun e he => ?_⟩
  · obtain ⟨rfl, hiff⟩ := readFault?_named hn ((readBlock_eq_error_iff hl hn).mp he)
    refine ⟨named a n, rfl, inBlock_named hn, (read_eq_error_iff hl).trans hiff, fun h => ?_⟩
    exact named_of_leavesGlyphs hl h
  · have hn : 0 < data.length := List.length_pos_iff.mpr hdata
    obtain ⟨rfl, -⟩ := writeBlock_refused_iff.mp he
    obtain ⟨rfl, hone⟩ := writeFault?_named hn ((writeBlock_eq_error_iff hl hn rfl).mp he)
    exact ⟨_, rfl, inBlock_named hn, fun v => (write_eq_error_iff hl).mpr hone⟩
  · obtain ⟨rfl, hone⟩ := writeFault?_named Nat.two_pos ((fetch_eq_error_iff hl).mp he)
    exact ⟨_, rfl, inBlock_named Nat.two_pos, fun v => (write_eq_error_iff hl).mpr hone⟩

/-- The last byte of the glyphs and the one behind it: the readable one is named. -/
theorem refusal_names_culprit_iff_lastGlyph : ∃ m : Memory,
    (load [0x00, 0xE0]).run blank = .ok () m ∧
    m.readBlock 0x09F 2 = .error (.outOfBounds 0x09F) ∧ m.read 0x09F = .ok (m.byte 0x09F) ∧
    m.read 0x0A0 = .error (.outOfBounds 0x0A0) ∧
    m.fetch 0xFFF = .error (.outOfBounds 0x1000) ∧
    (write 0x1000 1).run m = .error (.outOfBounds 0x1000) m := by
  obtain ⟨m, hm⟩ := load_accepted (m := blank) (p := [0x00, 0xE0]) (by decide) (by decide)
  have hl := isLoaded_of_load hm
  have hread : m.readBlock 0x09F 2 = .error (.outOfBounds 0x09F) :=
    (readBlock_eq_error_iff hl Nat.two_pos).mpr (by decide)
  have hfetch : m.fetch 0xFFF = .error (.outOfBounds 0x1000) :=
    (fetch_eq_error_iff hl).mpr (by decide)
  obtain ⟨b, hb, -, -, hleaves⟩ := (refusal_names_culprit_iff hl 0x09F).1 2 Nat.two_pos _ hread
  obtain ⟨-, hglyph, -, hbehind⟩ := hleaves (by unfold LeavesGlyphs; decide)
  obtain ⟨c, hc, -, hwrite⟩ := (refusal_names_culprit_iff hl 0xFFF).2.2 _ hfetch
  obtain rfl : 0x1000 = c := by simpa using hc
  exact ⟨m, hm, hread, hglyph, hbehind, hfetch, hwrite 1⟩

end Chip8.Memory
