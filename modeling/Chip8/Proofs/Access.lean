import Chip8.Memory
import Mathlib.Data.List.GetD
import Mathlib.Tactic.Lemma
import Mathlib.Tactic.SplitIfs

/-!
Which accesses memory allows, and what stands in memory after a load.

A block may be written if it lies inside the program region of a loaded memory; it may be read
there or inside the glyphs.
-/

namespace Chip8.Memory

variable {m : Memory} {a : UInt16} {n : Nat}

lemma checkWritable_of_isLoaded (h : m.isLoaded) : m.checkWritable a n =
    if 4096 < a.toNat + n then .error (.outOfBounds (max a 0x1000))
    else if a.toNat < 0x200 then .error (.outOfBounds a)
    else .ok () := by
  unfold checkWritable checkEnd
  by_cases hn : a.toNat + n ≤ 4096
  · rw [if_pos h, if_pos (show a.toNat + n ≤ size from hn),
      if_neg (show ¬ 4096 < a.toNat + n by omega)]
    rfl
  · rw [if_pos h, if_neg (show ¬ a.toNat + n ≤ size from hn),
      if_pos (show 4096 < a.toNat + n by omega)]
    rfl

lemma checkWritable_eq_ok_iff : m.checkWritable a n = .ok () ↔
    m.isLoaded ∧ 0x200 ≤ a.toNat ∧ a.toNat + n ≤ 4096 := by
  by_cases h : m.isLoaded
  · rw [checkWritable_of_isLoaded h]
    split_ifs <;> simp [h] <;> omega
  · simp [checkWritable, h]

lemma checkReadable_eq_ok_iff : m.checkReadable a n = .ok () ↔ m.isLoaded ∧
    (0x050 ≤ a.toNat ∧ a.toNat + n ≤ 0x0A0 ∨ 0x200 ≤ a.toNat ∧ a.toNat + n ≤ 4096) := by
  unfold checkReadable
  by_cases h : m.isLoaded ∧ fontStart ≤ a.toNat ∧ a.toNat + n ≤ fontEnd
  · rw [if_pos h]
    exact ⟨fun _ => ⟨h.1, .inl h.2⟩, fun _ => rfl⟩
  · rw [if_neg h, checkWritable_eq_ok_iff]
    constructor
    · rintro ⟨hl, hr⟩
      exact ⟨hl, .inr hr⟩
    · rintro ⟨hl, hf | hr⟩
      · exact absurd ⟨hl, hf⟩ h
      · exact ⟨hl, hr⟩

/-- An access comes off where its check passes. -/
lemma check_bind_eq_ok_iff {α : Type} {check : Except MemoryError Unit} {v w : α} :
    (do check; return v : Except MemoryError α) = .ok w ↔ check = .ok () ∧ w = v := by
  cases check with
  | error e => simp [bind, Except.bind]
  | ok u => simp [bind, Except.bind, pure, Except.pure, eq_comm]

lemma readBlock_eq_ok_iff {bytes : List UInt8} : m.readBlock a n = .ok bytes ↔
    m.checkReadable a n = .ok () ∧ bytes = m.slice a.toNat n :=
  check_bind_eq_ok_iff

lemma run_writeBlock (m : Memory) (a : UInt16) (data : List UInt8) : (writeBlock a data).run m =
    match m.checkWritable a data.length with
    | .ok _ => .ok () { m with bytes := store m.bytes a.toNat data }
    | .error e => .error e m := by
  simp only [writeBlock, EStateM.run_bind, EStateM.run_get]
  cases m.checkWritable a data.length <;> rfl

lemma writeBlock_eq_ok_iff {data : List UInt8} {t : Memory} :
    (writeBlock a data).run m = .ok () t ↔ m.checkWritable a data.length = .ok () ∧
      t = { m with bytes := store m.bytes a.toNat data } := by
  rw [run_writeBlock]
  cases m.checkWritable a data.length with
  | error e => simp
  | ok u => simp [eq_comm]

/-- A write that is refused changes nothing. -/
lemma writeBlock_refused_iff {data : List UInt8} {e : MemoryError} {t : Memory} :
    (writeBlock a data).run m = .error e t ↔ t = m ∧ m.checkWritable a data.length = .error e := by
  rw [run_writeBlock]
  cases m.checkWritable a data.length with
  | error c => simp [and_comm, eq_comm]
  | ok u => simp

lemma fetch_eq_ok_iff {w : UInt16} : m.fetch a = .ok w ↔
    m.checkWritable a 2 = .ok () ∧ w = Word.ofBytes (m.byte a.toNat) (m.byte (a.toNat + 1)) :=
  check_bind_eq_ok_iff

lemma isLoaded_of_fetch {w : UInt16} (h : m.fetch a = .ok w) : m.isLoaded :=
  (checkWritable_eq_ok_iff.mp (fetch_eq_ok_iff.mp h).1).1

/-- A write changes the bytes of its block, and no others. -/
lemma byte_of_writeBlock {data : List UInt8} {t : Memory} (h : (writeBlock a data).run m = .ok () t)
    (i : Nat) : t.byte i =
      if a.toNat ≤ i ∧ i < a.toNat + data.length then data.getD (i - a.toNat) 0 else m.byte i := by
  obtain ⟨hcheck, rfl⟩ := writeBlock_eq_ok_iff.mp h
  obtain ⟨-, -, hend⟩ := checkWritable_eq_ok_iff.mp hcheck
  rcases Nat.lt_or_ge i 4096 with hi | hi
  · rw [byte_eq_getElem _ hi, byte_eq_getElem _ hi, getElem_store]
  · rw [byte_of_le _ hi, byte_of_le _ hi, if_neg (by omega)]

/-- What was written can be read back. -/
lemma slice_of_writeBlock {data : List UInt8} {t : Memory}
    (h : (writeBlock a data).run m = .ok () t) : t.slice a.toNat data.length = data := by
  refine List.ext_getElem (length_slice ..) fun i hi hdata => ?_
  rw [getElem_slice, byte_of_writeBlock h, if_pos (by omega), Nat.add_sub_cancel_left,
    List.getD_eq_getElem?_getD, List.getElem?_eq_getElem hdata, Option.getD_some]

/-! ### Loads -/

variable {p : List UInt8} {t : Memory}

/-- What an accepted load leaves: the program's bytes in the program region, and zeros after
them. -/
def image (m : Memory) (p : List UInt8) : Memory where
  bytes := .ofFn fun a => if a.val < 0x200 then m.byte a else p.getD (a - 0x200) 0
  programSize := some p.length

/-- Blanking the region and copying a program into it leaves the program with zeros after it. -/
lemma store_replicate_store (m : Memory) (p : List UInt8) :
    store (store m.bytes programStart (List.replicate capacity 0)) programStart p =
      (m.image p).bytes := by
  refine Vector.ext fun i hi => ?_
  rw [getElem_store _ _ _ hi, getElem_store _ _ _ hi, image, Vector.getElem_ofFn,
    m.byte_eq_getElem hi, List.length_replicate]
  dsimp only [programStart, capacity, size]
  by_cases h : i < 0x200
  · rw [if_neg (by omega), if_neg (by omega), if_pos h]
  · rw [if_neg h]
    by_cases hp : i < 0x200 + p.length
    · rw [if_pos (by omega)]
    · rw [if_neg (by omega), if_pos (by omega), List.getD_replicate _ (by omega),
        List.getD_eq_default _ _ (by omega)]

lemma run_load (m : Memory) (p : List UInt8) : (load p).run m =
    if p = [] then .error .empty m
    else if 3584 < p.length then .error (.tooLarge p.length) m
    else .ok () (m.image p) := by
  unfold load
  by_cases hp : p = []
  · rw [hp]
    rfl
  · have hne : p.isEmpty = false := by simpa using hp
    rw [if_neg hp, hne]
    by_cases hn : 3584 < p.length
    · rw [if_pos hn, if_pos (show p.length > capacity from hn)]
      rfl
    · rw [if_neg hn, if_neg (show ¬ p.length > capacity from hn)]
      simp only [Bool.false_eq_true, if_false, EStateM.run_bind, EStateM.run_modify,
        store_replicate_store]
      rfl

lemma load_eq_ok_iff : (load p).run m = .ok () t ↔
    p ≠ [] ∧ p.length ≤ 3584 ∧ t = m.image p := by
  rw [run_load]
  split_ifs with hp hn
  · simp [hp]
  · simp [Nat.not_le_of_lt hn]
  · simp [hp, Nat.le_of_not_lt hn, eq_comm]

/-- A load that is refused changes nothing. -/
lemma eq_of_load_error {e : LoadError} (h : (load p).run m = .error e t) : t = m := by
  rw [run_load] at h
  split_ifs at h <;> cases h <;> rfl

lemma load_accepted (m : Memory) (hp : p ≠ []) (hn : p.length ≤ 3584) :
    ∃ t, (load p).run m = .ok () t :=
  ⟨_, load_eq_ok_iff.mpr ⟨hp, hn, rfl⟩⟩

lemma byte_of_load (h : (load p).run m = .ok () t) {i : Nat} (hi : i < 4096) :
    t.byte i = if i < 0x200 then m.byte i else p.getD (i - 0x200) 0 := by
  obtain ⟨-, -, rfl⟩ := load_eq_ok_iff.mp h
  rw [byte_eq_getElem _ hi, image, Vector.getElem_ofFn]

lemma isLoaded_of_load (h : (load p).run m = .ok () t) : t.isLoaded := by
  obtain ⟨-, -, rfl⟩ := load_eq_ok_iff.mp h
  rfl

/-- The words of a program that has just been loaded. -/
lemma fetch_of_load (h : (load p).run m = .ok () t) (h₁ : 0x200 ≤ a.toNat)
    (h₂ : a.toNat + 2 ≤ 4096) : t.fetch a =
      .ok (Word.ofBytes (p.getD (a.toNat - 0x200) 0) (p.getD (a.toNat + 1 - 0x200) 0)) := by
  rw [fetch_eq_ok_iff, checkWritable_eq_ok_iff, byte_of_load h (by omega),
    byte_of_load h (by omega), if_neg (by omega), if_neg (by omega)]
  exact ⟨⟨isLoaded_of_load h, h₁, h₂⟩, rfl⟩

end Chip8.Memory
