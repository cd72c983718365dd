import Chip8.Proofs.Contents

/-!
Blocks and single bytes.

Only the two ends of a block are checked. As the readable addresses are two windows with a gap
between them, this is the same as checking each of its bytes. So a block is read or written like its
bytes, one at a time and in any order; but if one of them is refused, a block changes nothing.
-/

namespace Chip8.Memory

/-- The byte that is read at an address, if there is such an address and it may be read. -/
def readAt? (m : Memory) (i : Nat) : Option UInt8 :=
  if i < 65536 then (m.read (.ofNat i)).toOption else none

/-- The memory after a byte is written at an address, if there is such an address and it may be
written. -/
def writeAt? (m : Memory) (i : Nat) (b : UInt8) : Option Memory :=
  if i < 65536 then state? (write (.ofNat i) b) m else none

/-- The memory after bytes are written one after another, each at an address of its own. -/
def writeEach? (m : Memory) (bytes : List (UInt8 × Nat)) : Option Memory :=
  bytes.foldlM (fun t p => t.writeAt? p.2 p.1) m

/-- An address that may be read, among the glyphs or in the program region. -/
def Readable (m : Memory) (i : Nat) : Prop :=
  m.isLoaded ∧ (0x050 ≤ i ∧ i ≤ 0x09F ∨ 0x200 ≤ i ∧ i ≤ 0xFFF)

/-- An address that may be written, in the program region. -/
def Writable (m : Memory) (i : Nat) : Prop := m.isLoaded ∧ 0x200 ≤ i ∧ i ≤ 0xFFF

instance (m : Memory) (i : Nat) : Decidable (m.Readable i) := inferInstanceAs (Decidable (_ ∧ _))

instance (m : Memory) (i : Nat) : Decidable (m.Writable i) := inferInstanceAs (Decidable (_ ∧ _))

variable {m t : Memory} {a : UInt16} {n i : Nat} {b : UInt8} {data : List UInt8}

/-! ### Single bytes -/

lemma toNat_address (h : i < 65536) : (UInt16.ofNat i).toNat = i := by
  rw [UInt16.toNat_ofNat', Nat.mod_eq_of_lt h]

lemma isOk_check_bind {α : Type} {check : Except MemoryError Unit} {v : α} :
    (do check; return v : Except MemoryError α).isOk ↔ check = .ok () := by
  cases check with
  | error e => exact ⟨nofun, nofun⟩
  | ok u => exact ⟨fun _ => rfl, fun _ => rfl⟩

lemma toOption_check_bind {α : Type} {check : Except MemoryError Unit} {v : α} {P : Prop}
    [Decidable P] (h : check = .ok () ↔ P) :
    (do check; return v : Except MemoryError α).toOption = if P then some v else none := by
  rcases check with e | ⟨⟩
  · rw [if_neg fun hP => nomatch h.mpr hP]
    rfl
  · rw [if_pos (h.mp rfl)]
    rfl

lemma state?_writeBlock {P : Prop} [Decidable P]
    (h : m.checkWritable a data.length = .ok () ↔ P) : state? (writeBlock a data) m =
      if P then some { m with bytes := store m.bytes a.toNat data } else none := by
  rw [state?, run_writeBlock]
  rcases hcheck : m.checkWritable a data.length with e | ⟨⟩
  · rw [hcheck] at h
    simp [← h]
  · rw [if_pos (h.mp hcheck)]

lemma isSome_state?_writeBlock :
    (state? (writeBlock a data) m).isSome ↔ m.checkWritable a data.length = .ok () := by
  rw [state?, run_writeBlock]
  cases m.checkWritable a data.length <;> simp

lemma readAt?_eq (m : Memory) (i : Nat) :
    m.readAt? i = if m.Readable i then some (m.byte i) else none := by
  by_cases hi : i < 65536
  · have hcheck : m.checkReadable (.ofNat i) 1 = .ok () ↔ m.Readable i := by
      rw [checkReadable_eq_ok_iff, toNat_address hi]
      exact and_congr_right fun _ => by omega
    rw [readAt?, if_pos hi, read, toOption_check_bind hcheck, toNat_address hi]
  · have hout : ¬ m.Readable i := fun h => by
      have := h.2
      omega
    rw [readAt?, if_neg hi, if_neg hout]

lemma writeAt?_eq (m : Memory) (i : Nat) (b : UInt8) : m.writeAt? i b =
    if m.Writable i then some { m with bytes := m.bytes.setIfInBounds i b } else none := by
  by_cases hi : i < 65536
  · have hcheck : m.checkWritable (.ofNat i) [b].length = .ok () ↔ m.Writable i := by
      rw [checkWritable_eq_ok_iff, toNat_address hi, List.length_singleton]
      exact and_congr_right fun _ => by omega
    rw [writeAt?, if_pos hi, write, state?_writeBlock hcheck, toNat_address hi, store_cons,
      store_nil]
  · have hout : ¬ m.Writable i := fun h => by
      have := h.2
      omega
    rw [writeAt?, if_neg hi, if_neg hout]

lemma isSome_readAt? : (m.readAt? i).isSome ↔ m.Readable i := by
  rw [readAt?_eq]
  split <;> simp [*]

lemma isSome_writeAt? : (m.writeAt? i b).isSome ↔ m.Writable i := by
  rw [writeAt?_eq]
  split <;> simp [*]

/-! ### The ends of a block -/

/-- A block cannot reach from one window into the other. -/
lemma checkReadable_iff_forall (hn : 0 < n) :
    m.checkReadable a n = .ok () ↔ ∀ i < n, m.Readable (a.toNat + i) := by
  rw [checkReadable_eq_ok_iff]
  constructor
  · intro h i hi
    exact ⟨h.1, by omega⟩
  · intro h
    have hfirst := (h 0 hn).2
    refine ⟨(h 0 hn).1, ?_⟩
    rcases Nat.lt_or_ge a.toNat 0x0A0 with hlow | hhigh
    · -- the first address behind the glyphs is not in the block
      refine .inl ⟨by omega, Nat.le_of_not_lt fun hlong => ?_⟩
      have := (h (0x0A0 - a.toNat) (by omega)).2
      omega
    · have hlast := (h (n - 1) (by omega)).2
      omega

lemma checkWritable_iff_forall (hn : 0 < n) :
    m.checkWritable a n = .ok () ↔ ∀ i < n, m.Writable (a.toNat + i) := by
  rw [checkWritable_eq_ok_iff]
  constructor
  · intro h i hi
    exact ⟨h.1, by omega⟩
  · intro h
    have hfirst := h 0 hn
    have hlast := h (n - 1) (by omega)
    exact ⟨hfirst.1, by have := hfirst.2; have := hlast.2; omega⟩

/-! ### Bytes one after another -/

lemma forall_mem_zipIdx {P : Nat → Prop} {k : Nat} :
    (∀ p ∈ data.zipIdx k, P p.2) ↔ ∀ i < data.length, P (k + i) := by
  constructor
  · intro h i hi
    exact h (data[i], k + i) (List.mk_add_mem_zipIdx_iff_getElem?.mpr (List.getElem?_eq_getElem hi))
  · intro h p hp
    obtain ⟨hle, hlt, -⟩ := List.mem_zipIdx hp
    have := h (p.2 - k) (by omega)
    rwa [Nat.add_sub_cancel' hle] at this

lemma store_eq_foldl (bytes : Vector UInt8 4096) (k : Nat) (data : List UInt8) :
    store bytes k data = (data.zipIdx k).foldl (fun t p => t.setIfInBounds p.2 p.1) bytes := by
  induction data generalizing bytes k with
  | nil => rfl
  | cons b rest ih => rw [store_cons, ih, List.zipIdx_cons, List.foldl_cons]

/-- Whether an address may be written does not depend on what was written before. -/
lemma writeEach?_eq (m : Memory) (bytes : List (UInt8 × Nat)) : m.writeEach? bytes =
    if ∀ p ∈ bytes, m.Writable p.2 then
      some { m with bytes := bytes.foldl (fun t p => t.setIfInBounds p.2 p.1) m.bytes }
    else none := by
  induction bytes generalizing m with
  | nil => simp [writeEach?]
  | cons p rest ih =>
    rw [writeEach?, List.foldlM_cons, writeAt?_eq]
    simp only [List.forall_mem_cons]
    by_cases hp : m.Writable p.2
    · rw [if_pos hp]
      change writeEach? { m with bytes := m.bytes.setIfInBounds p.2 p.1 } rest = _
      rw [ih]
      simp only [hp, true_and]
      rfl
    · rw [if_neg hp, if_neg fun h => hp h.1]
      rfl

/-- The bytes of a block stand at different addresses, so their order does not matter. -/
lemma foldl_setIfInBounds_of_perm {order : List (UInt8 × Nat)} {k : Nat}
    (h : order.Perm (data.zipIdx k)) (bytes : Vector UInt8 4096) :
    order.foldl (fun t p => t.setIfInBounds p.2 p.1) bytes =
      (data.zipIdx k).foldl (fun t p => t.setIfInBounds p.2 p.1) bytes := by
  refine h.foldl_eq' (fun p hp q hq t => ?_) bytes
  by_cases hpq : p.2 = q.2
  · have heq : p = q := by
      have hp := List.mem_zipIdx (h.mem_iff.mp hp)
      have hq := List.mem_zipIdx (h.mem_iff.mp hq)
      refine Prod.ext ?_ hpq
      rw [hp.2.2, hq.2.2]
      simp only [hpq]
    rw [heq]
  · refine Vector.ext fun i hi => ?_
    simp only [Vector.getElem_setIfInBounds]
    by_cases h₁ : p.2 = i
    · rw [if_pos h₁, if_neg fun h₂ => hpq (h₁.trans h₂.symm), if_pos h₁]
    · rw [if_neg h₁, if_neg h₁]

/-- A block is written like its bytes, in any order. -/
lemma state?_writeBlock_of_perm (hdata : data ≠ []) {order : List (UInt8 × Nat)}
    (h : order.Perm (data.zipIdx a.toNat)) :
    state? (writeBlock a data) m = m.writeEach? order := by
  have hwritable : m.checkWritable a data.length = .ok () ↔ ∀ p ∈ order, m.Writable p.2 := by
    rw [checkWritable_iff_forall (List.length_pos_iff.mpr hdata)]
    simp only [h.mem_iff, forall_mem_zipIdx]
  rw [state?_writeBlock hwritable, writeEach?_eq, foldl_setIfInBounds_of_perm h, store_eq_foldl]

/-- **Blocks agree with bytes.** A block may be read or written exactly if each of its bytes may be,
and then it is the same as doing it byte by byte. A block without bytes is allowed wherever one of
the windows begins, goes on or ends. -/
theorem blocks_agree_with_bytes (m : Memory) (a : UInt16) :
    -- reading
    (∀ n, 0 < n →
      ((m.readBlock a n).isOk ↔ ∀ i < n, (m.readAt? (a.toNat + i)).isSome) ∧
      ∀ bytes, m.readBlock a n = .ok bytes →
        bytes.map some = (List.range n).map fun i => m.readAt? (a.toNat + i)) ∧
    -- writing, where the order stands for any order of the bytes
    (∀ data, data ≠ [] →
      ((state? (writeBlock a data) m).isSome ↔
        ∀ p ∈ data.zipIdx a.toNat, (m.writeAt? p.2 p.1).isSome) ∧
      (∀ order, order.Perm (data.zipIdx a.toNat) →
        state? (writeBlock a data) m = m.writeEach? order) ∧
      (state? (writeBlock a data) m = none → m.act (.writeBlock a data) = m)) ∧
    -- fetching
    ((m.fetch a).isOk ↔
      ∀ b, (m.writeAt? a.toNat b).isSome ∧ (m.writeAt? (a.toNat + 1) b).isSome) ∧
    -- blocks without bytes
    (m.isLoaded →
      ((m.readBlock a 0).isOk ↔
        0x050 ≤ a.toNat ∧ a.toNat ≤ 0x0A0 ∨ 0x200 ≤ a.toNat ∧ a.toNat ≤ 0x1000) ∧
      ((state? (writeBlock a []) m).isSome ↔ 0x200 ≤ a.toNat ∧ a.toNat ≤ 0x1000) ∧
      m.act (.writeBlock a []) = m) := by
  refine ⟨fun n hn => ⟨?_, fun bytes hbytes => ?_⟩,
    fun data hdata => ⟨?_, fun order horder => ?_, fun hrefused => ?_⟩, ?_, fun hl => ⟨?_, ?_, ?_⟩⟩
  · rw [readBlock, isOk_check_bind, checkReadable_iff_forall hn]
    simp only [isSome_readAt?]
  · obtain ⟨hcheck, rfl⟩ := readBlock_eq_ok_iff.mp hbytes
    rw [checkReadable_iff_forall hn] at hcheck
    rw [slice, List.map_map]
    refine List.map_congr_left fun i hi => ?_
    rw [readAt?_eq, if_pos (hcheck i (List.mem_range.mp hi))]
    rfl
  · rw [isSome_state?_writeBlock, checkWritable_iff_forall (List.length_pos_iff.mpr hdata)]
    simp only [isSome_writeAt?, forall_mem_zipIdx]
  · exact state?_writeBlock_of_perm hdata horder
  · obtain ⟨e, he⟩ := run_of_eq_none hrefused
    exact (writeBlock_refused_iff.mp he).1
  · rw [fetch, isOk_check_bind, checkWritable_iff_forall (by decide)]
    simp only [isSome_writeAt?, forall_const, Nat.forall_lt_succ_right]
    simp
  · rw [readBlock, isOk_check_bind, checkReadable_eq_ok_iff, and_iff_right hl, Nat.add_zero]
  · rw [isSome_state?_writeBlock, checkWritable_eq_ok_iff, and_iff_right hl]
    rfl
  · rcases m.state_writeBlock a [] with h | h
    · exact h
    · exact (writeBlock_eq_ok_iff.mp h).2

/-- Blocks at the end of memory and behind the glyphs. The one that does not fit would begin with a
byte that may be written. -/
theorem blocks_agree_with_bytes_end : ∃ m t : Memory, (load [0xA1]).run blank = .ok () m ∧
    (writeBlock 0xFFE [1, 2]).run m = .ok () t ∧ m.writeEach? [(2, 0xFFF), (1, 0xFFE)] = some t ∧
    (m.writeAt? 0xFFF 1).isSome ∧ m.act (.writeBlock 0xFFF [1, 2]) = m ∧
    (m.readBlock 0x09F 2).isOk = false ∧ (m.readBlock 0x0A0 0).isOk := by
  obtain ⟨m, hm⟩ := load_accepted (m := blank) (p := [0xA1]) (by decide) (by decide)
  have hwritable {i : Nat} {b : UInt8} (h : 0x200 ≤ i ∧ i ≤ 0xFFF) : (m.writeAt? i b).isSome :=
    isSome_writeAt?.mpr ⟨isLoaded_of_load hm, h⟩
  obtain ⟨-, hwrites, -⟩ := blocks_agree_with_bytes m 0xFFE
  obtain ⟨hfits, heach, -⟩ := hwrites [1, 2] (by decide)
  obtain ⟨-, hwrites', -⟩ := blocks_agree_with_bytes m 0xFFF
  obtain ⟨hpast, -, hkeeps⟩ := hwrites' [1, 2] (by decide)
  obtain ⟨hreads, -⟩ := blocks_agree_with_bytes m 0x09F
  obtain ⟨-, -, -, hempty⟩ := blocks_agree_with_bytes m 0x0A0
  have hok : (state? (writeBlock 0xFFE [1, 2]) m).isSome := by
    refine hfits.mpr fun p hp => hwritable ?_
    obtain ⟨hfirst, hlast, -⟩ := List.mem_zipIdx hp
    simp at hfirst hlast
    omega
  obtain ⟨t, ht⟩ : ∃ t, (writeBlock 0xFFE [1, 2]).run m = .ok () t := ⟨_, run_of_isSome hok⟩
  have hrefused : state? (writeBlock 0xFFF [1, 2]) m = none := by
    refine Option.not_isSome_iff_eq_none.mp fun h => ?_
    have := (isSome_writeAt?.mp (hpast.mp h (2, 0x1000) (by decide))).2
    omega
  have hbehind : (m.readBlock 0x09F 2).isOk = false := by
    refine Bool.eq_false_iff.mpr fun h => ?_
    have := (isSome_readAt?.mp (((hreads 2 (by decide)).1.mp h) 1 (by decide))).2
    simp at this
  refine ⟨m, t, hm, ht, ?_, hwritable (by decide), hkeeps hrefused, hbehind, ?_⟩
  · rw [← heach [(2, 0xFFF), (1, 0xFFE)] (.swap ..), state?_of_ok ht]
  · exact (hempty (isLoaded_of_load hm)).1.mpr (by decide)

end Chip8.Memory
