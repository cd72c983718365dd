import Chip8.Proofs.Reserved
import Mathlib.Data.List.Induction

/-!
What stands in the program region: the image of the last load, and on top of it whatever was
written since then.

Of a history only those accesses count that were not refused. Bytes, words and the listing of the
program are three views of the same contents.
-/

namespace Chip8.Memory

/-- The access is not refused. -/
def accepts (m : Memory) : Action → Bool
  | .load program => (state? (load program) m).isSome
  | .write a b => (state? (write a b) m).isSome
  | .writeBlock a data => (state? (writeBlock a data) m).isSome
  | .read a => (m.read a).isOk
  | .readBlock a n => (m.readBlock a n).isOk
  | .fetch a => (m.fetch a).isOk

/-- The accesses of a history that are not refused. -/
def accepted (m : Memory) : List Action → List Action
  | [] => []
  | a :: as => (if m.accepts a then [a] else []) ++ (m.act a).accepted as

/-- The byte at address `i` of a block that begins at address `a`. -/
def placed? (a : UInt16) (data : List UInt8) (i : Nat) : Option UInt8 :=
  if a.toNat ≤ i then data[i - a.toNat]? else none

/-- The byte that an access writes to address `i`. -/
def Action.written? (i : Nat) : Action → Option UInt8
  | .write a b => placed? a [b] i
  | .writeBlock a data => placed? a data i
  | _ => none

/-- The byte that was written to address `i` last. -/
def lastWritten? (writes : List Action) (i : Nat) : Option UInt8 :=
  writes.reverse.findSome? (Action.written? i)

/-- No program was loaded. -/
def NoLoad (log : List Action) : Prop := ∀ p, .load p ∉ log

/-- The program region holds image `p`, zeros after it, and the writes on top of them. -/
structure Holds (p : List UInt8) (writes : List Action) (m : Memory) : Prop where
  programSize : m.programSize = some p.length
  length_le : p.length ≤ 3584
  byte {i : Nat} (h₁ : 0x200 ≤ i) (h₂ : i < 4096) :
    m.byte i = (lastWritten? writes i).getD (p.getD (i - 0x200) 0)

/-- The memory holds what the log says: nothing, or the last image with the writes after it. -/
inductive Recorded (log : List Action) (m : Memory) : Prop where
  | nothing (log_noLoad : NoLoad log) (programSize : m.programSize = none)
  | image (earlier : List Action) (p : List UInt8) (later : List Action)
    (log_eq : log = earlier ++ .load p :: later) (later_noLoad : NoLoad later)
    (holds : Holds p later m)

/-- Whichever way the memory is read, it shows image `p` and the writes on top of it. -/
structure Shows (p : List UInt8) (writes : List Action) (m : Memory) : Prop where
  isLoaded : m.isLoaded = true
  read (a : UInt16) (h₁ : 0x200 ≤ a.toNat) (h₂ : a.toNat ≤ 0xFFF) :
    m.read a = .ok ((lastWritten? writes a.toNat).getD (p.getD (a.toNat - 0x200) 0))
  fetch (a : UInt16) (h₁ : 0x200 ≤ a.toNat) (h₂ : a.toNat ≤ 0xFFE) : ∃ hi lo w,
    m.read a = .ok hi ∧ m.read (a + 1) = .ok lo ∧ m.fetch a = .ok w ∧
      w.toNat = 256 * hi.toNat + lo.toNat
  program : m.program.map .ok = (List.range p.length).map fun i => m.read (.ofNat (0x200 + i))

variable {m t : Memory} {a : Action} {p : List UInt8} {writes : List Action} {i : Nat}

/-! ### Accesses that are refused -/

lemma act_of_refused (h : m.accepts a = false) : m.act a = m := by
  cases a with
  | load q =>
    obtain ⟨e, he⟩ := run_of_eq_none (Option.not_isSome_iff_eq_none.mp (Bool.eq_false_iff.mp h))
    exact eq_of_load_error he
  | write | writeBlock =>
    obtain ⟨e, he⟩ := run_of_eq_none (Option.not_isSome_iff_eq_none.mp (Bool.eq_false_iff.mp h))
    exact (writeBlock_refused_iff.mp he).1
  | read | readBlock | fetch => rfl

/-- Without the accesses that are refused, a history comes to the same. -/
lemma after_accepted (m : Memory) (history : List Action) :
    m.after (m.accepted history) = m.after history := by
  induction history generalizing m with
  | nil => rfl
  | cons a as ih =>
    rw [accepted, after_append, after_cons]
    cases h : m.accepts a
    · have hm := act_of_refused h
      rw [hm]
      exact ih m
    · exact ih (m.act a)

lemma accepted_concat (m : Memory) (history : List Action) (a : Action) :
    m.accepted (history ++ [a]) =
      m.accepted history ++ if (m.after history).accepts a then [a] else [] := by
  induction history generalizing m with
  | nil => exact List.append_nil _
  | cons b bs ih => rw [List.cons_append, accepted, accepted, ih, after_cons, List.append_assoc]

/-! ### Writes -/

@[simp] lemma lastWritten?_nil (i : Nat) : lastWritten? [] i = none := rfl

lemma lastWritten?_concat (writes : List Action) (a : Action) (i : Nat) :
    lastWritten? (writes ++ [a]) i = (a.written? i).or (lastWritten? writes i) := by
  rw [lastWritten?, List.reverse_append, List.reverse_singleton, List.singleton_append,
    List.findSome?_cons]
  cases a.written? i <;> rfl

/-- A write puts its bytes in place, and leaves the others. -/
lemma byte_of_placed {a : UInt16} {data : List UInt8} (h : (writeBlock a data).run m = .ok () t)
    (i : Nat) : t.byte i = (placed? a data i).getD (m.byte i) := by
  rw [byte_of_writeBlock h, placed?]
  by_cases ha : a.toNat ≤ i
  · rw [if_pos ha]
    by_cases hi : i < a.toNat + data.length
    · have hdata : i - a.toNat < data.length := by omega
      rw [if_pos ⟨ha, hi⟩, List.getD_eq_getElem?_getD, List.getElem?_eq_getElem hdata,
        Option.getD_some, Option.getD_some]
    · rw [if_neg (fun h => hi h.2), List.getElem?_eq_none (by omega), Option.getD_none]
  · rw [if_neg (fun h => ha h.1), if_neg ha, Option.getD_none]

/-- An access that is no load writes nothing, or a block. -/
lemma act_of_accepted (h : m.accepts a) (ha : ∀ q, a ≠ .load q) :
    (m.act a = m ∧ ∀ i, a.written? i = none) ∨
    ∃ b data, (writeBlock b data).run m = .ok () (m.act a) ∧
      ∀ i, a.written? i = placed? b data i := by
  cases a with
  | load q => exact absurd rfl (ha q)
  | write b v => exact .inr ⟨b, [v], run_of_isSome h, fun _ => rfl⟩
  | writeBlock b data => exact .inr ⟨b, data, run_of_isSome h, fun _ => rfl⟩
  | read | readBlock | fetch => exact .inl ⟨rfl, fun _ => rfl⟩

lemma byte_act (h : m.accepts a) (ha : ∀ q, a ≠ .load q) (i : Nat) :
    (m.act a).byte i = (a.written? i).getD (m.byte i) := by
  rcases act_of_accepted h ha with ⟨hm, hnone⟩ | ⟨b, data, hm, hdata⟩
  · rw [hm, hnone, Option.getD_none]
  · rw [byte_of_placed hm, hdata]

/-- Only a load sets the size of the program. -/
lemma programSize_act (h : m.accepts a) (ha : ∀ q, a ≠ .load q) :
    (m.act a).programSize = m.programSize := by
  rcases act_of_accepted h ha with ⟨hm, -⟩ | ⟨b, data, hm, -⟩
  · rw [hm]
  · obtain ⟨-, ht⟩ := writeBlock_eq_ok_iff.mp hm
    rw [ht]

/-! ### Contents -/

lemma holds_of_load (h : (load p).run m = .ok () t) : Holds p [] t where
  programSize := by
    obtain ⟨-, -, rfl⟩ := load_eq_ok_iff.mp h
    rfl
  length_le := (load_eq_ok_iff.mp h).2.1
  byte h₁ h₂ := by rw [byte_of_load h h₂, if_neg (by omega), lastWritten?_nil, Option.getD_none]

/-- A later write covers an earlier one. -/
lemma Holds.act (h : Holds p writes m) (hok : m.accepts a) (ha : ∀ q, a ≠ .load q) :
    Holds p (writes ++ [a]) (m.act a) where
  programSize := (programSize_act hok ha).trans h.programSize
  length_le := h.length_le
  byte {i} h₁ h₂ := by
    rw [byte_act hok ha, h.byte h₁ h₂, lastWritten?_concat]
    cases a.written? i <;> rfl

lemma Holds.read (h : Holds p writes m) {a : UInt16} (h₁ : 0x200 ≤ a.toNat)
    (h₂ : a.toNat ≤ 0xFFF) : m.read a = .ok (m.byte a.toNat) := by
  have hloaded : m.isLoaded := by rw [isLoaded, h.programSize]; rfl
  exact check_bind_eq_ok_iff.mpr
    ⟨checkReadable_eq_ok_iff.mpr ⟨hloaded, .inr ⟨h₁, by omega⟩⟩, rfl⟩

lemma Holds.shows (h : Holds p writes m) : Shows p writes m where
  isLoaded := by rw [isLoaded, h.programSize]; rfl
  read a h₁ h₂ := by rw [h.read h₁ h₂, h.byte h₁ (by omega)]
  fetch a h₁ h₂ := by
    have hloaded : m.isLoaded := by rw [isLoaded, h.programSize]; rfl
    have hnext : (a + 1).toNat = a.toNat + 1 := by
      simp only [UInt16.toNat_add, UInt16.reduceToNat]
      omega
    refine ⟨m.byte a.toNat, m.byte (a.toNat + 1), _, h.read h₁ (by omega), ?_, ?_,
      Word.toNat_ofBytes _ _⟩
    · rw [h.read (by omega) (by omega), hnext]
    · exact fetch_eq_ok_iff.mpr ⟨checkWritable_eq_ok_iff.mpr ⟨hloaded, h₁, by omega⟩, rfl⟩
  program := by
    rw [program, h.programSize, slice, List.map_map]
    refine List.map_congr_left fun i hi => ?_
    have hlen := h.length_le
    have hi : i < p.length := List.mem_range.mp hi
    have haddr : (UInt16.ofNat (0x200 + i)).toNat = 0x200 + i := by
      rw [UInt16.toNat_ofNat']
      omega
    rw [h.read (by omega) (by omega), haddr]
    rfl

/-! ### Histories -/

lemma NoLoad.concat {log : List Action} (h : NoLoad log) (ha : ∀ q, a ≠ .load q) :
    NoLoad (log ++ [a]) := by
  intro q hq
  rcases List.mem_append.mp hq with hq | hq
  · exact h q hq
  · exact ha q (List.mem_singleton.mp hq).symm

lemma Recorded.act {log : List Action} (h : Recorded log m) (hok : m.accepts a) :
    Recorded (log ++ [a]) (m.act a) := by
  by_cases ha : ∃ p, a = .load p
  · obtain ⟨p, rfl⟩ := ha
    exact .image log p [] rfl nofun (holds_of_load (run_of_isSome hok))
  · have ha (q : List UInt8) : a ≠ .load q := fun hq => ha ⟨q, hq⟩
    cases h with
    | nothing hlog hsize => exact .nothing (hlog.concat ha) ((programSize_act hok ha).trans hsize)
    | image earlier p later hlog hlater hholds =>
      refine .image earlier p (later ++ [a]) ?_ (hlater.concat ha) (hholds.act hok ha)
      rw [hlog, List.append_assoc, List.cons_append]

lemma recorded_after (history : List Action) :
    Recorded (blank.accepted history) (blank.after history) := by
  induction history using List.reverseRecOn with
  | nil => exact .nothing nofun rfl
  | append_singleton history a ih =>
    rw [accepted_concat, after_append, after_cons, after_nil]
    cases h : (blank.after history).accepts a
    · rw [act_of_refused h]
      exact (List.append_nil _).symm ▸ ih
    · exact ih.act h

/-- **Memory is a faithful store.** What was refused leaves no trace. Before the first load there is
no program; after it every address of the program region reads as the byte that was written there
last since the last load, or else as the byte of its image, and words and program are made of these
bytes. -/
theorem reads_last_written (history : List Action) :
    let m := blank.after history
    let log := blank.accepted history
    blank.after log = m ∧
    ((NoLoad log ∧ m.isLoaded = false ∧ m.program = []) ∨
      ∃ earlier p later, log = earlier ++ .load p :: later ∧ NoLoad later ∧ Shows p later m) := by
  intro m log
  refine ⟨after_accepted blank history, ?_⟩
  cases recorded_after history with
  | nothing hlog hsize =>
    refine .inl ⟨hlog, ?_, ?_⟩
    · rw [isLoaded, hsize]
      rfl
    · rw [program, hsize]
      rfl
  | image earlier p later hlog hlater hholds =>
    exact .inr ⟨earlier, p, later, hlog, hlater, hholds.shows⟩

/-- An image is written over twice, with refused accesses in between. -/
def overwrites : List Action :=
  [.write 0x300 1, .load [0xA1, 0xB2, 0xC3], .write 0x201 7, .writeBlock 0xFFF [1, 2], .load [],
    .writeBlock 0x201 [8, 9]]

theorem reads_last_written_overwrites :
    let m := blank.after overwrites
    m.read 0x200 = .ok 0xA1 ∧ m.read 0x201 = .ok 8 ∧ m.read 0x202 = .ok 9 ∧ m.read 0x203 = .ok 0 ∧
      m.read 0xFFF = .ok 0 := by
  intro m
  have hlog : blank.accepted overwrites =
      [.load [0xA1, 0xB2, 0xC3], .write 0x201 7, .writeBlock 0x201 [8, 9]] := rfl
  obtain ⟨-, ⟨hnone, -⟩ | ⟨earlier, p, later, hsplit, -, hshows⟩⟩ := reads_last_written overwrites
  · rw [hlog] at hnone
    exact absurd (List.mem_cons_self ..) (hnone [0xA1, 0xB2, 0xC3])
  · obtain ⟨rfl, rfl⟩ : p = [0xA1, 0xB2, 0xC3] ∧
        later = [.write 0x201 7, .writeBlock 0x201 [8, 9]] := by
      rw [hlog] at hsplit
      rcases earlier with _ | ⟨a, _ | ⟨b, _ | ⟨c, earlier⟩⟩⟩
      · simpa [eq_comm] using hsplit
      all_goals simp at hsplit
    have hread {a : UInt16} (h₁ : 0x200 ≤ a.toNat) (h₂ : a.toNat ≤ 0xFFF) {b : UInt8}
        (hb : (lastWritten? [.write 0x201 7, .writeBlock 0x201 [8, 9]] a.toNat).getD
          ([0xA1, 0xB2, 0xC3].getD (a.toNat - 0x200) 0) = b) : m.read a = .ok b :=
      (hshows.read a h₁ h₂).trans (congrArg Except.ok hb)
    exact ⟨hread (by decide) (by decide) (by decide), hread (by decide) (by decide) (by decide),
      hread (by decide) (by decide) (by decide), hread (by decide) (by decide) (by decide),
      hread (by decide) (by decide) (by decide)⟩

end Chip8.Memory
