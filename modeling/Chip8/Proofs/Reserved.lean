import Chip8.Proofs.Footprint

/-!
The memory below the program region, which holds the glyphs: nothing ever changes it.

What can be done to a memory is a history of its own, and all that a history of a machine does to
its memory is such a history.
-/

namespace Chip8

namespace Memory

inductive Action where
  | load (program : List UInt8)
  | write (a : UInt16) (b : UInt8)
  | writeBlock (a : UInt16) (data : List UInt8)
  | read (a : UInt16)
  | readBlock (a : UInt16) (n : Nat)
  | fetch (a : UInt16)
deriving DecidableEq

def act (m : Memory) : Action → Memory
  | .load program => state (load program) m
  | .write a b => state (write a b) m
  | .writeBlock a data => state (writeBlock a data) m
  | .read _ | .readBlock _ _ | .fetch _ => m

/-- The memory after a history. -/
def after (m : Memory) (history : List Action) : Memory := history.foldl act m

@[simp] lemma after_nil (m : Memory) : m.after [] = m := rfl

@[simp] lemma after_cons (m : Memory) (a : Action) (as : List Action) :
    m.after (a :: as) = (m.act a).after as := rfl

lemma after_append (m : Memory) (as bs : List Action) :
    m.after (as ++ bs) = (m.after as).after bs := List.foldl_append

/-- A write comes off, or it is refused and changes nothing. -/
lemma state_writeBlock (m : Memory) (a : UInt16) (data : List UInt8) :
    state (writeBlock a data) m = m ∨
      (writeBlock a data).run m = .ok () (state (writeBlock a data) m) := by
  rcases h : (writeBlock a data).run m with ⟨⟨⟩, t⟩ | ⟨e, t⟩
  · exact .inr (by rw [state_of_ok h])
  · rw [state_of_error h]
    exact .inl (writeBlock_refused_iff.mp h).1

/-- An action changes nothing, or it is a load or a write that was not refused. -/
lemma act_cases (m : Memory) (a : Action) : m.act a = m ∨
    (∃ p, (load p).run m = .ok () (m.act a)) ∨
    ∃ b data, (writeBlock b data).run m = .ok () (m.act a) := by
  cases a with
  | load p =>
    rcases h : (load p).run m with ⟨⟨⟩, t⟩ | ⟨e, t⟩
    · exact .inr (.inl ⟨p, by rw [act, state_of_ok h, h]⟩)
    · exact .inl ((state_of_error h).trans (eq_of_load_error h))
  | write b v => exact (m.state_writeBlock b [v]).imp_right fun h => .inr ⟨b, [v], h⟩
  | writeBlock b data => exact (m.state_writeBlock b data).imp_right fun h => .inr ⟨b, data, h⟩
  | read | readBlock | fetch => exact .inl rfl

/-! ### The reserved area -/

/-- The glyphs, with zeros around them. -/
def reservedByte (i : Nat) : UInt8 :=
  if 0x050 ≤ i ∧ i < 0x0A0 then Font.glyphs.toList.getD (i - 0x050) 0 else 0

/-- The bytes below the program region are as they were at first. -/
def Pristine (m : Memory) : Prop := ∀ i < 0x200, m.byte i = reservedByte i

variable {m t : Memory}

lemma pristine_blank : Pristine blank := by
  intro i hi
  rw [byte_eq_getElem _ (by omega), blank, Vector.getElem_ofFn, reservedByte]
  simp

lemma Pristine.of_load {p : List UInt8} (hm : Pristine m) (h : (load p).run m = .ok () t) :
    Pristine t := by
  intro i hi
  rw [byte_of_load h (by omega), if_pos hi, hm i hi]

/-- A block that may be written begins in the program region, and so it ends there. -/
lemma Pristine.of_writeBlock {a : UInt16} {data : List UInt8} (hm : Pristine m)
    (h : (writeBlock a data).run m = .ok () t) : Pristine t := by
  intro i hi
  obtain ⟨-, hstart, -⟩ := checkWritable_eq_ok_iff.mp (writeBlock_eq_ok_iff.mp h).1
  rw [byte_of_writeBlock h, if_neg (by omega), hm i hi]

lemma Pristine.act (hm : Pristine m) (a : Action) : Pristine (m.act a) := by
  rcases act_cases m a with h | ⟨p, h⟩ | ⟨b, data, h⟩
  · rw [h]
    exact hm
  · exact hm.of_load h
  · exact hm.of_writeBlock h

lemma Pristine.after (hm : Pristine m) (history : List Action) : Pristine (m.after history) := by
  induction history generalizing m with
  | nil => exact hm
  | cons a as ih => exact ih (hm.act a)

/-- A write that begins below the program region is refused. -/
lemma writeBlock_refused {a : UInt16} (data : List UInt8) (h : a.toNat < 0x200) :
    ∃ e, (writeBlock a data).run m = .error e m := by
  rcases hw : (writeBlock a data).run m with ⟨⟨⟩, t⟩ | ⟨e, t⟩
  · obtain ⟨-, hstart, -⟩ := checkWritable_eq_ok_iff.mp (writeBlock_eq_ok_iff.mp hw).1
    omega
  · obtain ⟨rfl, -⟩ := writeBlock_refused_iff.mp hw
    exact ⟨e, rfl⟩

lemma fetch_refused {a : UInt16} (h : a.toNat < 0x200) : ∃ e, m.fetch a = .error e := by
  rcases hw : m.fetch a with e | w
  · exact ⟨e, rfl⟩
  · obtain ⟨-, hstart, -⟩ := checkWritable_eq_ok_iff.mp (fetch_eq_ok_iff.mp hw).1
    omega

end Memory

/-! ### The memory of a machine -/

namespace Machine

variable {m t : Machine}

lemma memory_act (m : Machine) (a : Action) :
    ∃ history, (m.act a).memory = m.memory.after history := by
  cases a with
  | load p =>
    rcases act_load m p with ⟨-, ht⟩ | ⟨memory, hm, -, ht⟩
    · exact ⟨[], by rw [ht, Memory.after_nil]⟩
    · refine ⟨[.load p], ?_⟩
      rw [ht, Memory.after_cons, Memory.act, state_of_ok hm]
      rfl
  | step =>
    rcases act_step m with ⟨-, ht⟩ | ht
    · exact ⟨[], by rw [ht, Memory.after_nil]⟩
    · obtain ⟨i, f, u, -, hr, hu⟩ := step_eq_ok_iff.mp ht
      rw [hu, memory_finish]
      rcases hr.memory with ⟨hmem, -⟩ | hmem
      · exact ⟨[], by rw [hmem, Memory.after_nil]⟩
      · refine ⟨[.writeBlock m.index (i.data m)], ?_⟩
        rw [Memory.after_cons, Memory.act, state_of_ok hmem, Memory.after_nil]
  | _ => exact ⟨[], rfl⟩

/-- A machine does to its memory what can be done to any memory. -/
lemma memory_after (m : Machine) (history : List Action) :
    ∃ accesses, (m.after history).memory = m.memory.after accesses := by
  induction history generalizing m with
  | nil => exact ⟨[], rfl⟩
  | cons a as ih =>
    obtain ⟨first, hfirst⟩ := memory_act m a
    obtain ⟨rest, hrest⟩ := ih (m.act a)
    exact ⟨first ++ rest, by rw [after_cons, hrest, hfirst, Memory.after_append]⟩

lemma pristine_after (h : m.memory.Pristine) (history : List Action) :
    (m.after history).memory.Pristine := by
  obtain ⟨accesses, hmem⟩ := memory_after m history
  rw [hmem]
  exact h.after accesses

end Machine

end Chip8
