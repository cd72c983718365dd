import Chip8.Keypad.Handles
import Mathlib.Data.List.GetD
import Mathlib.Data.List.Induction
import Mathlib.Tactic.Lemma

/-!
What is seen of a keypad in several hands.

A change that affects a key puts it down or up, whatever was before. So the latest of these changes
decides, through whichever handle it was made and through whichever handle one looks. Changes made
through a handle for another keypad do not count.
-/

namespace Chip8

namespace Keypad

/-- What a change does to key `k`, if it affects it: whether the key is down then. -/
def Change.sets? (k : Nibble) : Change → Option Bool
  | press j => if key j = k then some true else none
  | release j => if key j = k then some false else none
  | releaseAll => some false
  | store keys => some (keys.keys.get k)

/-- The latest of the changes that affect key `k` puts it down. -/
def LeftDown (k : Nibble) (changes : List Change) : Prop :=
  (changes.filterMap (Change.sets? k)).getLast? = some true

instance (k : Nibble) (changes : List Change) : Decidable (LeftDown k changes) :=
  inferInstanceAs (Decidable (_ = _))

variable {p : Keypad} {k : Nibble}

lemma get_change (p : Keypad) (c : Change) (k : Nibble) :
    (p.change c).keys.get k = (c.sets? k).getD (p.keys.get k) := by
  cases c with
  | press j =>
    rw [change, press, Bank.get_set, Change.sets?]
    split <;> rfl
  | release j =>
    rw [change, release, Bank.get_set, Change.sets?]
    split <;> rfl
  | releaseAll => exact Bank.get_replicate false k
  | store keys => rfl

lemma get_foldl_change (p : Keypad) (changes : List Change) (k : Nibble) :
    (changes.foldl change p).keys.get k =
      (changes.filterMap (Change.sets? k)).getLast?.getD (p.keys.get k) := by
  induction changes using List.reverseRecOn with
  | nil => rfl
  | append_singleton changes c ih =>
    rw [List.foldl_append, List.foldl_cons, List.foldl_nil, get_change, ih, List.filterMap_append,
      List.getLast?_append, List.filterMap_cons]
    cases c.sets? k <;> rfl

/-- On a keypad that was new, a key is down if it was left down. -/
lemma get_foldl_change_idle {changes : List Change} :
    (changes.foldl change idle).keys.get k = true ↔ LeftDown k changes := by
  rw [get_foldl_change, LeftDown, idle, Bank.get_replicate]
  cases (changes.filterMap (Change.sets? k)).getLast? <;> simp

end Keypad

namespace Keypads

open Keypad

/-- What can be done with keypads and handles. -/
inductive Event where
  | create
  | copy (handle : Nat)
  | change (handle : Nat) (change : Keypad.Change)
deriving DecidableEq

def act (s : Keypads) : Event → Keypads
  | .create => s.create
  | .copy h => s.copy h
  | .change h c => s.change h c

/-- The keypads after a history. -/
def after (s : Keypads) (history : List Event) : Keypads := history.foldl act s

/-- What an event does to keypad `p`. -/
def changed (s : Keypads) (p : Nat) : Event → List Change
  | .change h c => if s.handles[h]? = some p then [c] else []
  | _ => []

/-- What a history does to keypad `p`, in order. -/
def changes (s : Keypads) (p : Nat) : List Event → List Change
  | [] => []
  | e :: es => s.changed p e ++ (s.act e).changes p es

variable {s : Keypads} {h p : Nat}

@[simp] lemma after_cons (s : Keypads) (e : Event) (es : List Event) :
    s.after (e :: es) = (s.act e).after es := rfl

@[simp] lemma changes_cons (s : Keypads) (p : Nat) (e : Event) (es : List Event) :
    s.changes p (e :: es) = s.changed p e ++ (s.act e).changes p es := rfl

lemma read_eq (hp : s.handles[h]? = some p) : s.read h = s.pads.getD p .idle := by
  rw [read, hp]

/-- A keypad that is yet to come counts as new. -/
lemma pads_act (s : Keypads) (p : Nat) (e : Event) :
    (s.act e).pads.getD p .idle = (s.changed p e).foldl Keypad.change (s.pads.getD p .idle) := by
  cases e with
  | create =>
    have hnew : (s.pads ++ [idle]).getD p .idle = s.pads.getD p .idle := by grind
    exact hnew
  | copy h => rfl
  | change h c =>
    rcases hh : s.handles[h]? with _ | q
    · simp [act, Keypads.change, changed, hh]
    · have hq : q < s.pads.length := s.handles_lt q (List.mem_of_getElem? hh)
      by_cases hqp : q = p
      · subst hqp
        simp [act, Keypads.change, changed, hh, hq]
      · simp [act, Keypads.change, changed, hh, hqp]

lemma pads_after (s : Keypads) (p : Nat) (history : List Event) :
    (s.after history).pads.getD p .idle =
      (s.changes p history).foldl Keypad.change (s.pads.getD p .idle) := by
  induction history generalizing s with
  | nil => rfl
  | cons e es ih => rw [after_cons, ih, pads_act, changes_cons, List.foldl_append]

/-- Through any handle for keypad `p`, a key is down if the changes of the keypad left it down. -/
lemma get_read_after (history : List Event) (hp : (single.after history).handles[h]? = some p)
    (k : Nibble) : ((single.after history).read h).keys.get k = true ↔
      LeftDown k (single.changes p history) := by
  have hnew : single.pads.getD p .idle = .idle := by
    cases p <;> rfl
  rw [read_eq hp, pads_after, hnew, get_foldl_change_idle]

/-- A handle stays for the same keypad. -/
lemma handles_act (e : Event) (hp : s.handles[h]? = some p) : (s.act e).handles[h]? = some p := by
  have hlt : h < s.handles.length := (List.getElem?_eq_some_iff.mp hp).1
  cases e with
  | create => rw [act, create, List.getElem?_append_left hlt, hp]
  | copy h' => rw [act, copy, List.getElem?_append_left hlt, hp]
  | change h' c => exact hp

lemma handles_after (history : List Event) (hp : s.handles[h]? = some p) :
    (s.after history).handles[h]? = some p := by
  induction history generalizing s with
  | nil => exact hp
  | cons e es ih => exact ih (handles_act e hp)

/-- Storing what is there changes nothing. -/
lemma change_store_read (s : Keypads) (h : Nat) : s.change h (.store (s.read h)) = s := by
  rcases hh : s.handles[h]? with _ | p
  · simp only [Keypads.change, hh]
  · have hp : p < s.pads.length := s.handles_lt p (List.mem_of_getElem? hh)
    have hstay : s.pads.modify p (fun _ => s.pads.getD p .idle) = s.pads := by
      refine List.ext_getElem (by simp) fun i _ hi => ?_
      rw [List.getElem_modify]
      split
      next hpi => rw [← List.getD_eq_getElem s.pads .idle hi, hpi]
      next => rfl
    simp only [Keypads.change, hh, read, Keypad.change, hstay]

end Keypads

end Chip8
