import Chip8.Terminal.KeyReader
import Mathlib.Data.List.Chain
import Mathlib.Data.List.Induction
import Mathlib.Tactic.Lemma
import Mathlib.Tactic.SplitIfs

/-!
Which keys count as down at a terminal.

Of each key only the last report is remembered. As long as times go on, this is the same as knowing
all reports: a key is down exactly if one of them is recent. So a key that is reported again and
again stays down until its last report has aged.
-/

namespace Chip8

namespace Layout

/-- A character that stands for a key, in lower case or in upper case. -/
def Names (k : Nibble) (c : Char) : Prop := ∃ q, (q, k) ∈ keys ∧ (c = q ∨ c = q.toUpper)

lemma toNat_toLower (c : Char) : c.toLower.toNat =
    if 65 ≤ c.toNat ∧ c.toNat ≤ 90 then c.toNat + 32 else c.toNat := by
  have hrange : c.val ≥ 'A'.val ∧ c.val ≤ 'Z'.val ↔ 65 ≤ c.toNat ∧ c.toNat ≤ 90 := by
    rw [ge_iff_le, UInt32.le_iff_toNat_le, UInt32.le_iff_toNat_le]
    rfl
  unfold Char.toLower
  simp only [hrange]
  split
  next h =>
    have hsum : (c.val + ('a'.val - 'A'.val)).toNat = (c.toNat + 32) % 2 ^ 32 := UInt32.toNat_add ..
    exact hsum.trans (Nat.mod_eq_of_lt (by omega))
  next => rfl

lemma toNat_toUpper (c : Char) : c.toUpper.toNat =
    if 97 ≤ c.toNat ∧ c.toNat ≤ 122 then c.toNat - 32 else c.toNat := by
  have hrange : 'a'.val ≤ c.val ∧ c.val ≤ 'z'.val ↔ 97 ≤ c.toNat ∧ c.toNat ≤ 122 := by
    rw [UInt32.le_iff_toNat_le, UInt32.le_iff_toNat_le]
    rfl
  unfold Char.toUpper
  simp only [hrange]
  split
  next h =>
    have hsum : (c.val + ('A'.val - 'a'.val)).toNat = (c.toNat + 4294967264) % 4294967296 :=
      UInt32.toNat_add ..
    refine hsum.trans ?_
    omega
  next => rfl

lemma toLower_eq_iff {c q : Char} (hq : ¬ (65 ≤ q.toNat ∧ q.toNat ≤ 90)) :
    c.toLower = q ↔ c = q ∨ c = q.toUpper := by
  rw [← Char.toNat_inj, ← Char.toNat_inj, ← Char.toNat_inj, toNat_toLower, toNat_toUpper]
  split_ifs <;> omega

lemma lookup_eq_some_iff_mem {α β : Type} [BEq α] [LawfulBEq α] {l : List (α × β)}
    (h : (l.map Prod.fst).Nodup) {a : α} {b : β} : l.lookup a = some b ↔ (a, b) ∈ l := by
  rw [List.lookup_eq_some_iff]
  constructor
  · rintro ⟨l₁, l₂, rfl, -⟩
    simp
  · intro hmem
    obtain ⟨l₁, l₂, rfl⟩ := List.append_of_mem hmem
    refine ⟨l₁, l₂, rfl, fun p hp => bne_iff_ne.mpr fun heq => ?_⟩
    rw [List.map_append, List.nodup_append] at h
    exact h.2.2 p.1 (List.mem_map_of_mem hp) a (by simp) heq.symm

lemma key?_eq_some_iff {c : Char} {k : Nibble} : key? c = some k ↔ Names k c := by
  have hnodup : (keys.map Prod.fst).Nodup := by decide
  have hlower : ∀ p ∈ keys, ¬ (65 ≤ p.1.toNat ∧ p.1.toNat ≤ 90) := by decide
  rw [key?, lookup_eq_some_iff_mem hnodup]
  constructor
  · intro h
    exact ⟨c.toLower, h, (toLower_eq_iff (hlower _ h)).mp rfl⟩
  · rintro ⟨q, hq, hc⟩
    rwa [(toLower_eq_iff (hlower _ hq)).mpr hc]

end Layout

/-- The event reports key `k`: its character stands for the key, whatever else is held, and it is
not the lower-case `c` with the control key. -/
def KeyEvent.Reports (e : KeyEvent) (k : Nibble) : Prop :=
  ∃ c, e.code = .char c ∧ Layout.Names k c ∧ ¬ (c = 'c' ∧ e.control = true)

namespace KeyEvent

variable {e : KeyEvent} {k k' : Nibble}

lemma asksToQuit_iff :
    e.asksToQuit = true ↔ e.code = .escape ∨ e.code = .char 'c' ∧ e.control = true := by
  simp [asksToQuit]

lemma reports_iff : e.Reports k ↔ e.asksToQuit = false ∧ e.key? = some k := by
  rw [← Bool.not_eq_true, asksToQuit_iff]
  constructor
  · rintro ⟨c, hc, hnames, hquit⟩
    rw [key?, hc]
    refine ⟨?_, Layout.key?_eq_some_iff.mpr hnames⟩
    rintro (h | ⟨h, hcontrol⟩)
    · cases h
    · exact hquit ⟨KeyCode.char.inj h, hcontrol⟩
  · rintro ⟨hquit, hkey⟩
    unfold key? at hkey
    split at hkey
    next c hc =>
      refine ⟨c, hc, Layout.key?_eq_some_iff.mp hkey, ?_⟩
      rintro ⟨rfl, hcontrol⟩
      exact hquit (.inr ⟨hc, hcontrol⟩)
    next => cases hkey

instance (k : Nibble) : DecidablePred (Reports · k) := fun _ => decidable_of_iff _ reports_iff.symm

end KeyEvent

namespace KeyHistory

open KeyEvent

/-- What is remembered after a row of events, each with its time. -/
def after (h : KeyHistory) (events : List (KeyEvent × Nat)) : KeyHistory :=
  events.foldl (fun h p => (h.record p.1 p.2).2) h

/-- The times at which a key was reported, in the order of the events. -/
def reports (k : Nibble) (events : List (KeyEvent × Nat)) : List Nat :=
  (events.filter fun p => p.1.Reports k).map Prod.snd

variable {h : KeyHistory} {e : KeyEvent} {k : Nibble} {events : List (KeyEvent × Nat)} {t s : Nat}

/-! ### One event -/

lemma record_fst (h : KeyHistory) (e : KeyEvent) (t : Nat) :
    (h.record e t).1 = if e.asksToQuit then .quit else .proceed := by
  unfold record
  split
  · rfl
  · split <;> rfl

lemma record_of_not_reports (he : ∀ k, ¬ e.Reports k) : (h.record e t).2 = h := by
  unfold record
  split
  next => rfl
  next hquit =>
    split
    next k hk => exact absurd (reports_iff.mpr ⟨Bool.eq_false_iff.mpr hquit, hk⟩) (he k)
    next => rfl

lemma lastSeen_record (h : KeyHistory) (e : KeyEvent) (t : Nat) (k : Nibble) :
    (h.record e t).2.lastSeen.get k = if e.Reports k then some t else h.lastSeen.get k := by
  by_cases he : ∃ k', e.Reports k'
  · obtain ⟨k', hk'⟩ := he
    obtain ⟨hquit, hkey⟩ := reports_iff.mp hk'
    have hreports : e.Reports k ↔ k' = k := by
      rw [reports_iff, and_iff_right hquit, hkey, Option.some_inj]
    simp only [record, hquit, hkey, hreports, Bool.false_eq_true, if_false, Bank.get_set]
  · rw [not_exists] at he
    rw [record_of_not_reports he, if_neg (he k)]

/-! ### Rows of events -/

lemma reports_append (k : Nibble) (events later : List (KeyEvent × Nat)) :
    reports k (events ++ later) = reports k events ++ reports k later := by
  simp [reports]

lemma mem_reports : s ∈ reports k events ↔ ∃ p ∈ events, p.1.Reports k ∧ p.2 = s := by
  simp [reports, and_assoc]

/-- Of each key the last report is remembered. -/
lemma lastSeen_after (k : Nibble) (events : List (KeyEvent × Nat)) :
    (empty.after events).lastSeen.get k = (reports k events).getLast? := by
  induction events using List.reverseRecOn with
  | nil => exact Bank.get_replicate none k
  | append_singleton events p ih =>
    have hafter : empty.after (events ++ [p]) = ((empty.after events).record p.1 p.2).2 := by
      simp [after]
    rw [hafter, lastSeen_record, ih, reports_append, List.getLast?_append]
    by_cases hp : p.1.Reports k
    · simp [reports, hp]
    · simp [reports, hp]

lemma mem_down_keypad (h : KeyHistory) (t : Nat) (k : Nibble) : k ∈ (h.keypad t).down ↔
    ∃ s, h.lastSeen.get k = some s ∧ t < s + 150000000 := by
  rw [Keypad.mem_down, keypad, Bank.get_ofFn, isDown]
  cases h.lastSeen.get k with
  | none => simp
  | some s =>
    have hage : t - s < hold ↔ t < s + 150000000 := by
      unfold hold
      omega
    simp [hage]

/-- A key is down as long as its last report is recent. -/
lemma mem_down_after (k : Nibble) (events : List (KeyEvent × Nat)) (t : Nat) :
    k ∈ ((empty.after events).keypad t).down ↔
      ∃ s, (reports k events).getLast? = some s ∧ t < s + 150000000 := by
  rw [mem_down_keypad, lastSeen_after]

/-! ### Times in order -/

/-- As long as times go on, no report is later than the last one. -/
lemma le_getLast (horder : events.Pairwise (·.2 ≤ ·.2)) {last : Nat}
    (hlast : (reports k events).getLast? = some last) (hs : s ∈ reports k events) : s ≤ last := by
  have hsorted : (reports k events).Pairwise (· ≤ ·) :=
    List.pairwise_map.mpr (horder.filter _)
  obtain ⟨front, hfront⟩ := List.getLast?_eq_some_iff.mp hlast
  rw [hfront, List.pairwise_append] at hsorted
  rw [hfront, List.mem_append, List.mem_singleton] at hs
  rcases hs with hs | rfl
  · exact hsorted.2.2 s hs last (List.mem_singleton_self _)
  · exact Nat.le_refl _

lemma mem_down_iff_recent (horder : events.Pairwise (·.2 ≤ ·.2)) :
    k ∈ ((empty.after events).keypad t).down ↔ ∃ s ∈ reports k events, t < s + 150000000 := by
  rw [mem_down_after]
  constructor
  · rintro ⟨s, hs, ht⟩
    exact ⟨s, List.mem_of_getLast? hs, ht⟩
  · rintro ⟨s, hs, ht⟩
    have hne : reports k events ≠ [] := List.ne_nil_of_mem hs
    have hlast := List.getLast?_eq_some_getLast hne
    have hle := le_getLast horder hlast hs
    exact ⟨_, hlast, by omega⟩

/-- A key whose reports follow closely on each other does not come up between them. -/
lemma mem_down_of_repeated {pending : List (KeyEvent × Nat)}
    (hpending : ∀ p ∈ pending, t ≤ p.2) (hne : reports k events ≠ [])
    (hclose : (reports k (events ++ pending)).IsChain fun s s' => s' < s + 150000000)
    (hlast : ∀ s ∈ (reports k (events ++ pending)).getLast?, t < s + 150000000) :
    k ∈ ((empty.after events).keypad t).down := by
  have hseen := List.getLast?_eq_some_getLast hne
  refine (mem_down_after k events t).mpr ⟨_, hseen, ?_⟩
  rw [reports_append] at hclose hlast
  cases hnext : (reports k pending).head? with
  | none =>
    rw [List.head?_eq_none_iff] at hnext
    rw [hnext, List.append_nil] at hlast
    exact hlast _ hseen
  | some s =>
    -- the next report is close, and not before the time asked for
    have hgap := (List.isChain_append.mp hclose).2.2 _ hseen s hnext
    obtain ⟨p, hp, -, rfl⟩ := mem_reports.mp (List.mem_of_head? hnext)
    have hle := hpending p hp
    omega

/-- **Held keys**, from the events at a terminal. With times in order a key is down exactly if one
of its reports is not older than the hold. At any times the last report alone decides, and one that
is yet to come counts as new. A key that is reported again in time stays down. -/
theorem down_iff_recent (k : Nibble) (events : List (KeyEvent × Nat)) :
    -- times in order
    (events.Pairwise (·.2 ≤ ·.2) → ∀ t, (∀ p ∈ events, p.2 ≤ t) →
      (k ∈ ((empty.after events).keypad t).down ↔
        ∃ p ∈ events, p.1.Reports k ∧ t < p.2 + 150000000 ∧ p.2 ≤ t)) ∧
    -- a key that repeats, when some events are still to come
    (∀ handled pending, events = handled ++ pending →
      (reports k events).IsChain (fun s s' => s' < s + 150000000) → reports k handled ≠ [] →
      ∀ t, (∀ p ∈ pending, t ≤ p.2) → (∀ s ∈ (reports k events).getLast?, t < s + 150000000) →
      k ∈ ((empty.after handled).keypad t).down) ∧
    -- any times
    (∀ t : Nat, k ∈ ((empty.after events).keypad t).down ↔
      ∃ s, (reports k events).getLast? = some s ∧ max ((t : Int) - s) 0 < 150000000) ∧
    -- single events
    ∀ (h : KeyHistory) (e : KeyEvent) (t : Nat),
      ((h.record e t).1 = .quit ↔
        e.code = .escape ∨ e.code = .char 'c' ∧ e.control = true) ∧
      ((∀ k, ¬ e.Reports k) → (h.record e t).2 = h) := by
  refine ⟨fun horder t ht => ?_, fun handled pending hsplit hclose hne t hpending hlast => ?_,
    fun t => ?_, fun h e t => ⟨?_, record_of_not_reports⟩⟩
  · rw [mem_down_iff_recent horder]
    constructor
    · rintro ⟨s, hs, hrecent⟩
      obtain ⟨p, hp, hk, rfl⟩ := mem_reports.mp hs
      exact ⟨p, hp, hk, hrecent, ht p hp⟩
    · rintro ⟨p, hp, hk, hrecent, -⟩
      exact ⟨p.2, mem_reports.mpr ⟨p, hp, hk, rfl⟩, hrecent⟩
  · rw [hsplit] at hclose hlast
    exact mem_down_of_repeated hpending hne hclose hlast
  · rw [mem_down_after]
    refine exists_congr fun s => and_congr_right fun _ => ?_
    omega
  · rw [record_fst, ← asksToQuit_iff]
    cases e.asksToQuit <;> simp

/-- A `w` and a `W` in time keep key `5` down until the second has aged, and Ctrl-C is no key. -/
theorem down_iff_recent_twice :
    let w : KeyEvent := { code := .char 'w' }
    let upper : KeyEvent := { code := .char 'W', shift := true, alt := true }
    let quit : KeyEvent := { code := .char 'c', control := true }
    let events := [(w, 0), (upper, 149999999), (quit, 200000000)]
    5 ∈ ((empty.after events).keypad 299999998).down ∧
    5 ∉ ((empty.after events).keypad 299999999).down ∧
    0xB ∉ ((empty.after events).keypad 200000000).down ∧
    5 ∈ ((empty.after [(w, 0)]).keypad 149999999).down ∧
    5 ∉ ((empty.after [(w, 0)]).keypad 150000000).down ∧
    (empty.record quit 200000000).1 = .quit := by
  intro w upper quit events
  have horder : events.Pairwise (·.2 ≤ ·.2) := by decide
  obtain ⟨hrecent, hrepeats, -⟩ := down_iff_recent 5 events
  obtain ⟨-, -, hlast, -⟩ := down_iff_recent 5 [(w, 0)]
  obtain ⟨hquit, -, -, hsignal⟩ := down_iff_recent 0xB events
  have hrecent := hrecent horder
  have hquit := hquit horder
  refine ⟨(hrecent 299999998 (by decide)).mpr ?_, fun h => ?_, fun h => ?_, ?_, fun h => ?_, ?_⟩
  · exact ⟨(upper, 149999999), by decide, by decide, by decide, by decide⟩
  · obtain ⟨p, hp, hk, ht, -⟩ := (hrecent 299999999 (by decide)).mp h
    revert p
    decide
  · obtain ⟨p, hp, hk, -⟩ := (hquit 200000000 (by decide)).mp h
    revert p
    decide
  · exact hrepeats [(w, 0)] [(upper, 149999999), (quit, 200000000)] rfl (by decide) (by decide)
      149999999 (by decide) (by decide)
  · obtain ⟨s, hs, ht⟩ := (hlast 150000000).mp h
    obtain rfl : 0 = s := Option.some.inj hs
    exact absurd ht (by decide)
  · exact (hsignal empty quit 200000000).1.mpr (.inr ⟨rfl, rfl⟩)

end KeyHistory

namespace KeyReader

/-! ### Looks at the terminal -/

/-- The events that a look finds waiting, as long as none of them asks to quit. -/
def waiting : List TerminalReply → List KeyEvent
  | .key e :: rest => e :: waiting rest
  | .other :: rest => waiting rest
  | _ => []

/-- All that is waiting is taken notice of, or only what comes before a key that asks to quit. -/
lemma takeNotice_history (now : Nat) (h : KeyHistory) (replies : List TerminalReply) :
    ∃ handled, handled <+: waiting replies ∧
      (takeNotice now h replies).2.1 = h.after (handled.map (·, now)) ∧
      ((takeNotice now h replies).1 ≠ .ok .quit → handled = waiting replies) := by
  induction replies generalizing h with
  | nil => exact ⟨[], List.nil_prefix, rfl, fun _ => rfl⟩
  | cons reply rest ih =>
    cases reply with
    | nothing | failure => exact ⟨[], List.nil_prefix, rfl, fun _ => rfl⟩
    | other => exact ih h
    | key e =>
      rw [takeNotice]
      rcases hr : h.record e now with ⟨signal, h'⟩
      have hone : h' = h.after [(e, now)] := (congrArg Prod.snd hr).symm
      cases signal with
      | quit =>
        exact ⟨[e], List.prefix_append [e] (waiting rest), hone, fun hquit => absurd rfl hquit⟩
      | proceed =>
        obtain ⟨handled, hprefix, hafter, hall⟩ := ih h'
        refine ⟨e :: handled, List.cons_prefix_cons.mpr ⟨rfl, hprefix⟩, ?_, fun hquit => ?_⟩
        · dsimp only
          rw [hafter, hone]
          rfl
        · rw [hall hquit]
          rfl

/-- A look that is not cut short takes notice of all that is waiting, and puts the keys that count
as down then on the keypad. Any other leaves the keypad alone. -/
theorem run_pump (r : KeyReader) (p : Keypad) :
    ∃ handled t, handled <+: waiting r.replies ∧
      t.history = r.history.after (handled.map (·, r.clock r.looks)) ∧
      (pump.run (r, p) = .ok .proceed (t, t.history.keypad (r.clock r.looks)) ∧
          handled = waiting r.replies ∨
        pump.run (r, p) = .ok .quit (t, p) ∨
        ∃ cause, pump.run (r, p) = .error cause (t, p)) := by
  obtain ⟨handled, hprefix, hafter, hall⟩ :=
    takeNotice_history (r.clock r.looks) r.history r.replies
  simp only [pump, EStateM.run_bind, EStateM.run_get]
  generalize takeNotice (r.clock r.looks) r.history r.replies = notice at hafter hall ⊢
  obtain ⟨result, history, replies⟩ := notice
  refine ⟨handled, { r with history, replies, looks := r.looks + 1 }, hprefix, hafter, ?_⟩
  rcases result with cause | _ | _
  · exact .inr (.inr ⟨cause, rfl⟩)
  · exact .inl ⟨rfl, hall (by simp)⟩
  · exact .inr (.inl rfl)

end KeyReader

end Chip8
