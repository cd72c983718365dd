import Chip8.CommandLine.Arguments
import Mathlib.Data.List.TakeDrop
import Mathlib.Tactic.Lemma

/-!
Which flags a command line raises.

A flag is raised by its own argument and by nothing else. No option takes a flag as its value, and
behind `--` a flag is a name like any other.
-/

namespace Chip8.CommandLine

lemma bind_eq_ok_iff {ε α β : Type} {x : Except ε α} {g : α → Except ε β} {b : β} :
    (x >>= g) = .ok b ↔ ∃ a, x = .ok a ∧ g a = .ok b := by
  cases x <;> simp [bind, Except.bind]

/-- What is cut off in front, and what is left. -/
lemma span_append {α : Type} (p : α → Bool) (l : List α) : (l.span p).1 ++ (l.span p).2 = l := by
  rw [List.span_eq_takeWhile_dropWhile]
  exact List.takeWhile_append_dropWhile

namespace Flag

lemma spec_of_ofName? {s : String} {f : Flag} (h : ofName? s = some f) : "--" ++ s = f.spec := by
  unfold ofName? at h
  split at h
  case h_6 => cases h
  all_goals
    cases h
    rfl

lemma spec_injective {f f' : Flag} (h : f.spec = f'.spec) : f = f' := by
  cases f <;> cases f' <;> simp [spec] at h ⊢

end Flag

namespace Given

variable {g g' : Given}

lemma isRaised_set {p : Parameter} {value : String} (h : g.set p value = .ok g') (f : Flag) :
    g'.isRaised f = g.isRaised f := by
  cases p
  all_goals
    obtain ⟨v, -, hv⟩ := bind_eq_ok_iff.mp h
    cases hv
    cases f <;> rfl

lemma isRaised_raise {f' : Flag} (h : g.raise f' = .ok g') (f : Flag) :
    g'.isRaised f = true ↔ g.isRaised f = true ∨ f = f' := by
  unfold raise at h
  split at h
  next => cases h
  next =>
    cases f' with
    | help | version => cases h
    | mute | movesIndex | disassemble =>
      cases h
      cases f <;> simp [isRaised]

end Given

namespace Reader

variable {r r' : Reader} {arg : String}

lemma isRaised_settle (h : r.settle = .ok r') (f : Flag) :
    r'.given.isRaised f = r.given.isRaised f := by
  unfold settle at h
  split at h
  next => cases h; rfl
  next => cases h
  next =>
    obtain ⟨g, hg, hr⟩ := bind_eq_ok_iff.mp h
    cases hr
    exact Given.isRaised_set hg f

lemma isRaised_name (h : r.name arg = .ok r') (f : Flag) :
    r'.given.isRaised f = r.given.isRaised f := by
  unfold name at h
  split at h
  next => cases h
  next =>
    obtain ⟨s, hs, hr⟩ := bind_eq_ok_iff.mp h
    cases hr
    exact isRaised_settle hs f

lemma isRaised_plain (h : r.plain arg = .ok r') (f : Flag) :
    r'.given.isRaised f = r.given.isRaised f := by
  unfold plain at h
  split at h
  next => cases h; rfl
  next => exact isRaised_name h f

lemma isRaised_names {args : List String} (h : names args r = .ok r') (f : Flag) :
    r'.given.isRaised f = r.given.isRaised f := by
  induction args generalizing r with
  | nil => cases h; rfl
  | cons arg rest ih =>
    obtain ⟨s, hs, hr⟩ := bind_eq_ok_iff.mp h
    rw [ih hr, isRaised_name hs]

/-- A flag's own argument raises it. -/
lemma argument_spec (r : Reader) (f : Flag) : r.argument f.spec = (do
    let r ← r.settle
    return { r with given := ← r.given.raise f }) := by
  cases f <;> rfl

/-- After an argument with one dash nothing is read. -/
lemma short_ne_ok (r : Reader) (arg : String) (letter : Char) (r' : Reader) :
    r.short arg letter ≠ .ok r' := by
  intro h
  unfold short at h
  split at h
  next =>
    obtain ⟨_, _, h⟩ := bind_eq_ok_iff.mp h
    cases h
  next =>
    obtain ⟨_, _, h⟩ := bind_eq_ok_iff.mp h
    cases h
  next => cases h

/-- An option that is no flag raises none. -/
lemma isRaised_long {option : String} {value : Option String} (h : r.long arg option value = .ok r')
    (hne : value = none → ∀ f, Flag.ofName? option ≠ some f) (f : Flag) :
    r'.given.isRaised f = r.given.isRaised f := by
  unfold long at h
  split at h
  next =>
    obtain ⟨s, hs, h⟩ := bind_eq_ok_iff.mp h
    obtain ⟨g, hg, hr⟩ := bind_eq_ok_iff.mp h
    cases hr
    rw [Given.isRaised_set hg, isRaised_settle hs]
  next =>
    obtain ⟨s, hs, hr⟩ := bind_eq_ok_iff.mp h
    cases hr
    exact isRaised_settle hs f
  next => cases h
  next f' _ hf' => exact absurd hf' (hne rfl f')
  next => cases h

/-- Any other argument raises no flag. -/
lemma isRaised_argument_of_ne (h : r.argument arg = .ok r') (hne : ∀ f : Flag, arg ≠ f.spec)
    (f : Flag) : r'.given.isRaised f = r.given.isRaised f := by
  unfold argument at h
  split at h
  next => exact isRaised_plain h f
  next body harg =>
    rcases hspan : body.span (· ≠ '=') with ⟨option, rest⟩
    rw [hspan] at h
    have hbody : option ++ rest = body := by
      have happend := span_append (· ≠ '=') body
      rwa [hspan] at happend
    refine isRaised_long h (fun hvalue f' hf' => hne f' ?_) f
    -- without an equals sign, the argument is two dashes and the option's name
    obtain rfl : rest = [] := by
      cases rest with
      | nil => rfl
      | cons c cs => simp at hvalue
    rw [List.append_nil] at hbody
    rw [← Flag.spec_of_ofName? hf', hbody, ← String.toList_inj, harg]
    simp
  next letter _ _ _ => exact absurd h (short_ne_ok r arg letter r')
  next => exact isRaised_plain h f

lemma isRaised_argument (h : r.argument arg = .ok r') (f : Flag) :
    r'.given.isRaised f = true ↔ r.given.isRaised f = true ∨ arg = f.spec := by
  by_cases hflag : ∃ f' : Flag, arg = f'.spec
  · obtain ⟨f', rfl⟩ := hflag
    rw [argument_spec] at h
    obtain ⟨s, hs, h⟩ := bind_eq_ok_iff.mp h
    obtain ⟨g, hg, hr⟩ := bind_eq_ok_iff.mp h
    cases hr
    rw [Given.isRaised_raise hg, isRaised_settle hs]
    exact or_congr_right ⟨fun hf => hf ▸ rfl, fun hf => (Flag.spec_injective hf).symm⟩
  · have hne (f' : Flag) : arg ≠ f'.spec := fun hf => hflag ⟨f', hf⟩
    rw [isRaised_argument_of_ne h hne]
    exact (or_iff_left (hne f)).symm

/-- The flags of a command line are those that stand before `--`. -/
lemma isRaised_read {args : List String} (h : read args r = .ok r') (f : Flag) :
    r'.given.isRaised f = true ↔
      r.given.isRaised f = true ∨ f.spec ∈ args.takeWhile (· ≠ "--") := by
  induction args generalizing r with
  | nil => cases h; simp
  | cons arg rest ih =>
    unfold read at h
    split at h
    next harg => simp [isRaised_names h, harg]
    next harg =>
      obtain ⟨s, hs, h⟩ := bind_eq_ok_iff.mp h
      rw [ih h, isRaised_argument hs]
      rw [List.takeWhile_cons_of_pos (by simpa using harg), List.mem_cons, or_assoc,
        eq_comm (a := arg)]

end Reader

/-- A command line that can be read has been read to its end, and all of it is settled. -/
lemma exists_settle_of_parse {args : List String} {parsed : Arguments}
    (h : Arguments.parse args = .ok parsed) : ∃ r s : Reader,
    Reader.read args {} = .ok r ∧ r.settle = .ok s ∧
    parsed.disassemble = s.given.isRaised .disassemble ∧ parsed.dump = s.given.dump := by
  obtain ⟨r, hr, h⟩ := bind_eq_ok_iff.mp h
  obtain ⟨s, hs, h⟩ := bind_eq_ok_iff.mp h
  unfold Given.finish at h
  split at h
  next => cases h
  next =>
    cases h
    exact ⟨r, s, hr, hs, rfl, rfl⟩

/-- A command line that can be read asks for a listing exactly if it says so before `--`. -/
theorem disassemble_iff {args : List String} {parsed : Arguments}
    (h : Arguments.parse args = .ok parsed) :
    parsed.disassemble = true ↔ "--disassemble" ∈ args.takeWhile (· ≠ "--") := by
  obtain ⟨r, s, hr, hs, hflag, -⟩ := exists_settle_of_parse h
  rw [hflag, Reader.isRaised_settle hs, Reader.isRaised_read hr]
  simp [Given.isRaised, Flag.spec]

end Chip8.CommandLine
