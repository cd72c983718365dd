import Chip8.Proofs.Options

/-!
Which file a command line asks for a dump.

The file is named behind an equals sign or by the next argument, whatever that looks like, as long
as the command line can be read. An argument that begins with two dashes is never a name.
-/

namespace Chip8.CommandLine

/-- The arguments ask for a dump to a file. -/
def AsksDump (args : List String) (path : String) : Prop :=
  "--dump=" ++ path ∈ args ∨ ["--dump", path] <:+: args

lemma asksDump_cons (arg : String) (args : List String) (path : String) :
    AsksDump (arg :: args) path ↔
      arg = "--dump=" ++ path ∨ (arg = "--dump" ∧ args.head? = some path) ∨ AsksDump args path := by
  have hnext : [path] <+: args ↔ args.head? = some path := by
    cases args <;> simp [eq_comm]
  unfold AsksDump
  rw [List.mem_cons, List.infix_cons_iff, List.cons_prefix_cons, hnext, eq_comm (b := arg),
    eq_comm (b := arg)]
  tauto

lemma Parameter.eq_of_ofName?_dump {s : String} (h : ofName? s = some .dump) : s = "dump" := by
  unfold ofName? at h
  split at h
  all_goals first | rfl | cases h

/-- A parameter is given once. -/
lemma Given.dump_set {g g' : Given} {p : Parameter} {value : String}
    (h : g.set p value = .ok g') :
    p = .dump ∧ g.dump = none ∧ g'.dump = some value ∨ p ≠ .dump ∧ g'.dump = g.dump := by
  cases p
  case dump =>
    obtain ⟨v, hv, hg⟩ := bind_eq_ok_iff.mp h
    cases hg
    unfold once at hv
    split at hv
    next => cases hv
    next hnone =>
      obtain ⟨s, hs, hv⟩ := bind_eq_ok_iff.mp hv
      cases hv
      unfold path at hs
      split at hs
      next => cases hs
      next =>
        cases hs
        exact .inl ⟨rfl, by simpa using hnone, rfl⟩
  all_goals
    obtain ⟨v, -, hg⟩ := bind_eq_ok_iff.mp h
    cases hg
    exact .inr ⟨nofun, rfl⟩

lemma Given.dump_raise {g g' : Given} {f : Flag} (h : g.raise f = .ok g') : g'.dump = g.dump := by
  unfold raise at h
  split at h
  next => cases h
  next =>
    cases f with
    | help | version => cases h
    | mute | movesIndex | disassemble =>
      cases h
      rfl

namespace Reader

/-- A dump to a file has been asked for; the option may not be settled yet. -/
def WantsDump (r : Reader) (path : String) : Prop :=
  r.given.dump = some path ∨ r.pending = some (.dump, some path)

/-- The next argument is the name of the dump's file. -/
def AwaitsDump (r : Reader) : Prop := r.pending = some (.dump, none)

variable {r r' : Reader} {arg path : String}

lemma wantsDump_settle (h : r.settle = .ok r') (path : String) :
    (r'.WantsDump path ↔ r.WantsDump path) ∧ r'.pending = none ∧ ¬ r.AwaitsDump := by
  unfold settle at h
  split at h
  next hnone =>
    cases h
    exact ⟨Iff.rfl, hnone, by simp [AwaitsDump, hnone]⟩
  next => cases h
  next p value hpending =>
    obtain ⟨g, hg, hr⟩ := bind_eq_ok_iff.mp h
    cases hr
    refine ⟨?_, rfl, by simp [AwaitsDump, hpending]⟩
    rcases Given.dump_set hg with ⟨rfl, hold, hnew⟩ | ⟨hp, hsame⟩
    · simp [WantsDump, hpending, hold, hnew]
    · simp [WantsDump, hpending, hp, hsame]

/-- Once all is settled, what is asked for is given. -/
lemma dump_of_settle (h : r.settle = .ok r') (path : String) :
    r'.given.dump = some path ↔ r.WantsDump path := by
  obtain ⟨hwants, hpending, -⟩ := wantsDump_settle h path
  rw [← hwants, WantsDump, hpending]
  simp

lemma wantsDump_name (h : r.name arg = .ok r') (path : String) :
    (r'.WantsDump path ↔ r.WantsDump path) ∧ ¬ r'.AwaitsDump ∧ ¬ r.AwaitsDump := by
  unfold name at h
  split at h
  next => cases h
  next =>
    obtain ⟨s, hs, hr⟩ := bind_eq_ok_iff.mp h
    cases hr
    refine ⟨?_, by simp [AwaitsDump], (wantsDump_settle hs path).2.2⟩
    rw [← dump_of_settle hs]
    simp [WantsDump]

lemma wantsDump_names {args : List String} (h : names args r = .ok r') (path : String) :
    r'.WantsDump path ↔ r.WantsDump path := by
  induction args generalizing r with
  | nil => cases h; exact Iff.rfl
  | cons arg rest ih =>
    obtain ⟨s, hs, hr⟩ := bind_eq_ok_iff.mp h
    rw [ih hr, (wantsDump_name hs path).1]

lemma wantsDump_plain (h : r.plain arg = .ok r') (path : String) :
    (r'.WantsDump path ↔ r.WantsDump path ∨ r.AwaitsDump ∧ arg = path) ∧ ¬ r'.AwaitsDump := by
  unfold plain at h
  split at h
  next p hpending =>
    cases h
    exact ⟨by simp [WantsDump, AwaitsDump, hpending], by simp [AwaitsDump]⟩
  next =>
    obtain ⟨hwants, hafter, hbefore⟩ := wantsDump_name h path
    exact ⟨by rw [hwants]; simp [hbefore], hafter⟩

/-- An argument with two dashes asks for a dump in one of two ways. -/
lemma wantsDump_long {option : String} {value : Option String}
    (h : r.long arg option value = .ok r') (path : String) :
    (r'.WantsDump path ↔ r.WantsDump path ∨ option = "dump" ∧ value = some path) ∧
      (r'.AwaitsDump ↔ option = "dump" ∧ value = none) ∧ ¬ r.AwaitsDump := by
  have hne {p : Parameter} (hp : Parameter.ofName? option = some p) (hdump : p ≠ .dump) :
      option ≠ "dump" := by
    rintro rfl
    exact hdump (Option.some.inj hp).symm
  unfold long at h
  split at h
  next hp =>
    obtain ⟨s, hs, h⟩ := bind_eq_ok_iff.mp h
    obtain ⟨g, hg, hr⟩ := bind_eq_ok_iff.mp h
    cases hr
    obtain ⟨-, hpending, hawaits⟩ := wantsDump_settle hs path
    refine ⟨?_, by simp [AwaitsDump, hpending], hawaits⟩
    rcases Given.dump_set hg with ⟨rfl, hold, hnew⟩ | ⟨hdump, hsame⟩
    · have hoption := Parameter.eq_of_ofName?_dump hp
      rw [← dump_of_settle hs, hold]
      simp [WantsDump, hpending, hnew, hoption]
    · rw [← dump_of_settle hs]
      simp [WantsDump, hpending, hsame, hne hp hdump]
  next p hp =>
    obtain ⟨s, hs, hr⟩ := bind_eq_ok_iff.mp h
    cases hr
    refine ⟨?_, ?_, (wantsDump_settle hs path).2.2⟩
    · rw [← dump_of_settle hs]
      simp [WantsDump]
    · by_cases hdump : p = .dump
      · subst hdump
        simp [AwaitsDump, Parameter.eq_of_ofName?_dump hp]
      · simp [AwaitsDump, hdump, hne hp hdump]
  next => cases h
  next hp _ =>
    obtain ⟨s, hs, h⟩ := bind_eq_ok_iff.mp h
    obtain ⟨g, hg, hr⟩ := bind_eq_ok_iff.mp h
    cases hr
    obtain ⟨-, hpending, hawaits⟩ := wantsDump_settle hs path
    have hoption : option ≠ "dump" := by
      rintro rfl
      cases hp
    refine ⟨?_, by simp [AwaitsDump, hpending, hoption], hawaits⟩
    rw [← dump_of_settle hs]
    simp [WantsDump, hpending, hoption, Given.dump_raise hg]
  next => cases h

/-- An argument that asks for a dump, with the file behind an equals sign or without it. -/
lemma dump_body {body option rest : List Char} (hspan : body.span (· ≠ '=') = (option, rest))
    (path : String) :
    (String.ofList option = "dump" ∧ rest.tail?.map String.ofList = none ↔
      body = "dump".toList) ∧
    (String.ofList option = "dump" ∧ rest.tail?.map String.ofList = some path ↔
      body = "dump=".toList ++ path.toList) := by
  have hbody : option ++ rest = body := by
    have happend := span_append (· ≠ '=') body
    rwa [hspan] at happend
  have hname : ∀ c ∈ "dump".toList, decide (c ≠ '=') = true := by simp
  rw [List.span_eq_takeWhile_dropWhile, Prod.mk.injEq] at hspan
  obtain ⟨htake, hdrop⟩ := hspan
  constructor
  · constructor
    · rintro ⟨hoption, hrest⟩
      obtain rfl : rest = [] := by
        cases rest with
        | nil => rfl
        | cons c cs => simp at hrest
      rw [← hbody, List.append_nil, ← hoption, String.toList_ofList]
    · rintro rfl
      rw [← htake, ← hdrop]
      decide
  · constructor
    · rintro ⟨hoption, hrest⟩
      cases rest with
      | nil => cases hrest
      | cons c cs =>
        -- what is left begins with the equals sign
        have hc := List.head?_dropWhile_not (· ≠ '=') body
        rw [hdrop] at hc
        obtain rfl : c = '=' := by simpa using hc
        obtain rfl : String.ofList cs = path := by simpa using hrest
        have hlist : option = "dump".toList := by rw [← hoption, String.toList_ofList]
        simp [← hbody, hlist]
    · rintro rfl
      have hsplit : "dump=".toList ++ path.toList = "dump".toList ++ '=' :: path.toList := rfl
      rw [hsplit] at htake hdrop
      rw [List.takeWhile_append_of_pos hname, List.takeWhile_cons_of_neg (by decide)] at htake
      rw [List.dropWhile_append_of_pos hname, List.dropWhile_cons_of_neg (by decide)] at hdrop
      rw [← htake, ← hdrop]
      simp

/-- **One argument.** -/
lemma wantsDump_argument (h : r.argument arg = .ok r') (path : String) :
    (r'.WantsDump path ↔
      r.WantsDump path ∨ (r.AwaitsDump ∧ arg = path) ∨ arg = "--dump=" ++ path) ∧
    (r'.AwaitsDump ↔ arg = "--dump") := by
  have hplain (h : r.plain arg = .ok r') (harg : ∀ body, arg.toList ≠ '-' :: '-' :: body) :
      (r'.WantsDump path ↔
        r.WantsDump path ∨ (r.AwaitsDump ∧ arg = path) ∨ arg = "--dump=" ++ path) ∧
      (r'.AwaitsDump ↔ arg = "--dump") := by
    obtain ⟨hwants, hawaits⟩ := wantsDump_plain h path
    have hname : arg ≠ "--dump=" ++ path := by
      rintro rfl
      exact harg _ (String.toList_append ..)
    have halone : arg ≠ "--dump" := by
      rintro rfl
      exact harg _ rfl
    exact ⟨by rw [hwants]; simp [hname], by simp [hawaits, halone]⟩
  unfold argument at h
  split at h
  next harg => exact hplain h (by simp [harg])
  next body harg =>
    rcases hspan : body.span (· ≠ '=') with ⟨option, rest⟩
    rw [hspan] at h
    obtain ⟨hwants, hawaits, hbefore⟩ := wantsDump_long h path
    obtain ⟨hnone, hsome⟩ := dump_body hspan path
    have hargs (s : String) : arg = "--" ++ s ↔ body = s.toList := by
      rw [← String.toList_inj, harg, String.toList_append]
      simp
    constructor
    · rw [hwants, hsome, ← String.toList_append, ← hargs]
      simp [hbefore, ← String.append_assoc]
    · rw [hawaits, hnone, ← hargs]
      rfl
  next letter _ _ _ => exact absurd h (short_ne_ok r arg letter r')
  next hdash hlong _ => exact hplain h hlong

/-- **All arguments.** What awaits a name at the start takes the first. -/
lemma wantsDump_read {args : List String} (h : read args r = .ok r') (path : String) :
    let before := args.takeWhile (· ≠ "--")
    r'.WantsDump path ↔
      r.WantsDump path ∨ (r.AwaitsDump ∧ before.head? = some path) ∨ AsksDump before path := by
  induction args generalizing r with
  | nil =>
    cases h
    simp [AsksDump]
  | cons arg rest ih =>
    unfold read at h
    split at h
    next harg => simp [wantsDump_names h, harg, AsksDump]
    next harg =>
      obtain ⟨s, hs, h⟩ := bind_eq_ok_iff.mp h
      obtain ⟨hwants, hawaits⟩ := wantsDump_argument hs path
      simp only [ih h, hwants, hawaits]
      rw [List.takeWhile_cons_of_pos (by simpa using harg), asksDump_cons, List.head?_cons,
        Option.some_inj]
      tauto

end Reader

/-- A command line that can be read asks for a dump exactly if it says so before `--`. -/
theorem dump_iff {args : List String} {parsed : Arguments} (h : Arguments.parse args = .ok parsed)
    (path : String) :
    parsed.dump = some path ↔ AsksDump (args.takeWhile (· ≠ "--")) path := by
  obtain ⟨r, s, hr, hs, -, hdump⟩ := exists_settle_of_parse h
  rw [hdump, Reader.dump_of_settle hs]
  simpa [Reader.WantsDump, Reader.AwaitsDump] using Reader.wantsDump_read hr path

end Chip8.CommandLine
