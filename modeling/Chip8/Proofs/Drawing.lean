import Chip8.Proofs.Chronicle
import Chip8.Proofs.Redraw
import Chip8.Proofs.Rendering
import Chip8.Proofs.Sprites

/-!
Drawing, pixel by pixel.

A sprite flips the cells that it covers, each of them once, so what it does to the screen is an
exclusive or. Everything else is read off that: which pixels went out, how many are lit then, and
that drawing the same sprite again brings the screen back.
-/

namespace Chip8

namespace Screen

/-- How many pixels are lit on the first screen and dark on the second. -/
def switchedOff (s t : Screen) : Nat :=
  (List.range 2048).countP fun i => s.pixel (i % 64) (i / 64) && !t.pixel (i % 64) (i / 64)

variable {s t : Screen} {x y : Nat} {rows : List UInt8} {pixels : List (Nat × Nat)}

/-- Coordinates that name the same cell show the same pixel. -/
lemma pixel_of_index_eq {x' y' : Nat} (h : index x y = index x' y') :
    s.pixel x y = s.pixel x' y' :=
  Frame.pixel_congr (index_inj.mp h).1 (index_inj.mp h).2

/-- A lit pixel is hit, and as long as no cell is named twice it does not matter when one looks. -/
lemma blit_fst (h : (places pixels).Nodup) :
    (s.blit pixels).1 = true ↔ ∃ p ∈ pixels, s.pixel p.1 p.2 = true := by
  induction pixels generalizing s with
  | nil => simp
  | cons p rest ih =>
    rw [places_cons, List.nodup_cons] at h
    obtain ⟨hp, hrest⟩ := h
    have hlater (q : Nat × Nat) (hq : q ∈ rest) :
        (s.toggle p.1 p.2).2.pixel q.1 q.2 = s.pixel q.1 q.2 := by
      rw [pixel_toggle, if_neg]
      intro heq
      exact hp (List.mem_map.mpr ⟨q, hq, heq.symm⟩)
    rw [blit_cons, Bool.or_eq_true, ih hrest]
    simp only [List.mem_cons, exists_eq_or_imp]
    refine or_congr_right (exists_congr fun q => and_congr_right fun hq => ?_)
    rw [hlater q hq]

/-! ### Counting -/

/-- A sprite has a pixel for each bit that is set. -/
lemma length_spritePixels (x y : Nat) (rows : List UInt8) :
    (spritePixels x y rows).length = (rows.map Frame.ones).sum := by
  induction rows generalizing y with
  | nil => rfl
  | cons row rest ih =>
    rw [spritePixels, List.length_append, List.length_map, ih, List.map_cons, List.sum_cons,
      Frame.ones, List.countP_eq_length_filter]

/-- Cells that are named once each are as many as their names. -/
lemma countP_places (h : (places pixels).Nodup) :
    ((List.range 2048).countP fun i => (places pixels).contains (index (i % 64) (i / 64))) =
      pixels.length := by
  have hrange : (List.range 2048).map (fun i => index (i % 64) (i / 64)) = List.finRange 2048 := by
    refine List.ext_getElem (by simp) fun i hi _ => ?_
    simp at hi ⊢
    rw [Fin.ext_iff, val_index]
    simp
    omega
  have hcount := List.countP_map (p := (places pixels).contains) (l := List.range 2048)
    (f := fun i => index (i % 64) (i / 64))
  rw [hrange] at hcount
  have hperm : ((List.finRange 2048).filter (places pixels).contains).Perm (places pixels) := by
    refine (List.perm_ext_iff_of_nodup ((List.nodup_finRange 2048).filter _) h).mpr fun i => ?_
    simp
  calc _ = (List.finRange 2048).countP (places pixels).contains := hcount.symm
    _ = ((List.finRange 2048).filter (places pixels).contains).length :=
      List.countP_eq_length_filter
    _ = (places pixels).length := hperm.length_eq
    _ = pixels.length := List.length_map _

lemma countP_xor {α : Type} (p q : α → Bool) (l : List α) :
    l.countP (fun a => p a ^^ q a) + 2 * l.countP (fun a => p a && !(p a ^^ q a)) =
      l.countP p + l.countP q := by
  induction l with
  | nil => rfl
  | cons a l ih =>
    simp only [List.countP_cons]
    cases p a <;> cases q a <;> simp <;> omega

/-- Each pixel that is flipped comes on or goes out. -/
lemma lit_blit (h : (places pixels).Nodup) :
    (s.blit pixels).2.lit + 2 * s.switchedOff (s.blit pixels).2 = s.lit + pixels.length := by
  rw [lit_eq_countP, lit_eq_countP, switchedOff, ← countP_places h]
  simp only [pixel_blit h]
  exact countP_xor ..

/-- Pixels that are flipped twice are as they were. -/
lemma frame_blit_blit (h : (places pixels).Nodup) (ht : t.frame = (s.blit pixels).2.frame) :
    (t.blit pixels).2.frame = s.frame := by
  refine frame_ext fun px py => ?_
  have hpixel : t.pixel px py = (s.blit pixels).2.pixel px py := by
    rw [pixel, pixel, ht]
  rw [pixel_blit h, hpixel, pixel_blit h, Bool.xor_assoc, Bool.xor_self, Bool.xor_false]

/-! ### Sprites -/

/-- `Drawn x y rows s t hit`: a sprite with its corner at `(x, y)` takes screen `s` to screen `t`,
and hits a lit pixel or does not. -/
structure Drawn (x y : Nat) (rows : List UInt8) (s t : Screen) (hit : Prop) : Prop where
  /-- The pixels of the sprite are flipped one after another, and no two of them fall together. -/
  flips : t = (s.blit (spritePixels x y rows)).2 ∧ (places (spritePixels x y rows)).Nodup
  pixel : ∀ px < 64, ∀ py < 32, t.pixel px py = (s.pixel px py ^^ decide (Covers x y rows px py))
  hit_iff : hit ↔ ∃ px < 64, ∃ py < 32, Covers x y rows px py ∧ s.pixel px py = true
  lit : t.lit + 2 * s.switchedOff t = s.lit + (rows.map Frame.ones).sum
  dirty : t.dirty = (s.dirty || rows.any (· != 0))

lemma exists_covers_iff : (∃ p ∈ spritePixels x y rows, s.pixel p.1 p.2 = true) ↔
    ∃ px < 64, ∃ py < 32, Covers x y rows px py ∧ s.pixel px py = true := by
  constructor
  · rintro ⟨p, hp, hlit⟩
    have hindex : index (p.1 % 64) (p.2 % 32) = index p.1 p.2 :=
      index_inj.mpr ⟨Nat.mod_mod .., Nat.mod_mod ..⟩
    refine ⟨p.1 % 64, Nat.mod_lt _ (by decide), p.2 % 32, Nat.mod_lt _ (by decide), ?_, ?_⟩
    · rw [covers_iff_mem, hindex]
      exact List.mem_map_of_mem hp
    · rw [pixel_of_index_eq hindex]
      exact hlit
  · rintro ⟨px, -, py, -, hcovers, hlit⟩
    obtain ⟨p, hp, hindex⟩ := List.mem_map.mp (covers_iff_mem.mp hcovers)
    refine ⟨p, hp, ?_⟩
    rw [pixel_of_index_eq hindex]
    exact hlit

lemma drawn_blit (s : Screen) (x y : Nat) (h : rows.length ≤ 32) :
    Drawn x y rows s (s.blit (spritePixels x y rows)).2
      ((s.blit (spritePixels x y rows)).1 = true) where
  flips := ⟨rfl, nodup_places h⟩
  pixel _ _ _ _ := pixel_blit_spritePixels h
  hit_iff := (blit_fst (nodup_places h)).trans exists_covers_iff
  lit := by rw [lit_blit (nodup_places h), length_spritePixels]
  dirty := by rw [dirty_blit, isEmpty_spritePixels, Bool.not_not]

end Screen

namespace Machine

open Word

variable {m t : Machine} {w : UInt16}

lemma sprite_eq_ok_iff {n : UInt8} {rows : List UInt8} : m.sprite n = .ok rows ↔
    (n.toNat = 0 ∨ m.memory.checkReadable m.index n.toNat = .ok ()) ∧
      rows = m.memory.slice m.index.toNat n.toNat := by
  unfold sprite
  by_cases hn : n = 0
  · subst hn
    simp [Memory.slice, eq_comm]
  · have hpos : n.toNat ≠ 0 := fun h => hn (UInt8.toNat_inj.mp h)
    simp [hn, hpos, Memory.readBlock_eq_ok_iff]

/-- What a step with a draw instruction leaves. -/
def drawing (m : Machine) (x y : Nibble) (n : Nat) : Machine :=
  let hitAndScreen := m.blitAt x y (m.memory.slice m.index.toNat n)
  { m with
    screen := hitAndScreen.2
    v := m.v.set flag (if hitAndScreen.1 then 1 else 0) }.finish (m.pc + 2)

lemma flag_drawing (m : Machine) (x y : Nibble) (n : Nat) : (m.drawing x y n).v.get flag =
    if (m.blitAt x y (m.memory.slice m.index.toNat n)).1 then 1 else 0 :=
  Bank.get_set_self ..

lemma drawn_drawing (m : Machine) (x y : Nibble) {n : Nat} (hn : n ≤ 32) :
    Screen.Drawn ((m.v.get x).toNat % 64) ((m.v.get y).toNat % 32)
      (m.memory.slice m.index.toNat n) m.screen (m.drawing x y n).screen
      ((m.drawing x y n).v.get flag = 1) := by
  have hflag : (m.drawing x y n).v.get flag = 1 ↔
      (m.blitAt x y (m.memory.slice m.index.toNat n)).1 = true := by
    rw [flag_drawing]
    cases (m.blitAt x y (m.memory.slice m.index.toNat n)).1 <;> decide
  rw [hflag]
  exact m.screen.drawn_blit _ _ ((Memory.length_slice ..).trans_le hn)

/-- Registers other than the flag are only read. -/
lemma get_drawing {x y k : Nibble} {n : Nat} (hk : k ≠ flag) :
    (m.drawing x y n).v.get k = m.v.get k := by
  rw [show (m.drawing x y n).v = m.v.set flag _ from rfl, Bank.get_set, if_neg hk.symm]

/-- A draw instruction comes off if its sprite has no rows or they can be read. -/
lemma step_draw_eq_ok_iff (hw : m.memory.fetch m.pc = .ok w) (hop : opcode w = 0xD000) :
    step.run m = .ok () t ↔
      (w.toNat % 16 = 0 ∨ m.memory.checkReadable m.index (w.toNat % 16) = .ok ()) ∧
        t = m.drawing (nibble w 2) (nibble w 1) (w.toNat % 16) := by
  have hi : Instruction.table w =
      .draw (nibble w 2) (nibble w 1) (UInt8.ofNat (w.toNat % 16)) := by
    simp only [Instruction.table, hop]
  have hn : (UInt8.ofNat (w.toNat % 16)).toNat = w.toNat % 16 := by
    simp
    omega
  rw [← hn, step_eq_ok_iff_of_fetch hw, hi]
  constructor
  · rintro ⟨f, u, hr, rfl⟩
    cases hr with
    | draw _ _ _ hrows =>
      obtain ⟨hcheck, rfl⟩ := sprite_eq_ok_iff.mp hrows
      exact ⟨hcheck, rfl⟩
  · rintro ⟨hcheck, rfl⟩
    exact ⟨_, _, .draw _ _ _ (sprite_eq_ok_iff.mpr ⟨hcheck, rfl⟩), rfl⟩

/-- **Drawing is an exclusive or.** A step with a draw instruction flips the pixels that the sprite
covers, each of them once, and no others; the flag tells whether one of them was lit. A sprite
without rows is drawn wherever the index points. Drawn again, a sprite is gone. -/
theorem draw_flips_covered (hw : m.memory.fetch m.pc = .ok w) (hop : opcode w = 0xD000) :
    let x := nibble w 2
    let y := nibble w 1
    let n := w.toNat % 16
    let rows := m.memory.slice m.index.toNat n
    (∀ t, step.run m = .ok () t →
      (0 < n → m.memory.readBlock m.index n = .ok rows) ∧
      Screen.Drawn ((m.v.get x).toNat % 64) ((m.v.get y).toNat % 32) rows m.screen t.screen
        (t.v.get flag = 1) ∧
      (t.v.get flag = 0 ∨ t.v.get flag = 1)) ∧
    (n = 0 → step.run m = .ok () ({ m with v := m.v.set flag 0 }.finish (m.pc + 2))) ∧
    (x ≠ flag → y ≠ flag → ∀ t u, step.run m = .ok () t → u.memory.fetch u.pc = .ok w →
      u.index = t.index → u.v.get x = t.v.get x → u.v.get y = t.v.get y →
      u.memory.slice u.index.toNat n = rows → u.screen.frame = t.screen.frame →
      ∃ v, step.run u = .ok () v ∧ v.screen.frame = m.screen.frame) := by
  intro x y n rows
  have hn : n ≤ 32 := by omega
  refine ⟨fun t ht => ?_, fun hzero => ?_, fun hx hy t u ht hu hindex hux huy hrows hframe => ?_⟩
  · obtain ⟨hcheck, rfl⟩ := (step_draw_eq_ok_iff hw hop).mp ht
    refine ⟨fun hpos => ?_, m.drawn_drawing x y hn, ?_⟩
    · exact Memory.readBlock_eq_ok_iff.mpr ⟨hcheck.resolve_left (by omega), rfl⟩
    · rw [flag_drawing]
      split
      · exact .inr rfl
      · exact .inl rfl
  · rw [step_draw_eq_ok_iff hw hop]
    refine ⟨.inl hzero, ?_⟩
    rw [show w.toNat % 16 = 0 from hzero]
    rfl
  · obtain ⟨hcheck, rfl⟩ := (step_draw_eq_ok_iff hw hop).mp ht
    have hdrawn := m.drawn_drawing x y hn
    refine ⟨_, (step_draw_eq_ok_iff hu hop).mpr ⟨hcheck.imp_right fun hread => ?_, rfl⟩, ?_⟩
    · rw [Memory.checkReadable_eq_ok_iff] at hread ⊢
      rw [hindex]
      exact ⟨Memory.isLoaded_of_fetch hu, hread.2⟩
    · have hagain := u.drawn_drawing x y hn
      rw [hrows, hux, huy, get_drawing hx, get_drawing hy] at hagain
      rw [hagain.flips.1]
      exact Screen.frame_blit_blit hdrawn.flips.2 (hframe.trans (congrArg _ hdrawn.flips.1))

/-- A sprite of two pixels that wraps around at the corner, drawn twice. -/
theorem draw_flips_covered_corner : ∃ m t v : Machine,
    m.memory.fetch m.pc = .ok 0xD012 ∧ m.v.get 0 = 60 ∧ m.v.get 1 = 31 ∧
    m.memory.slice m.index.toNat 2 = [0x80, 0x01] ∧
    step.run m = .ok () t ∧ t.screen.pixel 60 31 = true ∧ t.screen.pixel 3 0 = true ∧
    t.screen.pixel 3 31 = false ∧ t.v.get flag = 0 ∧
    step.run { t with pc := m.pc } = .ok () v ∧ v.screen.frame = m.screen.frame := by
  obtain ⟨n, hload⟩ := (new {} (.chaCha .zero)).load_accepted (p := [0xD0, 0x12, 0x80, 0x01])
    (by decide) (by decide)
  have hn := fresh_of_load hload
  obtain ⟨m, hm⟩ : ∃ m : Machine,
    m = { n with index := 0x202, v := (n.v.set 0 60).set 1 31 } := ⟨_, rfl⟩
  have hw : m.memory.fetch m.pc = .ok 0xD012 := by
    rw [hm]
    exact hn.fetch_pc
  have hx : m.v.get 0 = 60 := by
    rw [hm]
    simp [Bank.get_set]
  have hy : m.v.get 1 = 31 := by
    rw [hm]
    simp
  have hindex : m.index = 0x202 := by rw [hm]
  have hmemory : m.memory = n.memory := by rw [hm]
  have hrows : m.memory.slice m.index.toNat 2 = [0x80, 0x01] := by
    rw [hindex, hmemory]
    change [n.memory.byte 0x202, n.memory.byte 0x203] = _
    rw [hn.byte (by decide) (by decide), hn.byte (by decide) (by decide)]
    rfl
  have hdark (x y : Nat) : m.screen.pixel x y = false := by
    rw [show m.screen = n.screen by rw [hm], hn.screen]
    exact Screen.pixel_clear .blank x y
  have ht : step.run m = .ok () (m.drawing 0 1 2) := by
    refine (step_draw_eq_ok_iff hw (by decide)).mpr ⟨.inr ?_, rfl⟩
    rw [Memory.checkReadable_eq_ok_iff, hindex, hmemory]
    exact ⟨hn.isLoaded, by decide⟩
  obtain ⟨hdraw, -, hagain⟩ := draw_flips_covered hw (by decide)
  obtain ⟨-, hdrawn, hflag⟩ := hdraw _ ht
  obtain ⟨v, hv, hframe⟩ := hagain (by decide) (by decide) _ { m.drawing 0 1 2 with pc := m.pc } ht
    hw rfl rfl rfl rfl rfl
  rw [show nibble 0xD012 2 = 0 from rfl, show nibble 0xD012 1 = 1 from rfl, hx, hy,
    show UInt16.toNat 0xD012 % 16 = 2 from rfl, hrows] at hdrawn
  have hpixel (px py : Nat) (hpx : px < 64) (hpy : py < 32) : (m.drawing 0 1 2).screen.pixel px py =
      decide (Screen.Covers 60 31 [0x80, 0x01] px py) := by
    rw [hdrawn.pixel px hpx py hpy, hdark, Bool.false_xor]
    rfl
  refine ⟨m, m.drawing 0 1 2, v, hw, hx, hy, hrows, ht, ?_, ?_, ?_, ?_, hv, hframe⟩
  · rw [hpixel 60 31 (by decide) (by decide)]
    decide
  · rw [hpixel 3 0 (by decide) (by decide)]
    decide
  · rw [hpixel 3 31 (by decide) (by decide)]
    decide
  · refine hflag.resolve_right fun hone => ?_
    obtain ⟨px, -, py, -, -, hlit⟩ := hdrawn.hit_iff.mp hone
    simp [hdark] at hlit

end Machine

end Chip8
