import Chip8.Proofs.Reload
import Chip8.Proofs.Sprites

/-!
The glyphs last: no program can damage them, so a digit can always be drawn.
-/

namespace Chip8

namespace Memory

/-- The reserved area is as it was at first, and no access may change or run it. -/
structure Intact (m : Memory) : Prop where
  glyphs : m.slice 0x050 80 = Font.glyphs.toList
  zero : ∀ i < 0x200, i < 0x050 ∨ 0x0A0 ≤ i → m.byte i = 0
  write : ∀ a b, a.toNat < 0x200 → ∃ e, (Memory.write a b).run m = .error e m
  writeBlock : ∀ a data, (∃ i < 0x200, a.toNat ≤ i ∧ i < a.toNat + data.length) →
    ∃ e, (Memory.writeBlock a data).run m = .error e m
  fetch : ∀ a, (∃ i < 0x200, a.toNat ≤ i ∧ i < a.toNat + 2) → ∃ e, m.fetch a = .error e

variable {m : Memory}

/-- Inside the glyphs, a pristine memory reads as the font. -/
lemma Pristine.slice_eq (h : Pristine m) {i n : Nat} (hi : i + n ≤ 80) :
    m.slice (0x050 + i) n = (Font.glyphs.toList.drop i).take n := by
  have hlen : Font.glyphs.toList.length = 80 := Vector.length_toList
  refine List.ext_getElem ?_ fun k hk hk' => ?_
  · rw [length_slice, List.length_take, List.length_drop]
    omega
  · rw [length_slice] at hk
    rw [getElem_slice, h _ (by omega), reservedByte, if_pos (by omega),
      show 0x050 + i + k - 0x050 = i + k by omega, List.getD_eq_getElem?_getD,
      List.getElem?_eq_getElem (by omega), Option.getD_some, List.getElem_take, List.getElem_drop]

lemma Pristine.slice_glyph (h : Pristine m) (d : Fin 16) {n : Nat} (hn : n ≤ 5) :
    m.slice (0x050 + 5 * d) n = (Font.glyph d).take n := by
  rw [h.slice_eq (by omega), Font.glyph, List.take_take, Nat.min_eq_left hn]

lemma Pristine.intact (h : Pristine m) : Intact m where
  glyphs := h.slice_eq (i := 0) (by decide)
  zero i hi hout := by rw [h i hi, reservedByte, if_neg (by omega)]
  write _ b ha := writeBlock_refused [b] ha
  writeBlock a data := fun ⟨_, hi, ha, _⟩ => writeBlock_refused data (by omega)
  fetch a := fun ⟨_, hi, ha, _⟩ => fetch_refused (by omega)

end Memory

namespace Machine

variable {m : Machine}

lemma isLoaded_of_instruction? {i : Instruction 16} (h : m.instruction? = some i) :
    m.memory.isLoaded := by
  obtain ⟨w, hw, -⟩ := instruction?_eq_some_iff.mp h
  exact Memory.isLoaded_of_fetch hw

/-- The glyph of a digit can be read as a sprite. -/
lemma sprite_glyph (hp : m.memory.Pristine) (hl : m.memory.isLoaded) {d : Fin 16}
    (hindex : m.index.toNat = 0x050 + 5 * d) {n : UInt8} (hn : n.toNat ≤ 5) :
    m.sprite n = .ok ((Font.glyph d).take n.toNat) := by
  unfold sprite
  split
  next hzero =>
    rw [hzero]
    rfl
  next =>
    refine Memory.readBlock_eq_ok_iff.mpr ⟨Memory.checkReadable_eq_ok_iff.mpr ⟨hl, .inl ?_⟩, ?_⟩
    · omega
    · rw [hindex, hp.slice_glyph d hn]

lemma toNat_glyphAddress (b : UInt8) :
    (0x050 + 5 * b.toUInt16 : UInt16).toNat = 0x050 + 5 * b.toNat := by
  have hb := b.toNat_lt
  simp only [UInt16.toNat_add, UInt16.toNat_mul, UInt8.toNat_toUInt16, UInt16.reduceToNat]
  omega

/-- Drawing at the glyph of a digit comes off, and draws the digit. -/
lemma step_draw_glyph (hp : m.memory.Pristine) {d : Fin 16}
    (hindex : m.index.toNat = 0x050 + 5 * d) {x y : Nibble} {n : UInt8}
    (hi : m.instruction? = some (.draw x y n)) (hn : n.toNat ≤ 5) :
    ∃ t, step.run m = .ok () t ∧ ∀ px py, t.screen.pixel px py = (m.screen.pixel px py ^^
      decide (Screen.Covers (m.v.get x).toNat (m.v.get y).toNat ((Font.glyph d).take n.toNat)
        px py)) := by
  have hsprite := sprite_glyph hp (isLoaded_of_instruction? hi) hindex hn
  refine ⟨_, step_of_executes hi (.draw x y n hsprite), fun px py => ?_⟩
  have hlen : ((Font.glyph d).take n.toNat).length ≤ 32 := by
    rw [List.length_take]
    omega
  rw [screen_finish, m.pixel_blitAt x y hlen]

/-- **The glyphs last.** No access to a memory and no history of a machine changes the reserved
area. So whatever ran before, an instruction that points the index at the glyph of a digit, and
later one that draws there, come off, and flip the pixels of the digit. -/
theorem glyphs_last :
    (∀ accesses, (Memory.blank.after accesses).Intact) ∧
    ∀ (c : Config) (keypad : Keypad) (generator : Generator) (history : List Action),
      let m := (poweredOn c keypad generator).after history
      m.memory.Intact ∧
      ∀ (x : Nibble) (d : Fin 16), m.instruction? = some (.glyph x) → (m.v.get x).toNat = d →
        ∃ t, step.run m = .ok () t ∧ ∀ later : List Action,
          let u := t.after later
          u.index = t.index → ∀ (x' y : Nibble) (n : UInt8),
            u.instruction? = some (.draw x' y n) → n.toNat ≤ 5 →
            ∃ v, step.run u = .ok () v ∧ ∀ px py, v.screen.pixel px py =
              (u.screen.pixel px py ^^ decide (Screen.Covers (u.v.get x').toNat (u.v.get y).toNat
                ((Font.glyph d).take n.toNat) px py)) := by
  refine ⟨fun accesses => (Memory.pristine_blank.after accesses).intact, ?_⟩
  intro c keypad generator history m
  have hp : m.memory.Pristine := ((built_poweredOn c keypad generator).after history).pristine
  refine ⟨hp.intact, fun x d hi hd => ?_⟩
  obtain ⟨t, ht⟩ : ∃ t, step.run m = .ok () t := ⟨_, step_of_executes hi (.glyph x)⟩
  have htarget : t.index = 0x050 + 5 * (m.v.get x).toUInt16 := by
    rw [step_of_executes hi (.glyph x)] at ht
    cases ht
    rfl
  have hafter : t.memory.Pristine := by
    have hact : m.act .step = t := state_of_ok ht
    rw [← hact]
    exact pristine_after hp [.step]
  refine ⟨t, ht, ?_⟩
  intro later u hindex x' y n hdraw hn
  refine step_draw_glyph (m := u) (pristine_after hafter later) ?_ hdraw hn
  rw [hindex, htarget, toNat_glyphAddress, hd]

/-- A program draws a zero, and the picture is taken between its two instructions. -/
theorem glyphs_last_zero : ∃ m t v,
    (load [0xF0, 0x29, 0xD1, 0x25]).run (poweredOn {} .idle (.start fun _ => 0)) = .ok () m ∧
    step.run m = .ok () t ∧ step.run (t.after [.takeFrame]) = .ok () v ∧
    v.screen.pixel 3 0 = true ∧ v.screen.pixel 1 1 = false := by
  obtain ⟨m, hload⟩ := (poweredOn {} .idle (.start fun _ => 0)).load_accepted
    (p := [0xF0, 0x29, 0xD1, 0x25]) (by decide) (by decide)
  have hm := fresh_of_load hload
  obtain ⟨-, hlast⟩ := glyphs_last.2 {} .idle (.start fun _ => 0) [.load [0xF0, 0x29, 0xD1, 0x25]]
  rw [after_cons, after_nil, act_load_of_ok hload] at hlast
  obtain ⟨t, ht, hdraws⟩ := hlast 0 0 hm.instruction? (by rw [hm.v]; rfl)
  have htm : t = ({ m with index := 0x050 + 5 * (m.v.get 0).toUInt16 } : Machine).finish 0x202 := by
    have hstep := step_of_executes hm.instruction? (.glyph 0)
    rw [hm.pc, ht] at hstep
    cases hstep
    rfl
  have hdraw : (t.after [.takeFrame]).instruction? = some (.draw 1 2 5) :=
    hm.instruction?_at (a := 0x202) (by rw [htm]; rfl) (by rw [htm]; rfl) (by decide) (by decide)
  obtain ⟨v, hstep, hpixel⟩ := hdraws [.takeFrame] rfl 1 2 5 hdraw (by decide)
  have hscreen (x y : Nat) : (t.after [.takeFrame]).screen.pixel x y = false := by
    rw [htm]
    change m.screen.takeFrame.2.pixel x y = false
    rw [hm.screen]
    exact Screen.pixel_clear .blank x y
  have hv (k : Nibble) : (t.after [.takeFrame]).v.get k = 0 := by
    rw [htm]
    change m.v.get k = 0
    rw [hm.v, Bank.get_replicate]
  refine ⟨m, t, v, hload, ht, hstep, ?_, ?_⟩
  · rw [hpixel, hscreen, hv, hv]
    decide
  · rw [hpixel, hscreen, hv, hv]
    decide

end Machine

end Chip8
