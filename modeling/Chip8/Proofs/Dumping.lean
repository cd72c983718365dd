import Chip8.CommandLine.Run
import Chip8.Proofs.Contents
import Chip8.Proofs.Destination
import Chip8.Proofs.Disks
import Chip8.Proofs.Dumps
import Chip8.Proofs.Recovery
import Chip8.Proofs.Reload

/-!
A dump loses nothing: the program can be read back from it, in memory and on the command line.

The command line has one exception. Where a listing is asked for as well, there is no dump.
-/

namespace Chip8.Memory

variable {m t : Memory} {p : List UInt8} {writes : List Action}

/-- As long as nothing else is loaded, memory holds the image and the writes on top of it. -/
lemma Holds.after (h : Holds p writes m) {history : List Action}
    (hno : NoLoad (m.accepted history)) :
    Holds p (writes ++ m.accepted history) (m.after history) := by
  induction history generalizing m writes with
  | nil => exact (List.append_nil writes).symm ▸ h
  | cons a as ih =>
    rw [accepted] at hno ⊢
    rw [after_cons]
    cases hok : m.accepts a
    · have hm := act_of_refused hok
      rw [hok, hm] at hno
      rw [hm]
      exact ih h hno
    · rw [hok] at hno
      have ha (q : List UInt8) : a ≠ .load q := by
        rintro rfl
        exact hno q List.mem_cons_self
      rw [if_pos rfl, ← List.append_assoc]
      exact ih (h.act hok ha) fun q hq => hno q (List.mem_cons_of_mem _ hq)

lemma Holds.length_program (h : Holds p writes m) : m.program.length = p.length := by
  rw [Memory.length_program, h.programSize, Option.getD_some]

/-- An image that nothing was written into is the program. -/
lemma Holds.program_eq (h : Holds p writes m)
    (hnone : ∀ i, 0x200 ≤ i → i < 0x200 + p.length → lastWritten? writes i = none) :
    m.program = p := by
  refine List.ext_getElem h.length_program fun i hi hp => ?_
  have hfits := h.length_le
  have hbyte : m.byte (0x200 + i) = p.getD i 0 := by
    rw [h.byte (by omega) (by omega), hnone _ (by omega) (by omega), Option.getD_none,
      Nat.add_sub_cancel_left]
  rw [List.getD_eq_getElem?_getD, List.getElem?_eq_getElem hp, Option.getD_some] at hbyte
  rw [← hbyte]
  exact getElem_slice _ hi

end Chip8.Memory

namespace Chip8.CommandLine

open HexDump Memory

/-- The command line asks for a listing. -/
def AsksListing (args : List String) : Prop := "--disassemble" ∈ args.takeWhile (· ≠ "--")

variable {σ : Type} {parse : List String → Except Halt Arguments} {files : Files (StateM σ)}
  {disk disk' disk'' : σ} {args : List String} {parsed : Arguments} {path : String} {p : List UInt8}

lemma dump_of_error {e : LoadError} {t : Memory} (h : (load p).run blank = .error e t) :
    (dump files p path).run disk = (loadFailure e, disk) := by
  unfold dump
  rw [h]
  rfl

lemma dump_of_load {t : Memory} (h : (load p).run blank = .ok () t)
    (hwrite : (files.write path (text t.program)).run disk = (.ok (), disk')) :
    ∃ log, (dump files p path).run disk = (.done "" log, disk') := by
  unfold dump
  rw [h]
  dsimp only
  rw [StateT.run_bind, hwrite]
  exact ⟨_, rfl⟩

/-- Where no listing is asked for, the command line goes on to the dump. -/
lemma run_dump (hparse : parse args = .ok parsed) (hdump : parsed.dump = some path)
    (hno : parsed.disassemble = false)
    (hread : (files.read parsed.rom).run disk = (.ok p, disk')) :
    (run parse files args).run disk = (dump files p path).run disk' := by
  unfold run
  rw [hparse]
  dsimp only [start]
  rw [StateT.run_bind, hread, hno, hdump]
  rfl

lemma run_dump_of_load (hparse : parse args = .ok parsed) (hdump : parsed.dump = some path)
    (hno : parsed.disassemble = false)
    (hread : (files.read parsed.rom).run disk = (.ok p, disk')) (hp : p ≠ [])
    (hn : p.length ≤ 3584) (hwrite : (files.write path (text p)).run disk' = (.ok (), disk'')) :
    ∃ log, (run parse files args).run disk = (.done "" log, disk'') := by
  obtain ⟨t, ht⟩ := load_accepted (m := blank) hp hn
  have hprogram : t.program = p := (holds_of_load ht).program_eq fun _ _ _ => rfl
  rw [run_dump hparse hdump hno hread]
  exact dump_of_load ht (by rwa [hprogram])

/-- **A dump loses nothing.** In memory it has the layout for the program and reads back as it, and
the program is the image that was loaded until something is written into that. Two memories have
one dump exactly if they have one program. On the command line the file that is written reads back
as the program, if that can be loaded and no listing is asked for; a program that cannot be loaded
leaves the files as they are. -/
theorem dump_lossless :
    -- in memory
    (∀ (m : Memory) (p : List UInt8), p ≠ [] → p.length ≤ 3584 → ∃ t, (load p).run m = .ok () t ∧
      ∀ later, NoLoad (t.accepted later) →
        let u := t.after later
        u.program.length = p.length ∧ Spells u.program (text u.program) ∧
        ((∀ i, 0x200 ≤ i → i < 0x200 + p.length → lastWritten? (t.accepted later) i = none) →
          u.program = p)) ∧
    (∀ m m' : Memory, text m.program = text m'.program ↔ m.program = m'.program) ∧
    -- on a command line that asks for a dump, whatever reads it
    (∀ (σ : Type) (parse : List String → Except Halt Arguments) (files : Files (StateM σ))
      (disk disk' : σ) (args : List String) (parsed : Arguments) (path : String) (p : List UInt8),
      parse args = .ok parsed → parsed.dump = some path →
      (files.read parsed.rom).run disk = (.ok p, disk') →
      (parsed.disassemble = true →
        (run parse files args).run disk = (.done (Disassembly.listing p 0x200) [], disk')) ∧
      (parsed.disassemble = false →
        (p = [] → (run parse files args).run disk = (loadFailure .empty, disk')) ∧
        (3584 < p.length →
          (run parse files args).run disk = (loadFailure (.tooLarge p.length), disk')) ∧
        (p ≠ [] → p.length ≤ 3584 → ∃ dump, Spells p dump ∧
          ∀ disk'', (files.write path dump).run disk' = (.ok (), disk'') →
            ∃ log, (run parse files args).run disk = (.done "" log, disk'')))) ∧
    -- on a disk
    (∀ (d : Disk) (parse : List String → Except Halt Arguments) (args : List String)
      (parsed : Arguments) (path : String) (file : List String) (p : List UInt8),
      parse args = .ok parsed → parsed.dump = some path → parsed.disassemble = false →
      d.read parsed.rom = .ok p → d.writable path = .ok file → p ≠ [] → p.length ≤ 3584 →
      ∃ d' log dump, (run parse Disk.files args).run d = (.done "" log, d') ∧
        d'.read path = .ok dump.toUTF8.toList ∧ Spells p dump) ∧
    -- which command lines ask for a dump, and which for a listing
    ∀ (args : List String) (parsed : Arguments), Arguments.parse args = .ok parsed →
      (∀ path, parsed.dump = some path ↔ AsksDump (args.takeWhile (· ≠ "--")) path) ∧
      (parsed.disassemble = true ↔ AsksListing args) := by
  refine ⟨fun m p hp hn => ?_, fun m m' => text_inj,
    fun σ parse files disk disk' args parsed path p hparse hdump hread =>
      ⟨fun hlists => ?_, fun hno => ⟨?_, ?_, ?_⟩⟩,
    fun d parse args parsed path file p hparse hdump hno hread hwritable hp hn => ?_,
    fun args parsed hparse => ⟨dump_iff hparse, disassemble_iff hparse⟩⟩
  · obtain ⟨t, ht⟩ := m.load_accepted hp hn
    refine ⟨t, ht, fun later hlater => ?_⟩
    have hholds := (holds_of_load ht).after hlater
    rw [List.nil_append] at hholds
    exact ⟨hholds.length_program, spells_text _, hholds.program_eq⟩
  · exact run_listing hparse hlists hread
  · rintro rfl
    rw [run_dump hparse hdump hno hread, dump_of_error rfl]
  · intro hlarge
    rw [run_dump hparse hdump hno hread, dump_of_error (load_of_tooLarge blank hlarge)]
  · exact fun hp hn => ⟨text p, spells_text p, fun disk'' hwrite =>
      run_dump_of_load hparse hdump hno hread hp hn hwrite⟩
  · obtain ⟨d', hwrite, hfile⟩ := Disk.read_of_write hwritable (text p)
    have hread' : (Disk.files.read parsed.rom).run d = (.ok p, d) := congrArg (·, d) hread
    obtain ⟨log, hrun⟩ :=
      run_dump_of_load hparse hdump hno hread' hp hn (Disk.run_write hwrite)
    exact ⟨d', log, text p, hrun, hfile, spells_text p⟩

/-- Arguments that ask for a dump to the file `out`. -/
def dumpsOut (rom : String) (disassemble : Bool) : Arguments :=
  { rom, config := {}, mute := false, frames := none, disassemble, dump := some "out" }

/-- A program of three bytes, in memory before and after a write, and on a disk beside an empty
file. -/
theorem dump_lossless_beside : ∃ t : Memory, ∃ d' : Disk, ∃ log dump,
    let p : List UInt8 := [0x60, 0x05, 0x12]
    let d : Disk := { nodes := [(["c8"], .file p), (["none"], .file [])], working := [] }
    (load p).run blank = .ok () t ∧ Spells p (text t.program) ∧
    Spells (t.after [.write 0x201 7]).program (text (t.after [.write 0x201 7]).program) ∧
    (run Arguments.parse Disk.files ["--dump", "out", "c8"]).run d = (.done "" log, d') ∧
    d'.read "out" = .ok dump.toUTF8.toList ∧ Spells p dump ∧
    (run Arguments.parse Disk.files ["--dump=out", "none"]).run d = (loadFailure .empty, d) ∧
    (run Arguments.parse Disk.files ["--dump=out", "--disassemble", "none"]).run d =
      (.done "" [], d) := by
  let p : List UInt8 := [0x60, 0x05, 0x12]
  let d : Disk := { nodes := [(["c8"], .file p), (["none"], .file [])], working := [] }
  obtain ⟨hmemory, -, hcommand, hdisk, hasks⟩ := dump_lossless
  obtain ⟨t, ht, hlater⟩ := hmemory blank p (by decide) (by decide)
  obtain ⟨-, hspells, hprogram⟩ := hlater [] nofun
  have hprogram : t.program = p := hprogram fun _ _ _ => rfl
  have hwrite : NoLoad (t.accepted [.write 0x201 7]) := by
    intro q hq
    rw [accepted, accepted, List.append_nil] at hq
    split at hq <;> simp at hq
  have hnext : Arguments.parse ["--dump", "out", "c8"] = .ok (dumpsOut "c8" false) := rfl
  have hbehind : Arguments.parse ["--dump=out", "none"] = .ok (dumpsOut "none" false) := rfl
  have hboth : Arguments.parse ["--dump=out", "--disassemble", "none"] =
      .ok (dumpsOut "none" true) := rfl
  obtain ⟨d', log, dump, hrun, hread, hdump⟩ := hdisk d _ _ _ "out" ["out"] p hnext
    (((hasks _ _ hnext).1 _).mpr (by unfold AsksDump; decide)) rfl (by cbv) (by cbv) (by decide)
    (by decide)
  have hempty := (hcommand Disk _ Disk.files d d _ _ "out" [] hbehind rfl (by cbv)).2 rfl
  have hlisting := (hcommand Disk _ Disk.files d d _ _ "out" [] hboth rfl (by cbv)).1
    ((hasks _ _ hboth).2.mpr (by unfold AsksListing; decide))
  exact ⟨t, d', log, dump, ht, hprogram ▸ hspells, (hlater _ hwrite).2.1, hrun, hread, hdump,
    hempty.1 rfl, hlisting⟩

/-- Where a listing is asked for as well, a program that could be dumped is not. -/
theorem listing_precedes_dump :
    let d : Disk := { nodes := [(["c8"], .file [0x00, 0xE0])], working := [] }
    let args := ["--disassemble", "--dump", "out", "c8"]
    (∃ parsed, Arguments.parse args = .ok parsed ∧ parsed.rom = "c8" ∧ parsed.dump = some "out") ∧
    d.read "c8" = .ok [0x00, 0xE0] ∧ (state? (load [0x00, 0xE0]) blank).isSome ∧
    d.writable "out" = .ok ["out"] ∧
    (run Arguments.parse Disk.files args).run d = (.done "200: 00e0  CLS\n" [], d) ∧
    d.read "out" = .error (.cannotOpen .notFound) := by
  intro d args
  have hread : d.read "c8" = .ok [0x00, 0xE0] := by cbv
  have hparse : Arguments.parse args = .ok (dumpsOut "c8" true) := rfl
  have hlisting : Disassembly.listing [0x00, 0xE0] 0x200 = "200: 00e0  CLS\n" := by decide
  have hrun : (run Arguments.parse Disk.files args).run d =
      (.done (Disassembly.listing [0x00, 0xE0] 0x200) [], d) :=
    run_listing hparse rfl (congrArg (·, d) hread)
  exact ⟨⟨_, hparse, rfl, rfl⟩, hread, rfl, by cbv, hlisting ▸ hrun, by cbv⟩

end Chip8.CommandLine
