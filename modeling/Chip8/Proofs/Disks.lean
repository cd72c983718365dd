import Chip8.CommandLine.Disk
import Chip8.Proofs.Options

/-!
What has been written to a file on a disk is read back from it.

A file that can be written stands where no directory is. So a write leaves all directories in
place, and the way to the file leads there afterwards as it did before.
-/

namespace Chip8.CommandLine.Disk

variable {d : Disk} {path : String} {file way way' : List String} {content : List UInt8}

/-- The disk with a file put in the place of what was there before. -/
def put (d : Disk) (file : List String) (content : List UInt8) : Disk :=
  { d with nodes := (file, .file content) :: d.nodes.filter fun n => n.1 ≠ file }

lemma write_of_writable (h : d.writable path = .ok file) (content : String) :
    d.write path content = .ok (d.put file content.toUTF8.toList) := by
  unfold write
  rw [h]
  rfl

lemma node?_put_self (h : file ≠ []) : (d.put file content).node? file = some (.file content) := by
  have hempty : file.isEmpty = false := by simpa using h
  simp [node?, hempty, put]

lemma node?_put_of_ne (h : way ≠ file) : (d.put file content).node? way = d.node? way := by
  have hbeq : (way == file) = false := by simpa using h
  have hlookup (nodes : List (List String × Node)) :
      (nodes.filter fun n => n.1 ≠ file).lookup way = nodes.lookup way := by
    induction nodes with
    | nil => rfl
    | cons n nodes ih =>
      obtain ⟨key, node⟩ := n
      by_cases hkey : key = file
      · subst hkey
        rw [List.filter_cons_of_neg (by simp), ih, List.lookup_cons, hbeq]
      · rw [List.filter_cons_of_pos (by simpa using hkey), List.lookup_cons, List.lookup_cons, ih]
  unfold node?
  rw [put, List.lookup_cons, hbeq]
  exact congrArg _ (hlookup d.nodes)

/-- A part that led on from a directory still does. -/
lemma enter_put (hfile : d.node? file ≠ some .directory) {part : String}
    (h : d.enter way part = .ok way') : (d.put file content).enter way part = .ok way' := by
  have hway : way ≠ file := by
    rintro rfl
    unfold enter at h
    split at h
    next => cases h
    next => cases h
    next hdirectory => exact hfile hdirectory
  unfold enter at h ⊢
  rw [node?_put_of_ne hway]
  exact h

lemma walk_put (hfile : d.node? file ≠ some .directory) {parts : List String}
    (h : d.walk parts way = .ok way') : (d.put file content).walk parts way = .ok way' := by
  induction parts generalizing way with
  | nil => exact h
  | cons part rest ih =>
    obtain ⟨next, henter, hwalk⟩ := bind_eq_ok_iff.mp h
    exact bind_eq_ok_iff.mpr ⟨next, enter_put hfile henter, ih hwalk⟩

lemma walk_concat {parts : List String} {part : String} (h : d.walk parts way = .ok way') :
    d.walk (parts ++ [part]) way = d.enter way' part := by
  induction parts generalizing way with
  | nil =>
    cases h
    exact bind_pure _
  | cons first rest ih =>
    obtain ⟨next, henter, hwalk⟩ := bind_eq_ok_iff.mp h
    rw [List.cons_append, walk, henter]
    exact ih hwalk

/-- The way to a file that can be written. -/
lemma walk_of_writable (h : d.writable path = .ok file) : ∃ way parts,
    d.start path = .ok (way, parts) ∧ path.endsWith "/" = false ∧
    d.walk parts way = .ok file ∧ d.node? file ≠ some .directory := by
  unfold writable at h
  obtain ⟨⟨way, parts⟩, hstart, h⟩ := bind_eq_ok_iff.mp h
  obtain ⟨way', hwalk, h⟩ := bind_eq_ok_iff.mp h
  dsimp only at h
  split at h
  next =>
    obtain ⟨_, _, h⟩ := bind_eq_ok_iff.mp h
    cases h
  next hname =>
    obtain ⟨found, henter, h⟩ := bind_eq_ok_iff.mp h
    split at h
    next => cases h
    next hfile =>
      cases h
      simp only [not_or, Bool.not_eq_true] at hname
      obtain ⟨hdot, -, hend⟩ := hname
      have hparts : parts ≠ [] := by
        rintro rfl
        exact hdot rfl
      have hlast : parts.dropLast ++ [parts.getLastD "."] = parts := by
        rw [List.getLastD_eq_getLast?, List.getLast?_eq_some_getLast hparts, Option.getD_some,
          List.dropLast_concat_getLast]
      refine ⟨way, parts, hstart, hend, ?_, hfile⟩
      rw [← hlast, walk_concat hwalk, henter]

lemma read_eq_ok {parts : List String} (hstart : d.start path = .ok (way, parts))
    (hend : path.endsWith "/" = false) (hwalk : d.walk parts way = .ok file)
    (hfile : d.node? file = some (.file content)) : d.read path = .ok content := by
  simp [read, hstart, hend, hwalk, hfile, bind, Except.bind]

/-- **A file holds what was written to it.** -/
theorem read_of_write (h : d.writable path = .ok file) (content : String) : ∃ d',
    d.write path content = .ok d' ∧ d'.read path = .ok content.toUTF8.toList := by
  obtain ⟨way, parts, hstart, hend, hwalk, hfile⟩ := walk_of_writable h
  have hne : file ≠ [] := by
    rintro rfl
    exact hfile rfl
  -- the path starts from the same directory, which does not depend on the files
  exact ⟨_, write_of_writable h content,
    read_eq_ok hstart hend (walk_put hfile hwalk) (node?_put_self hne)⟩

lemma run_write {d' : Disk} {content : String} (h : d.write path content = .ok d') :
    (files.write path content).run d = (.ok (), d') := by
  simp only [files, StateT.run_bind, StateT.run_get, pure_bind, h]
  rfl

end Chip8.CommandLine.Disk
