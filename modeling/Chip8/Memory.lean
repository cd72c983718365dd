import Chip8.Font
import Chip8.Hex
import Chip8.Word

/-!
The memory of the machine, 4096 bytes. The glyphs stand at `0x050` to `0x09F`, the program at
`0x200` and above, and the rest is reserved.

Nothing can be accessed before a program is loaded. A block can be read if it lies inside the
glyphs or inside the program region; writes and instruction fetches stay inside the program
region. Loads and writes act on the memory in place; they are refused before they change anything.
-/

namespace Chip8

inductive LoadError where
  | empty
  | tooLarge (size : Nat)
deriving DecidableEq

inductive MemoryError where
  | notLoaded
  | outOfBounds (address : UInt16)
deriving DecidableEq

structure Memory where
  bytes : Vector UInt8 4096
  /-- The size of the program that was loaded last. -/
  programSize : Option Nat
deriving DecidableEq

namespace Memory

abbrev size : Nat := 4096

abbrev fontStart : Nat := 0x050

abbrev fontEnd : Nat := 0x0A0

abbrev programStart : Nat := 0x200

/-- The most bytes that a program can have. -/
abbrev capacity : Nat := size - programStart

end Memory

def LoadError.message : LoadError → String
  | empty => "program image is empty"
  | tooLarge n => "program image is " ++ toString n ++ " bytes, but only " ++
      toString Memory.capacity ++ " fit above 0x200"

def MemoryError.message : MemoryError → String
  | notLoaded => "no program has been loaded"
  | outOfBounds a => "address " ++ Hex.address a ++ " is outside the addressable program range"

namespace Memory

/-- All zero but for the glyphs, with nothing loaded. -/
def blank : Memory where
  bytes := Vector.ofFn fun a =>
    if fontStart ≤ a.val ∧ a.val < fontEnd then Font.glyphs.toArray.getD (a - fontStart) 0 else 0
  programSize := none

/-- The byte at an address, and zero outside memory. -/
def byte (m : Memory) (a : Nat) : UInt8 := m.bytes[a]?.getD 0

/-- The bytes from an address on, without any check. -/
def slice (m : Memory) (a n : Nat) : List UInt8 := (List.range n).map fun i => m.byte (a + i)

/-- Writes bytes from an address on, as far as they fit. -/
def store (bytes : Vector UInt8 4096) (a : Nat) : List UInt8 → Vector UInt8 4096
  | [] => bytes
  | b :: rest => store (bytes.setIfInBounds a b) (a + 1) rest

def isLoaded (m : Memory) : Bool := m.programSize.isSome

/-- The program region is filled with zeros before it takes the program's bytes. -/
def load (program : List UInt8) : EStateM LoadError Memory Unit := do
  if program.isEmpty then throw .empty
  if program.length > capacity then throw (.tooLarge program.length)
  modify fun m => { m with bytes := store m.bytes programStart (List.replicate capacity 0) }
  modify fun m => { m with bytes := store m.bytes programStart program }
  modify fun m => { m with programSize := some program.length }

/-- The bytes that stand where the program was loaded. -/
def program (m : Memory) : List UInt8 := m.slice programStart (m.programSize.getD 0)

/-- The block ends inside memory. If not, the error names its first address that does not. -/
def checkEnd (a : UInt16) (n : Nat) : Except MemoryError Unit :=
  if a.toNat + n ≤ size then .ok () else .error (.outOfBounds (max a 0x1000))

def checkWritable (m : Memory) (a : UInt16) (n : Nat) : Except MemoryError Unit :=
  if m.isLoaded then do
    checkEnd a n
    if a.toNat < programStart then .error (.outOfBounds a)
  else .error .notLoaded

def checkReadable (m : Memory) (a : UInt16) (n : Nat) : Except MemoryError Unit :=
  if m.isLoaded ∧ fontStart ≤ a.toNat ∧ a.toNat + n ≤ fontEnd then .ok ()
  else m.checkWritable a n

def readBlock (m : Memory) (a : UInt16) (n : Nat) : Except MemoryError (List UInt8) := do
  m.checkReadable a n
  return m.slice a.toNat n

def writeBlock (a : UInt16) (data : List UInt8) : EStateM MemoryError Memory Unit := do
  MonadExcept.ofExcept ((← get).checkWritable a data.length)
  modify fun m => { m with bytes := store m.bytes a.toNat data }

def read (m : Memory) (a : UInt16) : Except MemoryError UInt8 := do
  m.checkReadable a 1
  return m.byte a.toNat

def write (a : UInt16) (b : UInt8) : EStateM MemoryError Memory Unit := writeBlock a [b]

/-- The instruction word at an address. -/
def fetch (m : Memory) (a : UInt16) : Except MemoryError UInt16 := do
  m.checkWritable a 2
  return Word.ofBytes (m.byte a.toNat) (m.byte (a.toNat + 1))

theorem byte_eq_getElem (m : Memory) {a : Nat} (h : a < 4096) : m.byte a = m.bytes[a] := by
  simp [byte, h]

theorem byte_of_le (m : Memory) {a : Nat} (h : 4096 ≤ a) : m.byte a = 0 := by
  simp [byte, h]

@[simp] theorem length_slice (m : Memory) (a n : Nat) : (m.slice a n).length = n := by
  simp [slice]

theorem getElem_slice (m : Memory) {a n i : Nat} (h : i < (m.slice a n).length) :
    (m.slice a n)[i] = m.byte (a + i) := by
  simp [slice]

@[simp] theorem store_nil (bytes : Vector UInt8 4096) (a : Nat) : store bytes a [] = bytes := rfl

@[simp] theorem store_cons (bytes : Vector UInt8 4096) (a : Nat) (b : UInt8) (rest : List UInt8) :
    store bytes a (b :: rest) = store (bytes.setIfInBounds a b) (a + 1) rest := rfl

/-- Only the addresses of the data change. -/
theorem getElem_store (bytes : Vector UInt8 4096) (a : Nat) (data : List UInt8) {i : Nat}
    (hi : i < 4096) : (store bytes a data)[i] =
      if a ≤ i ∧ i < a + data.length then data.getD (i - a) 0 else bytes[i] := by
  induction data generalizing bytes a with
  | nil =>
    rw [store_nil, if_neg]
    simp only [List.length_nil]
    omega
  | cons b rest ih =>
    rw [store_cons, ih, List.length_cons, Vector.getElem_setIfInBounds]
    by_cases h : a = i
    · subst h
      rw [if_neg (by omega), if_pos rfl, if_pos (by omega)]
      simp
    · rw [if_neg h]
      by_cases h' : a + 1 ≤ i ∧ i < a + 1 + rest.length
      · rw [if_pos h', if_pos (by omega), show i - a = i - (a + 1) + 1 by omega]
        simp
      · rw [if_neg h', if_neg (by omega)]

end Memory

end Chip8
