import Chip8.CommandLine.Files

/-!
Files in memory: a tree of directories, and the directory that paths start from. A path names its
directories one by one. It may go up with `..` and stay with `.`; a slash at its end asks for a
directory.
-/

namespace Chip8.CommandLine

inductive Node where
  | file (content : List UInt8)
  | directory

/-- The nodes of the tree by their way from the root. The root itself is a directory and not
listed. -/
structure Disk where
  nodes : List (List String × Node)
  working : List String

namespace Disk

def node? (d : Disk) (path : List String) : Option Node :=
  if path.isEmpty then some .directory else d.nodes.lookup path

/-- The parts of a path between its slashes. An empty part stands for the directory that has been
reached; slashes at the end start no part. -/
def parts (path : String) : List String :=
  ((path.splitOn "/").reverse.dropWhile String.isEmpty).reverse.map fun p =>
    if p.isEmpty then "." else p

/-- The longest name that a part can have, in bytes, and the longest path. -/
def nameLimit : Nat := 255

def pathLimit : Nat := 4095

/-- Where a part leads from a node. -/
def enter (d : Disk) (way : List String) (part : String) : Except FileError (List String) :=
  match d.node? way with
  | none => .error .notFound
  | some (.file _) => .error .notDirectory
  | some .directory =>
    if part = "." then .ok way
    else if part = ".." then .ok way.dropLast
    else if nameLimit < part.utf8ByteSize then .error .nameTooLong
    else .ok (way ++ [part])

def walk (d : Disk) : List String → List String → Except FileError (List String)
  | [], way => .ok way
  | part :: rest, way => do walk d rest (← d.enter way part)

/-- The directory that a path starts from, and its parts. -/
def start (d : Disk) (path : String) : Except FileError (List String × List String) :=
  if pathLimit < path.utf8ByteSize then .error .nameTooLong
  else .ok (if path.startsWith "/" then [] else d.working, parts path)

def read (d : Disk) (path : String) : Except ReadFailure (List UInt8) :=
  let node := do
    let (way, parts) ← d.start path
    match d.node? (← d.walk (if path.endsWith "/" then parts ++ ["."] else parts) way) with
    | some n => .ok n
    | none => .error .notFound
  match node with
  | .error e => .error (.cannotOpen e)
  | .ok .directory => .error (.cannotRead .isDirectory)
  | .ok (.file content) => .ok content

/-- The way to a file that is to be written; it need not exist, but its directory has to. A path
that asks for a directory is refused before its last name is looked at. -/
def writable (d : Disk) (path : String) : Except FileError (List String) := do
  let (way, parts) ← d.start path
  let way ← d.walk parts.dropLast way
  let last := parts.getLastD "."
  if last = "." ∨ last = ".." ∨ path.endsWith "/" then
    discard (d.enter way ".")
    throw .isDirectory
  else
    let file ← d.enter way last
    match d.node? file with
    | some .directory => throw .isDirectory
    | _ => return file

def write (d : Disk) (path content : String) : Except FileError Disk := do
  let file ← d.writable path
  let others := d.nodes.filter fun n => n.1 ≠ file
  return { d with nodes := (file, .file content.toUTF8.toList) :: others }

/-- The files of a disk, as the command line wants them. -/
def files : Files (StateM Disk) where
  read path := do return (← get).read path
  write path content := do
    match (← get).write path content with
    | .ok d =>
      set d
      return .ok ()
    | .error e => return .error e

end Disk

end Chip8.CommandLine
