/-!
The files that the command line reads and writes, in any monad, and what can go wrong with them.
-/

namespace Chip8.CommandLine

inductive FileError where
  | notFound
  | notDirectory
  | isDirectory
  | nameTooLong
  | other (text : String)
deriving DecidableEq

def FileError.message : FileError → String
  | notFound => "No such file or directory (os error 2)"
  | notDirectory => "Not a directory (os error 20)"
  | isDirectory => "Is a directory (os error 21)"
  | nameTooLong => "File name too long (os error 36)"
  | other text => text

/-- A directory can be opened, but not read. -/
inductive ReadFailure where
  | cannotOpen (why : FileError)
  | cannotRead (why : FileError)
deriving DecidableEq

structure Files (m : Type → Type) where
  read : String → m (Except ReadFailure (List UInt8))
  /-- Takes the place of what was there before. -/
  write : String → String → m (Except FileError Unit)

end Chip8.CommandLine
