import Chip8.CommandLine.Files
import Chip8.CommandLine.Help
import Chip8.Disassembly
import Chip8.HexDump
import Chip8.Memory.Trace
import Chip8.Text.Quoted

/-!
What the command line does: it lists a program, writes its bytes to a file, or plays it. Failures
are reported with what was being done, and the cause.
-/

namespace Chip8.CommandLine

inductive Outcome where
  | exit (code : Nat) (out err : String)
  /-- The listing or dump was done. -/
  | done (out : String) (log : Log)
  /-- The program is to be played. -/
  | play (args : Arguments) (program : List UInt8)

def report (context cause : String) : String :=
  "Error: " ++ context ++ "\n\nCaused by:\n    " ++ cause ++ "\n"

def failure (context cause : String) : Outcome := .exit 1 "" (report context cause)

def loadFailure (e : LoadError) : Outcome := failure "failed to load ROM" e.message

def halted : Halt → Outcome
  | .help detailed => .exit 0 (Help.text detailed) ""
  | .version => .exit 0 Help.version ""
  | .refused why => .exit 2 "" ("error: " ++ why.message ++ "\n\n" ++ Help.usage ++
      "\nFor more information, try '--help'.\n")

variable {m : Type → Type} [Monad m]

/-- Writes the bytes of a program to a file, if the program can be loaded. -/
def dump (files : Files m) (program : List UInt8) (path : String) : m Outcome :=
  match (Memory.load program).run .blank with
  | .error e _ => return loadFailure e
  | .ok _ memory => do
    match ← files.write path (HexDump.text memory.program) with
    | .error e => return failure ("failed to write " ++ Text.quoted path) e.message
    | .ok () => return .done "" (Memory.blank.loadLog program ++
        [⟨.info, "memory dumped to " ++ Text.quoted path⟩])

/-- A listing comes before a dump. -/
def start (files : Files m) (args : Arguments) : m Outcome := do
  match ← files.read args.rom with
  | .error (.cannotOpen e) => return failure ("failed to open " ++ Text.quoted args.rom) e.message
  | .error (.cannotRead e) => return failure "failed to read file" e.message
  | .ok program =>
    if args.disassemble then return .done (Disassembly.listing program 0x200) []
    else match args.dump with
      | some path => dump files program path
      | none => return .play args program

/-- Reads the command line, and does what it asks for. -/
def run (parse : List String → Except Halt Arguments) (files : Files m) (args : List String) :
    m Outcome :=
  match parse args with
  | .error h => return halted h
  | .ok args => start files args

end Chip8.CommandLine
