import Chip8.CommandLine.Numeral
import Chip8.Config

/-!
The command line: the name of a program to run, and options. An option's value follows it as the
next argument or behind an equals sign. Each option can be given once. After `--` all arguments
are names.

The value of an option is looked at when the next argument that starts something new has been
recognised, or at the end. So an argument that nobody knows is reported before a bad value that
stands in front of it.
-/

namespace Chip8.CommandLine

/-- What takes a value. -/
inductive Parameter where
  | rom
  | hz
  | timerHz
  | timers
  | seed
  | frames
  | dump
deriving DecidableEq

/-- What takes no value. -/
inductive Flag where
  | mute
  | movesIndex
  | disassemble
  | help
  | version
deriving DecidableEq

/-- How usage texts write a parameter. -/
def Parameter.spec : Parameter → String
  | rom => "<ROM>"
  | hz => "--hz <HZ>"
  | timerHz => "--timer-hz <TIMER_HZ>"
  | timers => "--timers <TIMERS>"
  | seed => "--seed <SEED>"
  | frames => "--frames <FRAMES>"
  | dump => "--dump <DUMP>"

def Parameter.ofName? : String → Option Parameter
  | "hz" => some hz
  | "timer-hz" => some timerHz
  | "timers" => some timers
  | "seed" => some seed
  | "frames" => some frames
  | "dump" => some dump
  | _ => none

def Flag.spec : Flag → String
  | mute => "--mute"
  | movesIndex => "--index-quirk"
  | disassemble => "--disassemble"
  | help => "--help"
  | version => "--version"

def Flag.ofName? : String → Option Flag
  | "mute" => some mute
  | "index-quirk" => some movesIndex
  | "disassemble" => some disassemble
  | "help" => some help
  | "version" => some version
  | _ => none

/-- Why a command line is refused. -/
inductive Refusal where
  | unknown (argument : String)
  | missingRom
  | missingValue (parameter : Parameter)
  | notAChoice (parameter : Parameter) (value : String)
  | notANumber (parameter : Parameter) (value : String)
  | repeated (spec : String)
  | unneededValue (flag : Flag) (value : String)
deriving DecidableEq

def Refusal.message : Refusal → String
  | unknown a => "unexpected argument '" ++ a ++ "' found"
  | missingRom => "the following required arguments were not provided:\n  <ROM>"
  | missingValue p => "a value is required for '" ++ p.spec ++ "' but none was supplied"
  | notAChoice p v => "invalid value '" ++ v ++ "' for '" ++ p.spec ++
      "'\n  [possible values: fixed, per-step]"
  | notANumber p v => "invalid value '" ++ v ++ "' for '" ++ p.spec ++ "'"
  | repeated spec => "the argument '" ++ spec ++ "' cannot be used multiple times"
  | unneededValue f v => "unexpected value '" ++ v ++ "' for '" ++ f.spec ++
      "' found; no more were expected"

/-- Why reading a command line ends without arguments to run with. -/
inductive Halt where
  /-- The detailed help, or the short one. -/
  | help (detailed : Bool)
  | version
  | refused (why : Refusal)
deriving DecidableEq

structure Arguments where
  rom : String
  config : Config
  mute : Bool
  frames : Option Nat
  disassemble : Bool
  dump : Option String
deriving DecidableEq

/-- What has been given so far. -/
structure Given where
  rom : Option String := none
  hz : Option Nat := none
  timerHz : Option Nat := none
  timers : Option TimerMode := none
  seed : Option Nat := none
  frames : Option Nat := none
  dump : Option String := none
  mute : Bool := false
  movesIndex : Bool := false
  disassemble : Bool := false
deriving DecidableEq

namespace Given

def path (p : Parameter) (value : String) : Except Halt String :=
  if value.isEmpty then throw (.refused (.missingValue p)) else pure value

def number (p : Parameter) (value : String) (n : Option Nat) : Except Halt Nat :=
  match n with
  | some n => pure n
  | none => throw (.refused (.notANumber p value))

def timerMode (value : String) : Except Halt TimerMode :=
  match value with
  | "fixed" => pure .fixed
  | "per-step" => pure .perStep
  | _ => throw (.refused (.notAChoice .timers value))

/-- A value for a parameter that may have one already. -/
def once {α : Type} (p : Parameter) (old : Option α) (value : Except Halt α) :
    Except Halt (Option α) :=
  if old.isSome then throw (.refused (.repeated p.spec)) else return some (← value)

def set (g : Given) (p : Parameter) (value : String) : Except Halt Given :=
  match p with
  | .rom => do return { g with rom := ← once p g.rom (path p value) }
  | .hz => do
    return { g with hz := ← once p g.hz (number p value (Numeral.nonnegative? UInt32.size value)) }
  | .timerHz => do
    let n := Numeral.nonnegative? UInt32.size value
    return { g with timerHz := ← once p g.timerHz (number p value n) }
  | .timers => do return { g with timers := ← once p g.timers (timerMode value) }
  | .seed => do
    return { g with seed := ← once p g.seed (number p value (Numeral.unsigned? UInt64.size value)) }
  | .frames => do
    let n := Numeral.unsigned? UInt64.size value
    return { g with frames := ← once p g.frames (number p value n) }
  | .dump => do return { g with dump := ← once p g.dump (path p value) }

def isRaised (g : Given) : Flag → Bool
  | .mute => g.mute
  | .movesIndex => g.movesIndex
  | .disassemble => g.disassemble
  | .help | .version => false

def raise (g : Given) (f : Flag) : Except Halt Given :=
  if g.isRaised f then throw (.refused (.repeated f.spec))
  else match f with
    | .mute => pure { g with mute := true }
    | .movesIndex => pure { g with movesIndex := true }
    | .disassemble => pure { g with disassemble := true }
    | .help => throw (.help true)
    | .version => throw .version

def finish (g : Given) : Except Halt Arguments :=
  match g.rom with
  | none => throw (.refused .missingRom)
  | some rom => pure {
      rom
      config := {
        clockHz := g.hz.getD 600
        timerHz := g.timerHz.getD 60
        timers := g.timers.getD .fixed
        movesIndex := g.movesIndex
        seed := g.seed.map UInt64.ofNat }
      mute := g.mute
      frames := g.frames
      disassemble := g.disassemble
      dump := g.dump }

end Given

/-- How far a command line has been read. -/
structure Reader where
  given : Given := {}
  /-- A parameter that is not settled yet, and its value if that has been read. -/
  pending : Option (Parameter × Option String) := none
  /-- The name of the program has been read. -/
  romNamed : Bool := false
deriving DecidableEq

namespace Reader

/-- Settles what is pending. -/
def settle (r : Reader) : Except Halt Reader :=
  match r.pending with
  | none => pure r
  | some (p, none) => throw (.refused (.missingValue p))
  | some (p, some value) => do return { r with given := ← r.given.set p value, pending := none }

/-- An argument that is no option and no option's value. -/
def name (r : Reader) (arg : String) : Except Halt Reader :=
  if r.romNamed then throw (.refused (.unknown arg))
  else do return { ← r.settle with pending := some (.rom, some arg), romNamed := true }

/-- An argument with two dashes, and the value behind its equals sign. -/
def long (r : Reader) (arg optionName : String) (value : Option String) : Except Halt Reader :=
  match Parameter.ofName? optionName, Flag.ofName? optionName, value with
  | some p, _, some value => do
    let r ← r.settle
    return { r with given := ← r.given.set p value }
  | some p, _, none => do return { ← r.settle with pending := some (p, none) }
  | none, some f, some value => throw (.refused (.unneededValue f value))
  | none, some f, none => do
    let r ← r.settle
    return { r with given := ← r.given.raise f }
  | none, none, _ => throw (.refused (.unknown arg))

/-- An argument with one dash, by the letter behind it. -/
def short (r : Reader) (arg : String) (letter : Char) : Except Halt Reader :=
  match letter with
  | 'h' => do
    discard r.settle
    throw (.help false)
  | 'V' => do
    discard r.settle
    throw .version
  | _ => throw (.refused (.unknown arg))

/-- An argument without dashes. -/
def plain (r : Reader) (arg : String) : Except Halt Reader :=
  match r.pending with
  | some (p, none) => pure { r with pending := some (p, some arg) }
  | _ => r.name arg

def argument (r : Reader) (arg : String) : Except Halt Reader :=
  match arg.toList with
  | ['-'] => r.plain arg
  | '-' :: '-' :: body =>
    let (optionName, rest) := body.span (· ≠ '=')
    r.long arg (String.ofList optionName) (rest.tail?.map String.ofList)
  | '-' :: letter :: _ => r.short arg letter
  | _ => r.plain arg

def names : List String → Reader → Except Halt Reader
  | [], r => pure r
  | arg :: rest, r => do names rest (← r.name arg)

def read : List String → Reader → Except Halt Reader
  | [], r => pure r
  | arg :: rest, r => do
    if arg = "--" then names rest r else read rest (← r.argument arg)

end Reader

def Arguments.parse (args : List String) : Except Halt Arguments := do
  (← (← Reader.read args {}).settle).given.finish

end Chip8.CommandLine
