/-!
Messages about what the machine is doing, each with a level. A reader names the most detailed
level to see.
-/

namespace Chip8

namespace Log

inductive Level where
  | error
  | warn
  | info
  | debug
  | trace
deriving DecidableEq

def Level.name : Level → String
  | error => "ERROR"
  | warn => "WARN"
  | info => "INFO"
  | debug => "DEBUG"
  | trace => "TRACE"

/-- Errors come first, then ever more detail. -/
def Level.rank : Level → Nat
  | error => 0
  | warn => 1
  | info => 2
  | debug => 3
  | trace => 4

structure Entry where
  level : Level
  text : String
deriving DecidableEq

def Entry.line (e : Entry) : String := e.level.name ++ " " ++ e.text

end Log

/-- Messages in the order in which they were written. -/
abbrev Log := List Log.Entry

/-- The messages that are no more detailed than a level. -/
def Log.upTo (log : Log) (l : Log.Level) : Log := log.filter fun e => e.level.rank ≤ l.rank

end Chip8
