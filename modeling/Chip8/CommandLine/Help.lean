import Chip8.CommandLine.Arguments

/-!
The help texts. The short one has a line for each option, with the descriptions in a column; the
detailed one has a paragraph for each, and describes the choices that an option offers.
-/

namespace Chip8.CommandLine.Help

structure Entry where
  /-- The option as the help writes it, with two spaces before it. -/
  spec : String
  about : String
  default : Option String := none
  choices : List (String × String) := []

def rom : Entry where
  spec := "  <ROM>"
  about := "ROM to load and execute"

def timerChoices : List (String × String) := [
  ("fixed", "once per frame, at [`Config::timer_hz`], however many instructions run"),
  ("per-step", "once at the end of every `step()`")]

def options : List Entry := [
  { spec := "      --hz <HZ>", about := "Instructions per second", default := some "600" },
  { spec := "      --timer-hz <TIMER_HZ>"
    about := "Timer ticks (and screen refreshes) per second"
    default := some "60" },
  { spec := "      --timers <TIMERS>"
    about := "When the delay and sound timers count down"
    default := some "fixed"
    choices := timerChoices },
  { spec := "      --seed <SEED>", about := "Seed for the random number generator" },
  { spec := "      --mute", about := "Don't beep" },
  { spec := "      --index-quirk"
    about := "Fx55 / Fx65 advance I past the registers they touch" },
  { spec := "      --frames <FRAMES>", about := "Stop after this many frames" },
  { spec := "      --disassemble", about := "Print a disassembly of the ROM and exit" },
  { spec := "      --dump <DUMP>"
    about := "Write a hex dump of the loaded ROM to this file and exit" }]

def helpEntry (detailed : Bool) : Entry where
  spec := "  -h, --help"
  about := if detailed then "Print help (see a summary with '-h')"
    else "Print help (see more with '--help')"

def versionEntry : Entry where
  spec := "  -V, --version"
  about := "Print version"

/-- Fills a text with spaces up to a width. -/
def pad (width : Nat) (s : String) : String :=
  s ++ String.ofList (List.replicate (width - s.length) ' ')

def Entry.line (column : Nat) (e : Entry) : String :=
  let default := match e.default with
    | some d => " [default: " ++ d ++ "]"
    | none => ""
  let choices := if e.choices.isEmpty then "" else
    " [possible values: " ++ ", ".intercalate (e.choices.map Prod.fst) ++ "]"
  pad column e.spec ++ e.about ++ default ++ choices ++ "\n"

def indent : String := "          "

def Entry.paragraph (e : Entry) : String :=
  let choices := if e.choices.isEmpty then "" else
    let width := (e.choices.map fun c => c.1.length + 1).foldl max 0
    "\n" ++ indent ++ "Possible values:\n" ++
      String.join (e.choices.map fun c => indent ++ "- " ++ pad width (c.1 ++ ":") ++ " " ++ c.2 ++
        "\n")
  let default := match e.default with
    | some d => indent ++ "\n" ++ indent ++ "[default: " ++ d ++ "]\n"
    | none => ""
  e.spec ++ "\n" ++ indent ++ e.about ++ "\n" ++ choices ++ default

def version : String := "ninechip 0.1.0\n"

def usage : String := "Usage: ninechip [OPTIONS] <ROM>\n"

def text (detailed : Bool) : String :=
  let entries := options ++ [helpEntry detailed, versionEntry]
  "CHIP-8 interpreter with a terminal front end\n\n" ++ usage ++ "\nArguments:\n" ++
  (if detailed then
    rom.paragraph ++ "\nOptions:\n" ++ "\n".intercalate (entries.map Entry.paragraph)
  else rom.line 9 ++ "\nOptions:\n" ++ String.join (entries.map (Entry.line 29)))

end Chip8.CommandLine.Help
