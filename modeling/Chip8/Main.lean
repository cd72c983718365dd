import Chip8.CommandLine.Run
import Chip8.Console.Run
import Chip8.Terminal.Picture

/-!
The program. A listing or a dump is printed or written and that is all; a game is played on the
terminal, frame by frame. The terminal is not asked for keys.
-/

namespace Chip8.Main

open CommandLine

def fileError : IO.Error → FileError
  | .noFileOrDirectory _ _ _ => .notFound
  | .inappropriateType _ code details =>
    if code = 20 then .notDirectory
    else if code = 21 then .isDirectory
    else .other (details ++ " (os error " ++ toString code ++ ")")
  | .invalidArgument _ code details =>
    if code = 36 then .nameTooLong
    else .other (details ++ " (os error " ++ toString code ++ ")")
  | .permissionDenied _ code _ => .other ("Permission denied (os error " ++ toString code ++ ")")
  | e => .other (toString e)

def readAll (handle : IO.FS.Handle) : IO (Except ReadFailure (List UInt8)) := do
  try
    return .ok (← handle.readBinToEnd).toList
  catch e =>
    return .error (.cannotRead (fileError e))

def readFile (path : String) : IO (Except ReadFailure (List UInt8)) := do
  try
    readAll (← IO.FS.Handle.mk path .read)
  catch e =>
    return .error (.cannotOpen (fileError e))

def writeFile (path content : String) : IO (Except FileError Unit) := do
  try
    IO.FS.writeFile path content
    return .ok ()
  catch e =>
    return .error (fileError e)

def files : Files IO where
  read := readFile
  write := writeFile

/-- The most detailed level that is printed. -/
def logLevel : IO Log.Level := do
  match ← IO.getEnv "NINECHIP_LOG" with
  | some "error" => return .error
  | some "warn" => return .warn
  | some "debug" => return .debug
  | some "trace" => return .trace
  | _ => return .info

def printLog (log : Log) : IO Unit := do
  for e in log.upTo (← logLevel) do
    IO.eprintln e.line

/-- Clears the terminal and shows the picture at its top. -/
def showPicture (f : Frame) : IO Unit := do
  let some t := Terminal.draw {} f.toList | return
  IO.print ("\x1b[H" ++ "\r\n".intercalate t.lines ++ "\r\n")
  (← IO.getStdout).flush

/-- Runs frames until one fails or none are left, and says how many there were. -/
def playFrames (mute : Bool) : Nat → Nat → Console Keyboard → IO (Nat × Option ConsoleError)
  | 0, count, _ => return (count, none)
  | n + 1, count, c => do
    match Console.frame.run c with
    | .error e _ => return (count, some e)
    | .ok .quit _ => return (count, none)
    | .ok .proceed c' =>
      if c.display.frames ≠ c'.display.frames then
        if let some f := c'.display.last then showPicture f
      if c'.beeping && !c.beeping && !mute then IO.print "\x07"
      IO.sleep (UInt32.ofNat (1000 / max 1 c.config.timerHz))
      playFrames mute n (count + 1) c'

def errorReport (e : ConsoleError) : String :=
  match e.source? with
  | some source => report e.message source
  | none => "Error: " ++ e.message ++ "\n"

/-- A key that nobody chose. -/
def randomKey : IO ChaCha.Key := do
  let words ← (List.range 8).mapM fun _ => IO.rand 0 (UInt32.size - 1)
  return Vector.ofFn fun i => UInt32.ofNat (words.getD i 0)

def play (args : Arguments) (program : List UInt8) : IO UInt32 := do
  let console := Console.new args.config (.chaCha (← randomKey)) ({} : Keyboard) {}
  match (Console.load program).run console with
  | .error e _ =>
    IO.eprint (report "failed to load ROM" e.message)
    return 1
  | .ok _ console =>
    printLog [⟨.info, "loaded " ++ toString program.length ++ " bytes from " ++
      Text.quoted args.rom⟩]
    IO.print "\x1b[2J"
    match ← playFrames args.mute (args.frames.getD Console.endless) 0 console with
    | (_, some e) =>
      IO.eprint (errorReport e)
      return 1
    | (count, none) =>
      printLog [⟨.info, "ran " ++ toString count ++ " frames"⟩]
      return 0

end Chip8.Main

open Chip8 CommandLine in
def main (args : List String) : IO UInt32 := do
  match ← run Arguments.parse Main.files args with
  | .exit code out err =>
    IO.print out
    IO.eprint err
    return UInt32.ofNat code
  | .done out log =>
    IO.print out
    Main.printLog log
    return 0
  | .play args program => Main.play args program
