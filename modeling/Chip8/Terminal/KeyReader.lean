import Chip8.Console.Devices
import Chip8.Terminal.KeyEvent

/-!
The keys of a terminal as the input of a machine. At each look all events that are waiting are taken
notice of, and then the keys that count as down are put on the keypad. A key that asks to quit and a
terminal that fails cut the look short.
-/

namespace Chip8

/-- What a terminal answers when it is asked for an event. -/
inductive TerminalReply where
  /-- Nothing is waiting. -/
  | nothing
  | key (e : KeyEvent)
  /-- An event that is not about a key. -/
  | other
  | failure (cause : String)
deriving DecidableEq

structure KeyReader where
  history : KeyHistory := .empty
  /-- The answers of the terminal that are still to come. -/
  replies : List TerminalReply := []
  /-- The time of each look. -/
  clock : Nat → Nat
  /-- The number of looks so far. -/
  looks : Nat := 0

namespace KeyReader

/-- Takes notice of the events that are waiting. What is left comes at the next look. -/
def takeNotice (now : Nat) (h : KeyHistory) :
    List TerminalReply → Except String Signal × KeyHistory × List TerminalReply
  | [] => (.ok .proceed, h, [])
  | .nothing :: rest => (.ok .proceed, h, rest)
  | .failure cause :: rest => (.error cause, h, rest)
  | .other :: rest => takeNotice now h rest
  | .key e :: rest =>
    match h.record e now with
    | (.quit, h) => (.ok .quit, h, rest)
    | (.proceed, h) => takeNotice now h rest

def pump : EStateM String (KeyReader × Keypad) Signal := do
  let (r, keypad) ← get
  let now := r.clock r.looks
  let (result, history, replies) := takeNotice now r.history r.replies
  let r := { r with history, replies, looks := r.looks + 1 }
  set (r, keypad)
  match result with
  | .error cause => throw cause
  | .ok .quit => return .quit
  | .ok .proceed =>
    set (r, history.keypad now)
    return .proceed

instance : Input KeyReader := ⟨pump⟩

end KeyReader

end Chip8
