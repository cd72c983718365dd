import Chip8.Keypad
import Chip8.Log
import Chip8.Signal
import Chip8.Terminal.Layout
import Chip8.Text.Quoted

/-!
Key presses at a terminal. A terminal reports a key when it goes down, and again while it is held,
but not when it comes up; so a key counts as down for a while after it was last reported. Times are
in nanoseconds.
-/

namespace Chip8

inductive KeyCode where
  | char (c : Char)
  | function (n : Nat)
  | backspace
  | enter
  | left
  | right
  | up
  | down
  | home
  | endKey
  | pageUp
  | pageDown
  | tab
  | backTab
  | delete
  | insert
  | null
  | escape
deriving DecidableEq

def KeyCode.name : KeyCode → String
  | char c => "Char(" ++ Text.quotedChar c ++ ")"
  | function n => "F(" ++ toString n ++ ")"
  | backspace => "Backspace"
  | enter => "Enter"
  | left => "Left"
  | right => "Right"
  | up => "Up"
  | down => "Down"
  | home => "Home"
  | endKey => "End"
  | pageUp => "PageUp"
  | pageDown => "PageDown"
  | tab => "Tab"
  | backTab => "BackTab"
  | delete => "Delete"
  | insert => "Insert"
  | null => "Null"
  | escape => "Esc"

structure KeyEvent where
  code : KeyCode
  shift : Bool := false
  control : Bool := false
  alt : Bool := false
deriving DecidableEq

/-- The escape key, and a lower-case `c` with the control key. -/
def KeyEvent.asksToQuit (e : KeyEvent) : Bool :=
  e.code = .escape || (e.code = .char 'c' && e.control)

/-- The keypad's key that an event reports. -/
def KeyEvent.key? (e : KeyEvent) : Option (Nibble) :=
  match e.code with
  | .char c => Layout.key? c
  | _ => none

/-- When each key was last reported. -/
structure KeyHistory where
  lastSeen : Bank (Option Nat)
deriving DecidableEq

namespace KeyHistory

def empty : KeyHistory := ⟨Vector.replicate 16 none⟩

/-- How long a key counts as down after a report. -/
def hold : Nat := 150000000

def record (h : KeyHistory) (e : KeyEvent) (time : Nat) : Signal × KeyHistory :=
  if e.asksToQuit then (.quit, h)
  else match e.key? with
    | some k => (.proceed, ⟨h.lastSeen.set k (some time)⟩)
    | none => (.proceed, h)

/-- A key last seen later than the given time counts as seen just then. -/
def isDown (h : KeyHistory) (time : Nat) (k : Nibble) : Bool :=
  match h.lastSeen.get k with
  | some seen => time - seen < hold
  | none => false

def keypad (h : KeyHistory) (time : Nat) : Keypad := ⟨Vector.ofFn (h.isDown time)⟩

/-- What taking notice of an event writes to the log. -/
def recordLog (e : KeyEvent) : Log :=
  if e.asksToQuit then []
  else match e.code with
    | .char c =>
      match Layout.key? c with
      | some _ => []
      | none => [⟨.warn, "can't map " ++ Text.quotedChar c ++ " to a keypad key"⟩]
    | code => [⟨.warn, "ignoring key " ++ code.name⟩]

end KeyHistory

end Chip8
