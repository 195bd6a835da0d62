import Weave.Text.Character

/-!
# Log

An event has a level, a message and fields. Events are recorded whatever their
level; a threshold decides which of them are shown. A tool that the program has
started may print between two events, and what it prints is always shown.

A message may hold any text. So that none can steer the terminal it is shown
on, the characters that could are shown by their numbers.
-/
namespace Weave

namespace Log

inductive Level where
  | error
  | warn
  | info
  | debug
  | trace
deriving Repr, DecidableEq

namespace Level

def name : Level → String
  | error => "error"
  | warn => "warn"
  | info => "info"
  | debug => "debug"
  | trace => "trace"

/-- The word at the beginning of a line, five characters wide. -/
def label : Level → Text
  | error => "ERROR".toList
  | warn => " WARN".toList
  | info => " INFO".toList
  | debug => "DEBUG".toList
  | trace => "TRACE".toList

/-- How much a threshold at this level lets through. -/
def rank : Level → Nat
  | error => 1
  | warn => 2
  | info => 3
  | debug => 4
  | trace => 5

end Level

structure Event where
  level : Level
  message : Text
  fields : List (String × Text) := []
deriving Repr, DecidableEq

/-- The plain characters that can steer a terminal: bell, backspace, form feed,
escape and delete. -/
def steering : List Char :=
  ['\x07', '\x08', '\x0c', '\x1b', '\x7f']

/-- A character of a message as it is shown. -/
def tame (c : Char) : Text :=
  if steering.contains c then
    "\\x".toList ++ [Nat.digitChar (c.toNat / 16), Nat.digitChar (c.toNat % 16)]
  else if 0x80 ≤ c.toNat && c.toNat ≤ 0x9F then
    "\\u\x7b".toList ++ Nat.toDigits 16 c.toNat ++ ['\x7d']
  else [c]

def Event.line (e : Event) : Text :=
  e.level.label ++ ' ' :: e.message.flatMap tame
    ++ e.fields.flatMap fun f => ' ' :: f.1.toList ++ '=' :: f.2

inductive Entry where
  | event (e : Event)
  /-- What a tool has printed to its errors. -/
  | printed (text : Text)
deriving Repr, DecidableEq

/-- The least important level that is shown; `none` shows nothing. -/
abbrev Threshold := Option Level

def Threshold.shows (threshold : Threshold) (e : Event) : Bool :=
  match threshold with
  | none => false
  | some level => e.level.rank ≤ level.rank

/-- The threshold that a word asks for. -/
def Threshold.ofWord? (word : Text) : Option Threshold :=
  if Text.isWord "off" word then some none
  else
    let levels := [Level.error, .warn, .info, .debug, .trace]
    (levels.find? fun level => Text.isWord level.name word).map some

/-- A word that is set wins over the wish for more. -/
def Threshold.choose (verbose : Bool) (word : Option Text) : Threshold :=
  (word.bind Threshold.ofWord?).getD (some (if verbose then .debug else .info))

def Entry.event? : Entry → Option Event
  | .event e => some e
  | .printed _ => none

/-- The lines of the events that are shown. -/
def linesOf (threshold : Threshold) (log : List Entry) : List Text :=
  let shown := (log.filterMap Entry.event?).filter threshold.shows
  Text.lines (Text.unlines (shown.map Event.line))

/-- What an entry adds to the errors. -/
def Entry.text (threshold : Threshold) : Entry → Text
  | .event e => if threshold.shows e then e.line ++ ['\n'] else []
  | .printed text => text

/-- Everything that goes to the errors. -/
def textOf (threshold : Threshold) (log : List Entry) : Text :=
  log.flatMap (Entry.text threshold)

example : ['\x1b', '\u0085', '\t'].map tame =
    ["\\x1b".toList, "\\u\x7b85\x7d".toList, ['\t']] := by decide

end Log

end Weave
