import Weave.Text.Bytes

/-!
# What a command waits for

A command is read beyond its line where it asks for a text behind it, or where something
in it is still open.

## Texts in the lines behind a command

A command can ask for a text that stands in the lines behind it. The text goes up to a
line that is nothing but a certain mark.
-/
namespace Weave.Shell.Document

/-- A text that has been asked for. -/
structure Wanted where
  /-- Whether tabs at the front of its lines do not count. -/
  stripped : Bool
  mark : Bytes

/-- Splits the lines behind the current one at the line that ends a document. -/
def takeLines (w : Wanted) : List Bytes → List Bytes × List Bytes
  | [] => ([], [])
  | line :: rest =>
    let line := if w.stripped then line.dropWhile (· = '\t') else line
    if line = w.mark then ([], rest)
    else
      let (inside, behind) := takeLines w rest
      (line :: inside, behind)

/-- The lines of a text between its line ends. -/
def rawLines (t : Bytes) : List Bytes :=
  match t with
  | [] => []
  | t => if t.getLast? = some '\n' then Text.splitOn '\n' t.dropLast else Text.splitOn '\n' t

/-- What stands behind so many lines. -/
def behindLines : Nat → Bytes → Bytes
  | 0, t => t
  | n + 1, t => behindLines n ((t.dropWhile (· ≠ '\n')).drop 1)

/-- What stands behind the documents at the front. -/
def behind : List Wanted → Bytes → Bytes
  | [], t => t
  | w :: more, t =>
    let lines := rawLines t
    behind more (behindLines (lines.length - (takeLines w lines).2.length) t)

example : behind [⟨false, "E".toList⟩] "a\nE\nb\n".toList = "b\n".toList := by decide

end Weave.Shell.Document

/-!
## What is open inside of a script

A script within parentheses goes up to the closing one. On the way to it parentheses
open and close, and those that end the patterns of a selection close nothing. So it has
to be known where selections begin and end, which is told by words that stand where a
command may begin.
-/
namespace Weave.Shell

/-- The operators, where one begins another the longer one first. -/
def operators : List Bytes :=
  ["&&", "||", ";;", "<<-", "<<", "<&", "<>", "<", ">>", ">&", ">|", ">", "&", "|", ";", "(",
   ")"].map String.toList

/-- Something that is open. -/
inductive Nest where
  | parenthesis
  /-- A selection of which only the first word has been read. -/
  | subject
  /-- A selection of which it is known what it is about. -/
  | selection
  /-- A selection whose next patterns are to come. -/
  | patterns
  /-- A selection behind some patterns. -/
  | arm
deriving Repr, DecidableEq

/-- How far a script within parentheses has been read. -/
structure Scan where
  nests : List Nest := []
  /-- Whether a command may begin here. -/
  begins : Bool := true
  /-- Whether the next word belongs to a redirection. -/
  isTarget : Bool := false
  documents : List Document.Wanted := []

namespace Scan

/-- Words behind which a command may begin. -/
def openers : List Bytes :=
  ["if", "then", "else", "elif", "while", "until", "do", "!", "\x7b"].map String.toList

/-- Goes on behind an operator, unless it is the parenthesis that closes the script. -/
def operator? (s : Scan) (mark : Bytes) : Option Scan :=
  if mark.head? = some '<' || mark.head? = some '>' then some { s with isTarget := true }
  else
    match String.ofList mark, s.nests with
    | "(", .patterns :: _ => some s
    | "(", nests => some { s with nests := .parenthesis :: nests, begins := true }
    | ")", .patterns :: outer => some { s with nests := .arm :: outer, begins := true }
    | ")", .parenthesis :: outer => some { s with nests := outer, begins := true }
    | ")", _ => none
    | ";;", .arm :: outer => some { s with nests := .patterns :: outer, begins := true }
    | "|", .patterns :: _ => some s
    | _, _ => some { s with begins := true }

/-- Goes on behind a word, which is given if nothing of it is quoted or replaced. -/
def word (s : Scan) (w : Option Bytes) : Scan :=
  let isWord (t : String) : Bool := w = some t.toList
  if s.isTarget then { s with isTarget := false }
  else
    match s.nests with
    | .subject :: outer => { s with nests := .selection :: outer }
    | .selection :: outer =>
      if isWord "in" then { s with nests := .patterns :: outer, begins := true } else s
    | .patterns :: outer =>
      if s.begins && isWord "esac" then { s with nests := outer, begins := false }
      else { s with begins := false }
    | nests =>
      if !s.begins then s
      else if isWord "case" then { s with nests := .subject :: nests, begins := false }
      else if isWord "esac" then { s with nests := nests.drop 1, begins := false }
      else { s with begins := w.any openers.contains }

end Scan

end Weave.Shell
