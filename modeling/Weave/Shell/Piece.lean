import Weave.Pattern

/-!
# Pieces of an expanded word

When a word has been expanded, each of its characters is known to be quoted or not,
and to end a field or not. Characters that separate fields do so only where they came
from an expansion that was not quoted. Of these, space is passed over at both ends and
counts once however much of it there is, and any other one ends a field of its own,
together with the space around it.
-/
namespace Weave.Shell

abbrev Mark := Pattern.Mark

/-- A piece of an expanded word. -/
inductive Piece where
  /-- A character, whether it was quoted and whether a field may end at it. -/
  | char (c : Char) (quoted splits : Bool)
  /-- An end of a field between two arguments. -/
  | gap
  /-- A field is there even if it is empty. -/
  | nothing
deriving Repr, DecidableEq

namespace Piece

def ofValue (quoted : Bool) (t : Bytes) : List Piece :=
  let chars := t.map fun c => char c quoted (!quoted)
  if quoted then nothing :: chars else chars

/-- Stands between two arguments in one text. -/
def between : Char := '\x00'

/-- The arguments, which are given in one text, with gaps between them. -/
def ofArguments (quoted : Bool) (t : Bytes) : List Piece :=
  let chars := t.map fun c => if c = between then gap else char c quoted (!quoted)
  if quoted && t != [] then nothing :: chars else chars

/-- The text of the pieces as one, with a mark at each gap. -/
def text (mark : Bytes) (pieces : List Piece) : Bytes :=
  pieces.flatMap fun p => match p with
    | char c _ _ => [c]
    | gap => mark
    | nothing => []

def marks (mark : Bytes) (pieces : List Piece) : List Mark :=
  pieces.flatMap fun p => match p with
    | char c quoted _ => [(c, quoted)]
    | gap => mark.map (·, true)
    | nothing => []

/-- Where one is between two fields. -/
inductive Between where
  /-- At the beginning, or behind a character that separates whatever is behind it. -/
  | behindMark
  /-- Behind space, of which one such character may be a part. -/
  | behindSpace
deriving Repr, DecidableEq

def isSpace (c : Char) : Bool := c = ' ' || c = '\t' || c = '\n'

/-- Splits the pieces into fields. The field that is open is given backwards, or else
where one is between two of them. -/
def fields (separators : Bytes) : List Piece → Between ⊕ List Mark → List (List Mark)
  | [], .inl _ => []
  | [], .inr field => [field.reverse]
  | gap :: rest, .inl _ => fields separators rest (.inl .behindMark)
  | gap :: rest, .inr field => field.reverse :: fields separators rest (.inl .behindMark)
  | nothing :: rest, .inl _ => fields separators rest (.inr [])
  | nothing :: rest, .inr field => fields separators rest (.inr field)
  | char c quoted splits :: rest, place =>
    if splits && separators.contains c then
      let next := if isSpace c then Between.behindSpace else .behindMark
      match place with
      | .inr field => field.reverse :: fields separators rest (.inl next)
      | .inl before =>
        if isSpace c then fields separators rest (.inl before)
        else if before = .behindSpace then fields separators rest (.inl .behindMark)
        else [] :: fields separators rest (.inl .behindMark)
    else
      match place with
      | .inr field => fields separators rest (.inr ((c, quoted) :: field))
      | .inl _ => fields separators rest (.inr [(c, quoted)])

/-- What is read into names, as pieces: what was protected separates nothing. -/
def ofMarks (marks : List Mark) : List Piece :=
  marks.flatMap fun m => if m.2 then [nothing, char m.1 true false] else [char m.1 false true]

/-- Whether a character separates fields and is space. -/
def isGap (separators : Bytes) (m : Mark) : Bool :=
  !m.2 && isSpace m.1 && separators.contains m.1

/-- The first field of what is read, and what is behind it and what ends it. -/
def firstField (separators : Bytes) (marks : List Mark) : Bytes × List Mark :=
  let separates (m : Mark) : Bool := !m.2 && separators.contains m.1
  let field := marks.takeWhile fun m => !separates m
  let behind := (marks.drop field.length).dropWhile (isGap separators)
  let rest := match marks.drop field.length, behind with
    | m :: after, next :: more =>
      if !isGap separators m then after
      else if separates next then more else behind
    | _, _ => []
  (field.map Prod.fst, rest.dropWhile (isGap separators))

/-- All that is left of what is read. The end of a field that is the only one is left
out, and so is space at the end. -/
def lastField (separators : Bytes) (marks : List Mark) : Bytes :=
  match fields separators (ofMarks marks) (.inl .behindMark) with
  | [] => []
  | [field] => field.map Prod.fst
  | _ => ((marks.reverse.dropWhile (isGap separators)).reverse).map Prod.fst

end Piece

end Weave.Shell
