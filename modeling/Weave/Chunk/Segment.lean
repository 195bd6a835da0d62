import Weave.Chunk.Basic
import Weave.Text.Character

/-!
# Cutting a tailored source into chunks

A line that begins with the prose mark is prose, one that begins with the break
mark ends the open chunk, and every other line is code. Cutting goes line by
line and keeps one open chunk; what it leaves behind may be empty, so blank
chunks are dropped and empty edge lines are trimmed before the code chunks are
marked. No sequence of marks fails.
-/
namespace Weave.Chunk

def proseMark : Text := "#'".toList

def breakMark : Text := "#-".toList

/-- What separates the prose mark from its text. -/
def proseLead : Text := "#' ".toList

def Kind.ofLine (line : Text) : Kind :=
  if Text.beginsWith proseMark line then .prose else .code

/-- A prose line without its mark. The mark alone is an empty line, and a line
whose mark is not followed by a space is kept whole. -/
def proseText (line : Text) : Text :=
  if line = proseMark then [] else (Text.after? proseLead line).getD line

/-- What a chunk keeps of a line. -/
def lineText (line : Text) : Text :=
  match Kind.ofLine line with
  | .prose => proseText line
  | .code => line

/-- The chunks of the lines to come, the first of them being the open one. -/
def segment (current : Chunk) : List Text → List Chunk
  | [] => [current]
  | line :: rest =>
    if Text.beginsWith breakMark line then
      current :: segment (empty current.kind) rest
    else if Kind.ofLine line = current.kind then
      segment (current.push (lineText line)) rest
    else
      current :: segment ((empty (Kind.ofLine line)).push (lineText line)) rest

/-- Drops blank chunks and trims the others. -/
def tidy (chunks : List Chunk) : List Chunk :=
  (chunks.filter fun c => !c.isBlank).map trim

def opensIndented (c : Chunk) : Bool :=
  c.firstLine?.any Text.isIndented

def closesIndented (c : Chunk) : Bool :=
  c.lastLine?.any Text.isIndented

/-- Whether the next code chunk begins indented. -/
def nextOpens (chunks : List Chunk) : Bool :=
  (chunks.find? isCode).any opensIndented

/-- Marks code whose statement crosses an edge: the chunk itself begins or ends
indented, the code before it ended indented (`afterOpen`), or the code after it
begins indented. Prose in between does not matter. -/
def markContinued (afterOpen : Bool) : List Chunk → List Chunk
  | [] => []
  | prose ls :: rest => prose ls :: markContinued afterOpen rest
  | code ls continued :: rest =>
    let c := code ls continued
    let crosses := c.opensIndented || c.closesIndented || afterOpen || nextOpens rest
    code ls (continued || crosses) :: markContinued c.closesIndented rest

/-- The chunks of a tailored source. -/
def ofText (t : Text) : List Chunk :=
  match t.lines with
  | [] => []
  | first :: rest =>
    markContinued false (tidy (segment (empty (Kind.ofLine first)) (first :: rest)))

example : ofText "#' Hello\nx = 1\n".toList =
    [prose ["Hello".toList], code ["x = 1".toList] false] := by decide

end Weave.Chunk
