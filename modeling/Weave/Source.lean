import Weave.Chunk.Segment
import Weave.Target
import Weave.Text.Replacement

/-!
# Sources

What becomes of a source before it is cut: directives restrict lines to targets, and math blocks
are laid out for notebooks.
-/

/-!
## Directives

A line may be restricted to one artifact by a mark at its beginning, and for
scripts also by the script mark at its end. For a target, lines restricted to
another artifact go, and from the lines meant for it the mark goes. Each
directive is one pass over the whole text, so a line that carries two marks in
a row loses one.
-/
namespace Weave.Source

/-- The mark of the lines that are meant for one artifact. -/
def mark : Target → Text
  | .script => "#jl".toList
  | .markdown => "#md".toList
  | .notebook => "#nb".toList

inductive Directive where
  /-- Deletes the lines that begin with one of the marks. -/
  | dropLed (marks : List Text)
  /-- Deletes the lines that end with the mark. -/
  | dropTailed (mark : Text)
  /-- Strips the mark and a space from the beginning of lines. -/
  | stripLead (mark : Text)
  /-- Strips a space and the mark from the end of lines. -/
  | stripTail (mark : Text)
deriving Repr, DecidableEq

namespace Directive

/-- Covers the line that begins here, its newline included. -/
def wholeLine (t : Text) : Text.Hit :=
  ⟨Text.lineWidth t - 1, []⟩

def rule : Directive → Text.Rule
  | dropLed marks, fresh, t =>
    if fresh && marks.any (Text.beginsWith · t) then some (wholeLine t) else none
  | dropTailed mark, fresh, t =>
    if fresh && Text.endsWith mark t.firstLine then some (wholeLine t) else none
  | stripLead mark, fresh, t =>
    if fresh && Text.beginsWith (mark ++ [' ']) t then some ⟨mark.length, []⟩ else none
  | stripTail mark, _, t =>
    if t.firstLine = ' ' :: mark then some ⟨mark.length, []⟩ else none

def apply (d : Directive) (t : Text) : Text :=
  Text.replaceBy d.rule t

/-- The directives of a target, in the order in which they are applied. -/
def ofTarget : Target → List Directive
  | .script =>
    [dropLed [mark .markdown, mark .notebook], stripLead (mark .script), stripTail (mark .script)]
  | .markdown =>
    [dropLed [mark .notebook], dropLed [mark .script], dropTailed (mark .script),
     stripLead (mark .markdown)]
  | .notebook =>
    [dropLed [mark .markdown], dropLed [mark .script], dropTailed (mark .script),
     stripLead (mark .notebook)]

end Directive

/-- The text with the directives of a target applied, one after the other. -/
def applyDirectives (target : Target) (t : Text) : Text :=
  (Directive.ofTarget target).foldl (fun t d => d.apply t) t

end Weave.Source

/-!
## Math blocks

In a notebook, a fenced math block becomes an equation. A block begins at the
math fence and ends at the next fence, wherever that is; the text between them
is kept as it stands. A math fence that is never closed stays, and so does all
that follows it.
-/
namespace Weave.Source

def fence : Text := "```".toList

def mathFence : Text := "```math".toList

def equation (body : Text) : Text :=
  "\\begin\x7bequation\x7d".toList ++ body ++ "\\end\x7bequation\x7d".toList

/-- Applies where a closed math block begins. -/
def mathRule : Text.Rule := fun _ t =>
  (Text.after? mathFence t).bind fun rest =>
    (Text.cutAt fence rest).map fun block =>
      ⟨mathFence.length + block.1.length + fence.length - 1, equation block.1⟩

/-- Makes equations of the math blocks of a text. -/
def displayMath : Text → Text :=
  Text.replaceBy mathRule

end Weave.Source

/-!
## Tailoring a source to a target

Newlines are made uniform, the target's directives are applied, math blocks are
laid out for notebooks, and last the document's name replaces its placeholder.
The tailored text is what is cut into chunks.
-/
namespace Weave.Source

def namePlaceholder : Text := "@__NAME__".toList

def tailor (target : Target) (name : Text) (source : Text) : Text :=
  let text := applyDirectives target (Text.unifyNewlines source)
  let text := if target = .notebook then displayMath text else text
  Text.replaceAll namePlaceholder name text

/-- The chunks of a source for a target. -/
def chunks (target : Target) (name : Text) (source : Text) : List Chunk :=
  Chunk.ofText (tailor target name source)

end Weave.Source
