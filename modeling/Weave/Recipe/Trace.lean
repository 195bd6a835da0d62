import Weave.Recipe.Execute

/-!
# What is told of faults

Of a fault that nothing handles the places are told that it came through, each with its
line and marks under the part that was at work, and then what it says.
-/
namespace Weave.Recipe.Trace

def blanks (n : Nat) : Text := List.replicate n ' '

/-- The marks under a part of a line. The part that does the work has marks of its own;
where the whole line is meant there are none. -/
def marks (line : Text) (span : Span) : Option Text :=
  let indent := (line.takeWhile Known.isSpace).length
  let stripped := ((line.drop indent).reverse.dropWhile Known.isSpace).length
  let last := if span.endLine = span.line then span.endColumn else indent + stripped
  let width := last - span.column
  let focus := if span.endLine = span.line then span.focus else none
  if width = 0 || last < span.column then none
  else
    match focus with
    | some (a, b) =>
      some (blanks (span.column - indent) ++ List.replicate (a - span.column) '~'
        ++ List.replicate (b - a) '^' ++ List.replicate (last - b) '~')
    | none =>
      if width < stripped then some (blanks (span.column - indent) ++ List.replicate width '^')
      else none

/-- The lines about a place in a recipe. -/
def own (s : Setting) (function : String) (span : Span) : List Text :=
  let head := "  File \"".toList ++ s.name ++ "\", line ".toList ++ Text.ofNat span.line
    ++ ", in ".toList ++ function.toList
  match s.lines[span.line - 1]? with
  | none => [head]
  | some line =>
    let shown := ((line.dropWhile Known.isSpace).reverse.dropWhile Known.isSpace).reverse
    if shown.isEmpty then [head]
    else
      head :: (blanks 4 ++ shown) :: match marks line span with
        | some m => [blanks 4 ++ m]
        | none => []

def isSamePlace : Origin → Origin → Bool
  | .own f a, .own g b => f = g && a.line = b.line
  | _, _ => false

/-- How many places at the front are the same. -/
def sameCount (o : Origin) : List Origin → Nat
  | p :: rest => if isSamePlace o p then sameCount o rest + 1 else 0
  | [] => 0

/-- The lines about places; of one that comes again and again only some are told. -/
def places (s : Setting) : Nat → List Origin → List Text
  | 0, _ => []
  | _, [] => []
  | fuel + 1, o :: rest =>
    let linesOf (o : Origin) : List Text := match o with
      | .own f span => own s f span
      | .foreign lines => lines.map String.toList
    let count := sameCount o rest + 1
    if count ≤ 3 then linesOf o ++ places s fuel rest
    else
      let others := (o :: rest).take 3
      let hidden := count - 3
      others.flatMap linesOf ++ ["  [Previous line repeated ".toList ++ Text.ofNat hidden
        ++ " more time".toList ++ (if hidden = 1 then [] else ['s']) ++ ['\x5d']]
        ++ places s fuel (rest.drop (count - 1))

/-- The kind of a fault and what it says. -/
def lastLine (again : Again) (n : Nat) : Step Text := do
  let s ← get
  let name := match s.object? n with
    | some (.instance' k _) => (s.kind k).name
    | _ => "object"
  let t ← tryCatch (textOf again (.object n)) fun _ => return "<exception str() failed>".toList
  return if t.isEmpty then name.toList else name.toList ++ ": ".toList ++ t

/-- All that is told of a fault, with those that it has come from before. -/
def lines (again : Again) : Nat → Nat → Step (List Text)
  | 0, _ => return []
  | fuel + 1, n => do
    let s ← get
    let before ← match s.causes.lookup n with
      | some (m, isMeant) =>
        if m = n then pure []
        else do
          let told ← lines again fuel m
          let link := if isMeant then
              "The above exception was the direct cause of the following exception:"
            else "During handling of the above exception, another exception occurred:"
          pure (told ++ [[], link.toList, []])
      | none => pure []
    let trace := (s.traces.lookup n).getD []
    return before ++ "Traceback (most recent call last):".toList
      :: places s.setting (trace.length + 1) trace ++ [← lastLine again n]

/-- What is told of a text that is no recipe. -/
def faultLines (s : Setting) (f : Fault) : List Text :=
  let count := if s.lines.getLast? = some [] then s.lines.length - 1 else s.lines.length
  let number := min f.span.line (max 1 count)
  let head := "  File \"".toList ++ s.name ++ "\", line ".toList ++ Text.ofNat number
  let line := (s.lines[number - 1]?).getD []
  let indent := (line.takeWhile Known.isSpace).length
  let shown := line.drop indent
  let isAboutBlock := Text.beginsWith "expected an indented block".toList f.message
  let isNowhere := f.message = "unexpected indent".toList || f.span.line ≠ number
    || (isAboutBlock && f.span.endColumn = f.span.column)
  let width := if isAboutBlock then 1
    else if f.span.endLine = f.span.line then max 1 (f.span.endColumn - f.span.column)
    else max 1 (indent + shown.length - f.span.column)
  let under := if isNowhere || shown.isEmpty then []
    else [blanks (4 + f.span.column - indent) ++ List.replicate width '^']
  head :: (if shown.isEmpty then [] else [blanks 4 ++ shown]) ++ under
    ++ [f.kind.toList ++ ": ".toList ++ f.message]

end Weave.Recipe.Trace
