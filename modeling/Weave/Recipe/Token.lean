import Weave.Number.Decimal
import Weave.Recipe.Program
import Weave.Utility.Escape

/-!
# The words and signs of recipes

A line that goes deeper than the one before opens a block, and one that goes back closes
blocks; both are tokens of their own. Inside of brackets the ends of lines do not count.
-/
namespace Weave.Recipe

/-- What a token is. -/
inductive Token.Kind where
  | name
  | int (n : Nat)
  | float (x : Float)
  /-- A text with its marks, and the letters before it. -/
  | text (letters : Text) (body : Text) (isTriple : Bool)
  | sign
  | newline
  | indent
  | dedent
  | ending

structure Token where
  kind : Token.Kind
  word : String
  span : Span

instance : Inhabited Token := ⟨⟨.ending, "", {}⟩⟩

namespace Token

/-- The signs, longer ones before those that they begin with. -/
def signs : List String :=
  ["**=", "//=", ">>=", "<<=", "...", "->", ":=", "==", "!=", "<=", ">=", "<<", ">>", "**", "//",
   "+=", "-=", "*=", "/=", "%=", "&=", "|=", "^=", "@=", "+", "-", "*", "/", "%", "@", "&", "|",
   "^", "~", "<", ">", "(", ")", "[", "]", "\x7b", "\x7d", ",", ":", ".", ";", "=", "!"]

def isNameStart (c : Char) : Bool := c.isAlpha || c = '_' || 127 < c.toNat

def isNameChar (c : Char) : Bool := c.isAlphanum || c = '_' || 127 < c.toNat

/-- Where reading has come to. -/
structure Cursor where
  rest : Text
  line : Nat := 1
  column : Nat := 0

namespace Cursor

/-- Goes on by so many characters. -/
def skip : Nat → Cursor → Cursor
  | n + 1, ⟨c :: rest, line, column⟩ =>
    if c = '\n' then skip n ⟨rest, line + 1, 0⟩ else skip n ⟨rest, line, column + 1⟩
  | _, c => c

/-- The place of what stands between two cursors. -/
def spanTo (c d : Cursor) : Span :=
  { line := c.line, column := c.column, endLine := d.line, endColumn := d.column }

end Cursor

/-- Which marks a text has. -/
structure Marks where
  quote : Char
  isTriple : Bool
  /-- Whether what stands in braces is a term. -/
  holdsTerms : Bool

/-- How many characters there are up to the mark that closes a text. `depth` counts the
open braces of terms, in which other texts may stand. -/
def bodyLength (m : Marks) : Nat → Nat → Option Char → Text → Option Nat
  | 0, _, _, _ => none
  | fuel + 1, depth, inner, t =>
    let go (n depth : Nat) (inner : Option Char) (rest : Text) : Option Nat :=
      (bodyLength m fuel depth inner rest).map (· + n)
    match t with
    | [] => none
    | '\\' :: _ :: rest => go 2 depth inner rest
    | c :: rest =>
      match inner with
      | some quote => go 1 depth (if c = quote then none else some quote) rest
      | none =>
        if depth = 0 then
          if c = m.quote && (!m.isTriple || Text.beginsWith [c, c] rest) then some 0
          else if c = '\n' && !m.isTriple then none
          else if m.holdsTerms && c = '\x7b' then
            match rest with
            | '\x7b' :: rest => go 2 0 none rest
            | rest => go 1 1 none rest
          else go 1 0 none rest
        else if c = '\x7b' then go 1 (depth + 1) none rest
        else if c = '\x7d' then go 1 (depth - 1) none rest
        else if c = '\'' || c = '"' then
          go 1 depth (some c) rest
        else if c = '\n' && !m.isTriple then none
        else go 1 depth none rest

/-- What is known while a text is taken apart. -/
structure Work where
  cursor : Cursor
  /-- How deep the lines of the open blocks are. -/
  depths : List Nat := [0]
  /-- The open brackets with their places, the last one first. -/
  brackets : List (Char × Cursor) := []
  startsLine : Bool := true
  /-- The tokens so far, the last one first. -/
  tokens : List Token := []

def fault {α : Type} (message : String) (span : Span) : Except Fault α :=
  .error ⟨"SyntaxError", message.toList, span⟩

namespace Work

/-- Adds a token of so many characters. -/
def add (w : Work) (kind : Kind) (length : Nat) : Work :=
  let after := w.cursor.skip length
  let word := String.ofList (w.cursor.rest.take length)
  { w with
    cursor := after
    tokens := ⟨kind, word, w.cursor.spanTo after⟩ :: w.tokens }

/-- Adds a token without characters. -/
def mark (w : Work) (kind : Kind) : Work :=
  { w with tokens := ⟨kind, "", w.cursor.spanTo w.cursor⟩ :: w.tokens }

/-- How deep a line goes that begins with so many blanks. -/
def depthOf (blanks : Text) : Nat :=
  blanks.foldl (fun n c => if c = '\t' then (n / 8 + 1) * 8 else if c = '\x0c' then 0 else n + 1) 0

/-- Closes the blocks that are deeper than a line. -/
def closeTo (depth : Nat) : List Nat → Work → Work
  | d :: ds, w =>
    if depth < d then closeTo depth ds (w.mark .dedent) else { w with depths := d :: ds }
  | [], w => { w with depths := [] }

/-- Begins a line: blank lines count for nothing. -/
def beginLine (w : Work) : Except Fault Work :=
  let blanks := w.cursor.rest.takeWhile fun c => c = ' ' || c = '\t' || c = '\x0c'
  let after := w.cursor.skip blanks.length
  let depth := depthOf blanks
  match after.rest with
  | [] => .ok { w with cursor := after, startsLine := false }
  | c :: _ =>
    if c = '\n' || c = '\r' || c = '#' then
      let comment := (after.rest.takeWhile (· ≠ '\n')).length
      .ok { w with cursor := after.skip (comment + 1) }
    else
      let w := { w with cursor := after, startsLine := false }
      let open' := w.depths.headD 0
      if open' < depth then .ok { w.mark .indent with depths := depth :: w.depths }
      else
        let closed := closeTo depth w.depths w
        if closed.depths.headD 0 = depth then .ok closed
        else
          let line := (after.rest.takeWhile (· ≠ '\n')).length
          .error ⟨"IndentationError",
            "unindent does not match any outer indentation level".toList,
            { line := after.line, column := after.column + line,
              endLine := after.line, endColumn := after.column + line }⟩

/-- A number at the front, and how many characters it has. -/
def number (t : Text) : Kind × Nat :=
  let based (base : Nat) : Kind × Nat :=
    let digits := (t.drop 2).takeWhile fun c => Escape.digitOf c < base || c = '_'
    (.int ((digits.filter (· ≠ '_')).foldl (fun n c => base * n + Escape.digitOf c) 0),
      digits.length + 2)
  match t with
  | '0' :: c :: _ =>
    if c = 'x' || c = 'X' then based 16
    else if c = 'o' || c = 'O' then based 8
    else if c = 'b' || c = 'B' then based 2
    else decimal t
  | _ => decimal t
where
  decimal (t : Text) : Kind × Nat :=
    let isPart (c : Char) : Bool := c.isDigit || c = '_'
    let whole := t.takeWhile isPart
    let rest := t.drop whole.length
    let fraction := match rest with
      | '.' :: more => '.' :: more.takeWhile isPart
      | _ => []
    let rest := rest.drop fraction.length
    let exponent := match rest with
      | e :: more =>
        if e = 'e' || e = 'E' then
          let sign := more.takeWhile fun c => c = '+' || c = '-'
          let digits := (more.drop sign.length).takeWhile isPart
          if digits.isEmpty || 1 < sign.length then [] else e :: sign ++ digits
        else []
      | [] => []
    let all := whole ++ fraction ++ exponent
    let plain := all.filter (· ≠ '_')
    if fraction.isEmpty && exponent.isEmpty then (.int (Decimal.value plain), all.length)
    else
      match Decimal.read? plain with
      | some (d, _) =>
        (.float (Float.ofScientific d.digits (d.exponent < 0) d.exponent.natAbs), all.length)
      | none => (.int 0, all.length)

/-- Words that may stand right behind a number. -/
def behindNumber : List String := ["and", "else", "for", "if", "in", "is", "not", "or"]

/-- Adds a number, behind which no name may stand. -/
def addNumber (w : Work) : Except Fault Work :=
  let (kind, length) := number w.cursor.rest
  let written := w.cursor.rest.take length
  let word := (w.cursor.rest.drop length).takeWhile isNameChar
  let last := w.cursor.skip (length - 1)
  if word.head?.any isNameStart && !behindNumber.contains (String.ofList word) then
    fault "invalid decimal literal" (last.spanTo (last.skip 1))
  else if written.head? = some '0' && written.all Char.isDigit && written.any (· ≠ '0') then
    let zeros := (written.takeWhile (· = '0')).length
    fault ("leading zeros in decimal integer literals are not permitted; " ++
      "use an 0o prefix for octal integers")
      (w.cursor.spanTo (w.cursor.skip zeros))
  else .ok (w.add kind length)

/-- The letters that may stand before a text. -/
def isLetters (word : Text) : Bool :=
  ["r", "b", "f", "u", "br", "rb", "fr", "rf"].any fun known => known.toList = word.map Char.toLower

/-- Adds a text whose first mark stands behind some letters. -/
def addText (w : Work) (letters : Text) : Except Fault Work :=
  let t := w.cursor.rest.drop letters.length
  let quote := t.headD '"'
  let isTriple := Text.beginsWith [quote, quote, quote] t
  let width := if isTriple then 3 else 1
  let holdsTerms := (letters.map Char.toLower).contains 'f'
  let body := t.drop width
  match bodyLength ⟨quote, isTriple, holdsTerms⟩ (body.length + 1) 0 none body with
  | some n =>
    let kind := Kind.text (letters.map Char.toLower) (body.take n) isTriple
    .ok (w.add kind (letters.length + 2 * width + n))
  | none =>
    let last := w.cursor.skip w.cursor.rest.length
    let lines := if last.column = 0 then last.line - 1 else last.line
    let what := if holdsTerms then "f-string literal" else "string literal"
    if isTriple then
      fault ("unterminated triple-quoted " ++ what ++ " (detected at line " ++ toString lines
        ++ ")")
        { line := w.cursor.line, column := w.cursor.column
          endLine := w.cursor.line, endColumn := w.cursor.column + 1 }
    else
      fault ("unterminated " ++ what ++ " (detected at line " ++ toString w.cursor.line ++ ")")
        { line := w.cursor.line, column := w.cursor.column
          endLine := w.cursor.line, endColumn := w.cursor.column + 1 }

def closing (c : Char) : Char :=
  if c = '(' then ')' else if c = '[' then ']' else '\x7d'

/-- Adds a sign, and counts brackets. -/
def addSign (w : Work) (s : String) : Except Fault Work :=
  let c := s.toList.headD ' '
  let here := w.cursor.spanTo (w.cursor.skip 1)
  if s.length = 1 && (c = '(' || c = '[' || c = '\x7b') then
    .ok { w.add .sign 1 with brackets := (c, w.cursor) :: w.brackets }
  else if s.length = 1 && (c = ')' || c = ']' || c = '\x7d') then
    match w.brackets with
    | [] => fault ("unmatched '" ++ s ++ "'") here
    | (o, place) :: more =>
      if closing o = c then .ok { w.add .sign 1 with brackets := more }
      else
        let line := if place.line = w.cursor.line then "" else " on line " ++ toString place.line
        fault ("closing parenthesis '" ++ s ++ "' does not match opening parenthesis '"
          ++ String.ofList [o] ++ "'" ++ line) here
  else .ok (w.add .sign s.length)

/-- Adds the next token, or passes over what is none. -/
def step (w : Work) : Except Fault Work :=
  if w.startsLine && w.brackets.isEmpty then beginLine w
  else
    match w.cursor.rest with
    | [] => .ok w
    | '\n' :: _ =>
      if w.brackets.isEmpty then .ok { w.add .newline 1 with startsLine := true }
      else .ok { w with cursor := w.cursor.skip 1 }
    | '\\' :: '\n' :: _ => .ok { w with cursor := w.cursor.skip 2 }
    | '\\' :: '\r' :: '\n' :: _ => .ok { w with cursor := w.cursor.skip 3 }
    | '\\' :: _ =>
      let place := w.cursor.skip 1
      fault "unexpected character after line continuation character"
        (place.spanTo (place.skip 1))
    | '#' :: rest => .ok { w with cursor := w.cursor.skip (rest.takeWhile (· ≠ '\n')).length.succ }
    | c :: rest =>
      if c = ' ' || c = '\t' || c = '\r' || c = '\x0c' then .ok { w with cursor := w.cursor.skip 1 }
      else if c = '"' || c = '\'' then w.addText []
      else if c.isDigit || (c = '.' && rest.head?.any Char.isDigit) then
        addNumber w
      else if isNameStart c then
        let word := w.cursor.rest.takeWhile isNameChar
        let next := (w.cursor.rest.drop word.length).head?
        if isLetters word && (next = some '"' || next = some '\'') then w.addText word
        else .ok (w.add .name word.length)
      else
        match signs.find? fun s => Text.beginsWith s.toList w.cursor.rest with
        | some s => w.addSign s
        | none => fault "invalid syntax" (w.cursor.spanTo (w.cursor.skip 1))

def run : Nat → Work → Except Fault Work
  | 0, w => .ok w
  | fuel + 1, w => if w.cursor.rest.isEmpty then .ok w else do run fuel (← w.step)

/-- Closes what is open at the end. -/
def finish (w : Work) : Except Fault (List Token) :=
  match w.brackets.getLast?, w.brackets with
  | _, (c, place) :: _ =>
    fault ("'" ++ String.ofList [c] ++ "' was never closed") (place.spanTo (place.skip 1))
  | _, [] =>
    let ended := match w.tokens.head?.map (·.kind) with
      | none => w
      | some .newline => w
      | some _ => w.mark .newline
    let last := if ended.cursor.column = 0 then ended.cursor
      else ⟨[], ended.cursor.line + 1, 0⟩
    let closed := closeTo 0 ended.depths { ended with cursor := last }
    .ok (closed.mark .ending).tokens.reverse

end Work

/-- The tokens of a recipe. -/
def ofText (t : Text) : Except Fault (List Token) := do
  let w ← Work.run (2 * t.length + 2) { cursor := ⟨t, 1, 0⟩ }
  w.finish

/-- The tokens of a term that stands inside of something else. -/
def ofPart (c : Cursor) : Except Fault (List Token) := do
  let w ← Work.run (2 * c.rest.length + 2)
    { cursor := c, startsLine := false, brackets := [('(', c)] }
  match w.brackets with
  | [_] => return (w.mark .ending).tokens.reverse
  | (o, place) :: _ =>
    fault ("'" ++ String.ofList [o] ++ "' was never closed") (place.spanTo (place.skip 1))
  | [] => fault "invalid syntax" (c.spanTo (c.skip 1))

end Token

end Weave.Recipe
