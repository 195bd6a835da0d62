import Weave.Expression.Match
import Weave.Utility.Escape

/-!
# Reading expressions

An expression is written in one of three ways. In the plain one the special meaning of
most signs needs a backslash, in the others it is lost by it. In the third one backslashes
stand for characters that are hard to write, also within sets.
-/
namespace Weave.Expression

inductive Style where
  | plain
  | extended
  | escaped
deriving Repr, DecidableEq

/-- Why an expression makes no sense. -/
inductive Fault where
  | openSet
  | noClass
  | badRange
  | openGroup
  | noGroup
  | openBounds
  | badBounds
  | tooGreat
  | noReference
  | lastBackslash
deriving Repr, DecidableEq

def Fault.message : Fault → Bytes
  | openSet => "Unmatched [, [^, [:, [., or [=".toList
  | noClass => "Invalid character class name".toList
  | badRange => "Invalid range end".toList
  | openGroup => "Unmatched ( or \\(".toList
  | noGroup => "Unmatched ) or \\)".toList
  | openBounds => "Unmatched \\\x7b".toList
  | badBounds => "Invalid content of \\\x7b\\\x7d".toList
  | tooGreat => "Regular expression too big".toList
  | noReference => "Invalid back reference".toList
  | lastBackslash => "Trailing backslash".toList

/-- The same in fewer words, with the expression that it is about. -/
def Fault.shortMessage (f : Fault) (t : Bytes) : Bytes :=
  let what := match f with
    | openSet => "nonterminated character class"
    | openGroup => "missing ')'"
    | noGroup => "extra ')'"
    | _ => "syntax error"
  what.toList ++ ")\n".toList ++ t

/-!
## Sets
-/

/-- The character that a backslash within a set stands for, and what is behind it. -/
def escapedChar (t : Bytes) : Char × Bytes :=
  match t with
  | [] => ('\\', [])
  | c :: rest =>
    if Escape.isOctal c then
      let digits := ((c :: rest).take 3).takeWhile Escape.isOctal
      (Escape.byte (Escape.numberIn 8 digits), (c :: rest).drop digits.length)
    else
      match Escape.letters.lookup c with
      | some meant => if c = 'e' then (c, rest) else (meant, rest)
      | none => (c, rest)

/-- An element of a set: a character or a class, and what is behind it. -/
def readElement (style : Style) (t : Bytes) : Except Fault ((Char ⊕ Ranges) × Bytes) :=
  match t with
  | [] => .error .openSet
  | '[' :: ':' :: rest =>
    let name := rest.takeWhile Char.isAlpha
    match rest.drop name.length with
    | ':' :: ']' :: rest =>
      match classRanges.lookup (String.ofList name) with
      | some ranges => .ok (.inr ranges, rest)
      | none => .error .noClass
    | _ => .error .openSet
  | '[' :: '.' :: c :: '.' :: ']' :: rest => .ok (.inl c, rest)
  | '[' :: '=' :: c :: '=' :: ']' :: rest => .ok (.inl c, rest)
  | '\\' :: rest =>
    if style = .escaped then
      let (c, rest) := escapedChar rest
      .ok (.inl c, rest)
    else .ok (.inl '\\', rest)
  | c :: rest => .ok (.inl c, rest)

/-- The ranges of a set up to its closing bracket, and what is behind it. A bracket at
its front does not close it. The number bounds how many elements there are. -/
def readSet (style : Style) : Nat → Bool → Bytes → Ranges → Except Fault (Ranges × Bytes)
  | 0, _, _, _ => .error .openSet
  | fuel + 1, first, t, ranges => do
    match t with
    | [] => throw .openSet
    | ']' :: rest =>
      if first then readSet style fuel false rest [(']', ']')] else return (ranges, rest)
    | t =>
      match ← readElement style t with
      | (.inr found, rest) => readSet style fuel false rest (ranges ++ found)
      | (.inl a, rest) =>
        match rest with
        | '-' :: ']' :: rest => return (ranges ++ [(a, a), ('-', '-')], rest)
        | '-' :: behind =>
          match ← readElement style behind with
          | (.inl b, rest) =>
            if b < a then throw .badRange
            else readSet style fuel false rest (ranges ++ [(a, b)])
          | (.inr _, _) => throw .badRange
        | rest => readSet style fuel false rest (ranges ++ [(a, a)])

/-!
## Signs
-/

/-- A sign of an expression. -/
inductive Sign where
  | atom (e : Expression)
  | opening
  | closing
  | bar
  | repeats (least : Nat) (most : Option Nat)
deriving Repr, DecidableEq

/-- How often something is repeated at most. -/
def maxRepeats : Nat := 32767

/-- Bounds of a repetition behind their opening brace, and what is behind them. None are
there where something else than numbers stands between the braces. -/
def readBounds (style : Style) (t : Bytes) : Except Fault (Option (Sign × Bytes)) :=
  let least := t.takeWhile Char.isDigit
  let behind := t.drop least.length
  let (most, behind) := match behind with
    | ',' :: rest => (some (rest.takeWhile Char.isDigit), rest.dropWhile Char.isDigit)
    | rest => (none, rest)
  let closed? : Option Bytes := match style, behind with
    | .plain, '\\' :: '\x7d' :: rest => some rest
    | .plain, _ => none
    | _, '\x7d' :: rest => some rest
    | _, _ => none
  let number := Escape.numberIn 10
  let last : Option Nat := match most with
    | none => some (number least)
    | some [] => none
    | some digits => some (number digits)
  match closed? with
  | none =>
    if style = .plain then .error (if behind = [] then .openBounds else .badBounds) else .ok none
  | some rest =>
    if least = [] && most.isNone then
      if style = .plain then .error .badBounds else .ok none
    else if last.any fun n => n < number least then .error .badBounds
    else if number least > maxRepeats || last.any fun n => n > maxRepeats then .error .tooGreat
    else .ok (some (.repeats (number least) last, rest))

/-- What a letter behind a backslash stands for besides itself. -/
def named? (c : Char) : Option Expression :=
  match c with
  | 'w' => some (one false wordRanges)
  | 'W' => some (one true wordRanges)
  | 's' => some (one false spaceRanges)
  | 'S' => some (one true spaceRanges)
  | 'b' => some (edge true)
  | 'B' => some (edge false)
  | '<' => some wordStart
  | '>' => some wordEnd
  | '\'' => some finish
  | '\u0060' => some start
  | _ => none

/-- What a special sign stands for. -/
def special (style : Style) (c : Char) (rest : Bytes) : Except Fault (Sign × Bytes) := do
  match c with
  | '(' => return (.opening, rest)
  | ')' => return (.closing, rest)
  | '|' => return (.bar, rest)
  | '+' => return (.repeats 1 none, rest)
  | '?' => return (.repeats 0 (some 1), rest)
  | '\x7b' =>
    match ← readBounds style rest with
    | some found => return found
    | none => return (.atom (char c), rest)
  | c => return (.atom (char c), rest)

def isSpecial (c : Char) : Bool := "()|+?\x7b".toList.contains c

/-- Whether a plain expression ends here, or a part of it. -/
def endsPart (t : Bytes) : Bool :=
  t = [] || Text.beginsWith "\\)".toList t || Text.beginsWith "\\|".toList t

/-- The sign at the front of an expression that is not empty, and what is behind it.
`first` tells whether it is the first one of a part. -/
def readSign (style : Style) (first : Bool) (c : Char) (rest : Bytes) :
    Except Fault (Sign × Bytes) := do
  let itself : Sign × Bytes := (.atom (char c), rest)
  match c with
  | '\\' =>
    match rest with
    | [] => throw .lastBackslash
    | c :: rest =>
      if style = .plain && isSpecial c then special style c rest
      else if style = .escaped then
        match c with
        | 'y' => return (.atom (edge true), rest)
        | _ =>
          if (Escape.letters.lookup c).isSome || Escape.isOctal c then
            let (meant, rest) := escapedChar (c :: rest)
            return (.atom (char meant), rest)
          else return (.atom (char c), rest)
      else if c.isDigit && c != '0' then
        return (.atom (again (c.toNat - '0'.toNat) false), rest)
      else return (.atom ((named? c).getD (char c)), rest)
  | '.' => return (.atom any, rest)
  | '[' =>
    let negated := rest.head? = some '^'
    let inner := if negated then rest.drop 1 else rest
    let (ranges, behind) ← readSet style (inner.length + 1) true inner []
    return (.atom (one negated ranges), behind)
  | '*' => if style = .plain && first then return itself else return (.repeats 0 none, rest)
  | '^' => if style != .plain || first then return (.atom start, rest) else return itself
  | '$' => if style != .plain || endsPart rest then return (.atom finish, rest) else return itself
  | c => if style != .plain && isSpecial c then special style c rest else return itself

/-- The signs of an expression. The number bounds how many there are. -/
def readSigns (style : Style) : Nat → Bool → Bytes → Except Fault (List Sign)
  | 0, _, _ => .ok []
  | _, _, [] => .ok []
  | fuel + 1, first, c :: rest => do
    let (sign, behind) ← readSign style first c rest
    let opens := sign = .opening || sign = .bar || (first && sign = .atom start)
    return sign :: (← readSigns style fuel opens behind)

/-!
## Putting signs together
-/

/-- What is read so far of an open group: the alternatives before, the sequence before
the last piece, and the last piece. -/
structure Open where
  number : Nat
  before : Option Expression := none
  front : Expression := empty
  last : Option Expression := none
deriving Repr, DecidableEq

def Open.sequence (o : Open) : Expression :=
  match o.last with
  | some e => if o.front = empty then e else both o.front e
  | none => o.front

def Open.close (o : Open) : Expression :=
  match o.before with
  | some a => either a o.sequence
  | none => o.sequence

def Open.push (o : Open) (e : Expression) : Open :=
  { o with front := o.sequence, last := some e }

/-- Puts the signs together. The open groups are given, innermost first, and how many
groups there are. A repetition of nothing is passed over. -/
def assemble (style : Style) : List Sign → List Open → Nat → Except Fault Expression
  | [], [o], _ => .ok o.close
  | [], _, _ => .error .openGroup
  | .atom e :: rest, o :: more, n =>
    match e with
    | again k _ => if k ≤ n then assemble style rest (o.push e :: more) n else .error .noReference
    | e => assemble style rest (o.push e :: more) n
  | .repeats least most :: rest, o :: more, n =>
    let repeated := o.last.map fun e => many e least most
    assemble style rest ({ o with last := repeated } :: more) n
  | .bar :: rest, o :: more, n =>
    assemble style rest ({ o with before := some o.close, front := empty, last := none } :: more) n
  | .opening :: rest, stack, n => assemble style rest ({ number := n + 1 } :: stack) (n + 1)
  | .closing :: rest, o :: outer :: more, n =>
    assemble style rest (outer.push (group o.number o.close) :: more) n
  | .closing :: rest, [o], n =>
    if style = .plain then .error .noGroup
    else assemble style rest [o.push (char ')')] n
  | _ :: rest, [], n => assemble style rest [] n

def read (style : Style) (t : Bytes) : Except Fault Expression := do
  assemble style (← readSigns style (t.length + 1) true t) [{ number := 0 }] 0

/-- An expression, or one that matches nothing but itself where it makes no sense. -/
def ofText (style : Style) (t : Bytes) : Expression :=
  (read style t).toOption.getD (literal t)

example : ["a*b", "^x", "c$", "\\(a\\)\\1", "b\\>", "a\\\x7b2\\\x7d"].map
    (fun e => (ofText .plain e.toList).isIn "caab".toList) =
    [true, false, false, true, true, true] := by decide +kernel

example : ["(a|ab)(c|bcd)", "a\x7b1", "x)", "[b-a]", "(a"].map
    (fun e => (read .extended e.toList).toOption.map (·.isIn "abcd a\x7b1 x)".toList)) =
    [some true, some true, some true, none, none] := by decide +kernel

end Weave.Expression
