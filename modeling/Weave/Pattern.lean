import Weave.Expression.Basic

/-!
# Patterns for names

A pattern is a text in which unquoted stars, question marks and sets in brackets
stand for others. It matches whole texts.
-/
namespace Weave.Pattern

/-- A character and whether it was quoted. -/
abbrev Mark := Char × Bool

/-- One element of a pattern. -/
inductive Element where
  | char (c : Char)
  | any
  | many
  | set (negated : Bool) (ranges : List (Char × Char))
deriving Repr, DecidableEq

/-- The ranges of a set up to its closing bracket, and what is behind it. -/
def readSet :
    Nat → List Mark → List (Char × Char) → Option (List (Char × Char) × List Mark)
  | fuel + 1, marks, ranges =>
    match marks with
    | (']', false) :: rest =>
      if ranges = [] then readSet fuel rest [(']', ']')] else some (ranges, rest)
    | ('[', false) :: (':', false) :: rest =>
      let name := (rest.map Prod.fst).takeWhile (· ≠ ':')
      match Expression.classRanges.lookup (String.ofList name), rest.drop name.length with
      | some found, (':', false) :: (']', false) :: rest => readSet fuel rest (ranges ++ found)
      | _, _ => readSet fuel ((':', false) :: rest) (ranges ++ [('[', '[')])
    | (a, _) :: ('-', false) :: (b, q) :: rest =>
      if b = ']' && !q then some (ranges ++ [(a, a), ('-', '-')], rest)
      else readSet fuel rest (ranges ++ [(a, b)])
    | (c, _) :: rest => readSet fuel rest (ranges ++ [(c, c)])
    | [] => none
  | 0, _, _ => none

/-- The elements of a pattern. The number bounds how many there are. -/
def read : Nat → List Mark → List Element
  | 0, _ => []
  | _ + 1, [] => []
  | fuel + 1, ('*', false) :: rest => .many :: read fuel rest
  | fuel + 1, ('?', false) :: rest => .any :: read fuel rest
  | fuel + 1, ('[', false) :: rest =>
    let (negated, inner) := match rest with
      | ('!', false) :: rest => (true, rest)
      | ('^', false) :: rest => (true, rest)
      | rest => (false, rest)
    match readSet (inner.length + 1) inner [] with
    | some (ranges, rest) => .set negated ranges :: read fuel rest
    | none => .char '[' :: read fuel rest
  | fuel + 1, (c, _) :: rest => .char c :: read fuel rest

def ofMarks (marks : List Mark) : List Element :=
  read (marks.length + 1) marks

/-- The characters of a text in which backslashes quote. -/
def marksOf : Bytes → List Mark
  | '\\' :: c :: rest => (c, true) :: marksOf rest
  | c :: rest => (c, false) :: marksOf rest
  | [] => []

/-- The pattern of a text in which backslashes quote. -/
def ofText (t : Bytes) : List Element := ofMarks (marksOf t)

def Element.accepts (c : Char) : Element → Bool
  | char d => c = d
  | any => true
  | many => true
  | set negated ranges => (ranges.any fun r => r.1 ≤ c && c ≤ r.2) != negated

def isMatch : List Element → Bytes → Bool
  | [], t => t = []
  | .many :: rest, [] => isMatch rest []
  | .many :: rest, c :: t => isMatch rest (c :: t) || isMatch (.many :: rest) t
  | _ :: _, [] => false
  | e :: rest, c :: t => e.accepts c && isMatch rest t
termination_by pattern t => pattern.length + t.length

def isMagic (marks : List Mark) : Bool :=
  marks.any fun m => !m.2 && (m.1 = '*' || m.1 = '?' || m.1 = '[')

/-- How much of a text a pattern takes off at one side, as little or as much as
possible. -/
def cutLength? (atEnd longest : Bool) (pattern : List Element) (t : Bytes) : Option Nat :=
  let lengths := List.range (t.length + 1)
  let fits (n : Nat) : Bool :=
    isMatch pattern (if atEnd then t.drop (t.length - n) else t.take n)
  (if longest then lengths.reverse else lengths).find? fits

def cut (atEnd longest : Bool) (pattern : List Element) (t : Bytes) : Bytes :=
  match cutLength? atEnd longest pattern t with
  | some n => if atEnd then t.take (t.length - n) else t.drop n
  | none => t

end Weave.Pattern
