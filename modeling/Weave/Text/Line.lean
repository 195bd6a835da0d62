/-!
# Lines of a text

A text is the list of its characters, and everything here is recursion on that
list. A line ends at a newline. One carriage return directly before the newline
belongs to the ending and not to the line; a carriage return anywhere else,
also at the very end of an unfinished last line, is content.
-/
namespace Weave

/-- A text is the list of its characters. -/
abbrev Text := List Char

namespace Text

/-- The lines without their endings. Nothing follows a final newline, so the
empty text has no line and a lone newline has one. -/
def lines : Text → List Text
  | [] => []
  | '\r' :: '\n' :: rest => [] :: lines rest
  | c :: rest =>
    if c = '\n' then [] :: lines rest
    else match lines rest with
      | [] => [[c]]
      | line :: more => (c :: line) :: more

/-- Every line followed by a newline. -/
def unlines (ls : List Text) : Text :=
  ls.flatMap (· ++ ['\n'])

/-- The characters before the first newline. -/
def firstLine (t : Text) : Text :=
  t.takeWhile (· ≠ '\n')

/-- The number of characters of the first line, its newline included. -/
def lineWidth : Text → Nat
  | [] => 0
  | c :: rest => if c = '\n' then 1 else lineWidth rest + 1

def beginsWith (mark t : Text) : Bool :=
  mark.isPrefixOf t

def endsWith (mark t : Text) : Bool :=
  mark.isSuffixOf t

/-- The rest after `mark`, where the text begins with it. -/
def after? (mark t : Text) : Option Text :=
  if beginsWith mark t then some (t.drop mark.length) else none

/-- The pieces between the occurrences of one character; there is always one. -/
def splitOn (sep : Char) : Text → List Text
  | [] => [[]]
  | c :: rest =>
    if c = sep then [] :: splitOn sep rest
    else match splitOn sep rest with
      | [] => [[c]]
      | piece :: more => (c :: piece) :: more

def joinWith (sep : Text) (pieces : List Text) : Text :=
  sep.intercalate pieces

/-- A number in decimal digits. -/
def ofNat (n : Nat) : Text :=
  (toString n).toList

@[simp]
theorem lines_nil : lines [] = [] := rfl

theorem lines_newline (t : Text) : lines ('\n' :: t) = [] :: lines t := by
  simp [lines]

@[simp]
theorem unlines_nil : unlines [] = [] := rfl

@[simp]
theorem unlines_cons (l : Text) (ls : List Text) :
    unlines (l :: ls) = l ++ '\n' :: unlines ls := by
  simp [unlines]

theorem unlines_append (a b : List Text) : unlines (a ++ b) = unlines a ++ unlines b := by
  simp [unlines]

end Text

end Weave
