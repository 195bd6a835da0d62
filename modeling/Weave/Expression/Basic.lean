import Weave.Text.Bytes

/-!
# Expressions for texts

An expression says what a part of a text may look like: characters from sets, one behind
the other, one part or another, parts that may be repeated, and places in the text such
as its beginning or the edge of a word.
-/
namespace Weave

/-- First and last characters of ranges. -/
abbrev Ranges := List (Char × Char)

inductive Expression where
  | empty
  /-- One character in or outside some ranges. -/
  | one (negated : Bool) (ranges : Ranges)
  | start
  | finish
  /-- The edge of a word, or a place that is none. -/
  | edge (isEdge : Bool)
  | wordStart
  | wordEnd
  | both (a b : Expression)
  | either (a b : Expression)
  | many (a : Expression) (least : Nat) (most : Option Nat)
  | group (number : Nat) (a : Expression)
  /-- What a group has matched before, in any case if that does not matter. -/
  | again (number : Nat) (anyCase : Bool)
deriving Repr, DecidableEq

namespace Expression

def char (c : Char) : Expression := one false [(c, c)]

def any : Expression := one true []

/-- A text that stands for itself. -/
def literal (t : Bytes) : Expression :=
  t.foldr (fun c e => .both (.char c) e) .empty

def inRanges (ranges : Ranges) (c : Char) : Bool :=
  ranges.any fun r => r.1 ≤ c && c ≤ r.2

/-- The characters of words. -/
def wordRanges : Ranges :=
  [('0', '9'), ('A', 'Z'), ('_', '_'), ('a', 'z')]

def spaceRanges : Ranges := [('\t', '\r'), (' ', ' ')]

def isWordChar (c : Char) : Bool := inRanges wordRanges c

/-- The sets of characters that have names. -/
def classRanges : List (String × Ranges) :=
  [("alpha", [('A', 'Z'), ('a', 'z')]), ("digit", [('0', '9')]), ("upper", [('A', 'Z')]),
   ("alnum", [('0', '9'), ('A', 'Z'), ('a', 'z')]), ("lower", [('a', 'z')]),
   ("space", spaceRanges), ("blank", [('\t', '\t'), (' ', ' ')]),
   ("xdigit", [('0', '9'), ('A', 'F'), ('a', 'f')]),
   ("punct", [('!', '/'), (':', '@'), ('[', '\u0060'), ('\x7b', '~')]),
   ("cntrl", [('\x00', '\x1f'), ('\x7f', '\x7f')]), ("graph", [('!', '~')]),
   ("print", [(' ', '~')])]

/-- The part of a range that lies between two characters, moved by a distance. -/
def movedPart (first last : Char) (up : Bool) (r : Char × Char) : Option (Char × Char) :=
  let low := max r.1.toNat first.toNat
  let high := min r.2.toNat last.toNat
  let move (n : Nat) : Char := Char.ofNat (if up then n + 32 else n - 32)
  if low ≤ high then some (move low, move high) else none

/-- The ranges with both cases of all letters in them. -/
def bothCases (ranges : Ranges) : Ranges :=
  ranges ++ ranges.filterMap (movedPart 'A' 'Z' true) ++ ranges.filterMap (movedPart 'a' 'z' false)

/-- The expression for which cases do not matter. -/
def inAnyCase : Expression → Expression
  | one negated ranges => one negated (bothCases ranges)
  | both a b => both a.inAnyCase b.inAnyCase
  | either a b => either a.inAnyCase b.inAnyCase
  | many a least most => many a.inAnyCase least most
  | group n a => group n a.inAnyCase
  | again n _ => again n true
  | e => e

/-- Whether it refers to what a group has matched. -/
def refersBack : Expression → Bool
  | both a b => a.refersBack || b.refersBack
  | either a b => a.refersBack || b.refersBack
  | many a _ _ => a.refersBack
  | group _ a => a.refersBack
  | again _ _ => true
  | _ => false

def hasGroups : Expression → Bool
  | both a b => a.hasGroups || b.hasGroups
  | either a b => a.hasGroups || b.hasGroups
  | many a _ _ => a.hasGroups
  | group _ _ => true
  | _ => false

/-- Whether it may match nothing at all. -/
def mayBeEmpty : Expression → Bool
  | one _ _ => false
  | both a b => a.mayBeEmpty && b.mayBeEmpty
  | either a b => a.mayBeEmpty || b.mayBeEmpty
  | many a least _ => least = 0 || a.mayBeEmpty
  | group _ a => a.mayBeEmpty
  | _ => true

/-- Whether what it matches may begin with a character. -/
def mayBegin (c : Char) : Expression → Bool
  | one negated ranges => inRanges ranges c != negated
  | both a b => mayBegin c a || (a.mayBeEmpty && mayBegin c b)
  | either a b => mayBegin c a || mayBegin c b
  | many a _ _ => mayBegin c a
  | group _ a => mayBegin c a
  | again _ _ => true
  | _ => false

def size : Expression → Nat
  | both a b => a.size + b.size + 1
  | either a b => a.size + b.size + 1
  | many a least _ => a.size + least + 1
  | group _ a => a.size + 1
  | _ => 1

end Expression

end Weave
