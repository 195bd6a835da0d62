import Weave.Expression.Basic

/-!
# Where expressions match

An expression matches at a place of a text as far as it can reach. The places that it can
reach are found as sets, so that no way is gone twice; only what its groups have matched
is found by trying one way after the other, the longer ones first.
-/
namespace Weave.Expression

/-- A place in a text: the character before it, if there is one, and what is behind it,
with its length. -/
structure Spot where
  before : Option Char
  rest : Bytes
  left : Nat
deriving Repr, DecidableEq

namespace Spot

def ofText (before : Option Char) (t : Bytes) : Spot := ⟨before, t, t.length⟩

/-- The next place. -/
def next? (s : Spot) : Option (Char × Spot) :=
  match s.rest with
  | [] => none
  | c :: rest => some (c, ⟨some c, rest, s.left - 1⟩)

/-- The place so many characters further. -/
def skip (s : Spot) (n : Nat) : Spot :=
  if n = 0 then s
  else ⟨(s.rest[n - 1]?).or s.before, s.rest.drop n, s.left - n⟩

/-- Whether a word begins or ends here. -/
def isEdge (s : Spot) : Bool :=
  (s.before.any isWordChar) != (s.rest.head?.any isWordChar)

/-- Puts a place among others, which stand in the order of what is left, the least
first. -/
def insert (s : Spot) : List Spot → List Spot
  | [] => [s]
  | t :: more =>
    if s.left < t.left then s :: t :: more
    else if s.left = t.left then t :: more
    else t :: insert s more

/-- Joins places that stand in that order. -/
def join (s t : List Spot) : List Spot := s.foldr insert t

/-- Whether a place is among others that stand in that order. -/
def isAmong (s : Spot) : List Spot → Bool
  | [] => false
  | t :: more => if t.left < s.left then isAmong s more else t.left = s.left

end Spot

/-- The place itself if a condition holds. -/
def here (s : Spot) (holds : Bool) : List Spot := if holds then [s] else []

mutual

/-- The places that an expression can reach, those furthest away first. Expressions that
refer back reach nothing here. The number bounds how deep it goes. -/
def ends : Nat → Expression → Spot → List Spot
  | 0, _, _ => []
  | fuel + 1, e, s =>
    match e with
    | empty => [s]
    | one negated ranges =>
      match s.next? with
      | some (c, t) => here t (inRanges ranges c != negated)
      | none => []
    | start => here s s.before.isNone
    | finish => here s (s.left = 0)
    | edge isEdge => here s (s.isEdge = isEdge)
    | wordStart => here s (s.isEdge && s.rest.head?.any isWordChar)
    | wordEnd => here s (s.isEdge && s.before.any isWordChar)
    | both a b => endsOfAll fuel b (ends fuel a s)
    | either a b => Spot.join (ends fuel a s) (ends fuel b s)
    | many a least most => repeated fuel a least most [s] []
    | group _ a => ends fuel a s
    | again _ _ => []

/-- The places that can be reached from some places. -/
def endsOfAll : Nat → Expression → List Spot → List Spot
  | 0, _, _ => []
  | _ + 1, _, [] => []
  | fuel + 1, e, s :: more => Spot.join (ends fuel e s) (endsOfAll fuel e more)

/-- The places that are reached by repeating, from those reached by the last time. -/
def repeated : Nat → Expression → Nat → Option Nat → List Spot → List Spot → List Spot
  | 0, _, _, _, _, found => found
  | fuel + 1, a, least, most, last, found =>
    if last.isEmpty then found
    else if least > 0 then
      repeated fuel a (least - 1) (most.map (· - 1)) (endsOfAll fuel a last) []
    else
      let fresh := last.filter fun s => !s.isAmong found
      let found := Spot.join fresh found
      if most = some 0 then found
      else repeated fuel a 0 (most.map (· - 1)) (endsOfAll fuel a fresh) found

end

/-- What the groups of a match have matched. -/
abbrev Groups := List (Nat × Bytes)

def isSameText (anyCase : Bool) (a b : Bytes) : Bool :=
  a = b || (anyCase && a.map Char.toLower = b.map Char.toLower)

/-- Tries the ways of an expression one after the other, and goes on from where each
comes to, until that succeeds. The number bounds how deep it goes. -/
def tryWays {α : Type} :
    Nat → Expression → Spot → Groups → (Spot → Groups → Option α) → Option α
  | 0, _, _, _, _ => none
  | fuel + 1, e, s, g, next =>
    match e with
    | empty => next s g
    | one negated ranges =>
      match s.next? with
      | some (c, t) => if inRanges ranges c != negated then next t g else none
      | none => none
    | start => if s.before.isNone then next s g else none
    | finish => if s.left = 0 then next s g else none
    | edge isEdge => if s.isEdge = isEdge then next s g else none
    | wordStart => if s.isEdge && s.rest.head?.any isWordChar then next s g else none
    | wordEnd => if s.isEdge && s.before.any isWordChar then next s g else none
    | both a b => tryWays fuel a s g fun t g => tryWays fuel b t g next
    | either a b => (tryWays fuel a s g next).or (tryWays fuel b s g next)
    | many a least most =>
      if least > 0 then
        tryWays fuel a s g fun t g =>
          tryWays fuel (many a (least - 1) (most.map (· - 1))) t g next
      else if most = some 0 then next s g
      else
        let further := tryWays fuel a s g fun t g =>
          if t.left = s.left then none
          else tryWays fuel (many a 0 (most.map (· - 1))) t g next
        further.or (next s g)
    | group n a =>
      tryWays fuel a s g fun t g => next t ((n, s.rest.take (s.left - t.left)) :: g)
    | again n anyCase =>
      match g.lookup n with
      | none => none
      | some t =>
        if isSameText anyCase t (s.rest.take t.length) && t.length ≤ s.left then
          next (s.skip t.length) g
        else none

/-- A bound for how deep a match goes. -/
def depth (e : Expression) (length : Nat) : Nat :=
  (e.size + 2) * (length + 3)

/-- The groups of the way that comes to a certain place. -/
def groupsFor? (e : Expression) (s : Spot) (left : Nat) : Option Groups :=
  tryWays (depth e s.left) e s [] fun t g => if t.left = left then some g else none

/-- The longest match at a place: how much it leaves, and its groups. -/
def atSpot? (e : Expression) (s : Spot) : Option (Nat × Groups) :=
  if e.refersBack then
    (List.range (s.left + 1)).findSome? fun left => (groupsFor? e s left).map fun g => (left, g)
  else
    (ends (depth e s.left) e s).head?.map fun t =>
      (t.left, if e.hasGroups then (groupsFor? e s t.left).getD [] else [])

/-- A match in a text. -/
structure Match where
  before : Bytes
  found : Bytes
  groups : Groups
  behind : Bytes
deriving Repr, DecidableEq

/-- Looks for a match at every place, from the first one on. What has been passed is
given, the last character first. -/
def search (e : Expression) : Option Char → Bytes → Bytes → Option Match
  | before, passed, t =>
    let mayStart := e.mayBeEmpty || t.head?.any fun c => e.mayBegin c
    match if mayStart then e.atSpot? (.ofText before t) else none with
    | some (left, g) =>
      let n := t.length - left
      some ⟨passed.reverse, t.take n, g, t.drop n⟩
    | none =>
      match t with
      | [] => none
      | c :: rest => search e (some c) (c :: passed) rest

/-- The first match in a text, of which the character before is given. -/
def find? (e : Expression) (before : Option Char) (t : Bytes) : Option Match :=
  search e before [] t

/-- Whether it matches anywhere in a text. -/
def isIn (e : Expression) (t : Bytes) : Bool :=
  (e.find? none t).isSome

end Weave.Expression
