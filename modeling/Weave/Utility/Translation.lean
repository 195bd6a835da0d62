import Weave.Expression.Basic
import Weave.Utility.Lines

/-!
# The program that replaces characters

Characters of one set are replaced by those of another, or left out, and rows of the same
character may be made one. Sets are given by their characters, by ranges and by names.
-/
namespace Weave.Utility

open Job

namespace Translation

/-- A part of a set: characters in their order, or one that is repeated to fill up. -/
inductive Part where
  | chars (cs : List Char)
  | fill (c : Char)
deriving Repr, DecidableEq

inductive Fault where
  | reversed (t : Bytes)
  | noClass (name : Bytes)
deriving Repr, DecidableEq

def Fault.message : Fault → Bytes
  | reversed t =>
    "range-endpoints of ".toList ++ shown t ++ " are in reverse collating sequence order".toList
  | noClass name => "invalid character class ".toList ++ shown name

/-- The character at the front of a set, and what is behind it. -/
def readChar (t : Bytes) : Option (Char × Bytes) :=
  match t with
  | [] => none
  | '\\' :: c :: rest =>
    if Escape.isOctal c then
      let digits := ((c :: rest).take 3).takeWhile Escape.isOctal
      let digits := if Escape.numberIn 8 digits > 255 then digits.take 2 else digits
      some (Escape.byte (Escape.numberIn 8 digits), (c :: rest).drop digits.length)
    else
      match Escape.letters.lookup c with
      | some meant => if c = 'e' then some (c, rest) else some (meant, rest)
      | none => some (c, rest)
  | c :: rest => some (c, rest)

/-- All bytes in some ranges, in their order. -/
def charsIn (ranges : Ranges) : List Char :=
  ((List.range 256).map Char.ofNat).filter (Expression.inRanges ranges)

/-- The parts of a set. The number bounds how many there are. -/
def readParts : Nat → Bytes → Except Fault (List Part)
  | 0, _ => .ok []
  | fuel + 1, t =>
    match t with
    | [] => .ok []
    | '[' :: ':' :: rest =>
      match Text.cutAt ":]".toList rest with
      | some (name, behind) => do
        match Expression.classRanges.lookup (String.ofList name) with
        | some ranges => return .chars (charsIn ranges) :: (← readParts fuel behind)
        | none => throw (.noClass name)
      | none => plain fuel t
    | '[' :: '=' :: c :: '=' :: ']' :: rest => do
      return .chars [c] :: (← readParts fuel rest)
    | '[' :: rest =>
      match readChar rest with
      | some (c, '*' :: more) =>
        let digits := more.takeWhile Char.isDigit
        match more.drop digits.length with
        | ']' :: behind => do
          let base := if digits.head? = some '0' then 8 else 10
          let n := Escape.numberIn base digits
          let part := if n = 0 then Part.fill c else .chars (List.replicate n c)
          return part :: (← readParts fuel behind)
        | _ => plain fuel t
      | _ => plain fuel t
    | t => plain fuel t
where
  /-- A character or a range at the front. -/
  plain (fuel : Nat) (t : Bytes) : Except Fault (List Part) :=
    match readChar t with
    | none => .ok []
    | some (a, '-' :: behind) =>
      match readChar behind with
      | none => do return .chars [a] :: (← readParts fuel ('-' :: behind))
      | some (b, rest) =>
        if b < a then .error (.reversed ([a, '-', b]))
        else do return .chars (charsIn [(a, b)]) :: (← readParts fuel rest)
    | some (a, rest) => do return .chars [a] :: (← readParts fuel rest)

/-- The characters of a set, filled up to a length if it says with what. -/
def chars (length : Nat) (parts : List Part) : List Char :=
  let known := (parts.flatMap fun p => match p with
    | .chars cs => cs
    | .fill _ => []).length
  parts.flatMap fun p => match p with
    | .chars cs => cs
    | .fill c => List.replicate (length - known) c

/-- Makes rows of a character one. -/
def squeeze (isIn : Char → Bool) : Option Char → Bytes → Bytes
  | _, [] => []
  | before, c :: rest =>
    if before = some c && isIn c then squeeze isIn before rest
    else c :: squeeze isIn (some c) rest

end Translation

/-- Replaces characters of one set by those of another, or leaves them out. -/
def tr : Utility := fun words =>
  let o : Options :=
    { flags := "dscCt", anywhere := false
      names := [("delete", 'd'), ("squeeze-repeats", 's'), ("complement", 'c'),
        ("truncate-set1", 't')] }
  withWords o words fun w => do
    let most := if w.has "d" && !w.has "s" then 1 else 2
    let least := if w.has "d" = w.has "s" then 2 else 1
    if w.rest = [] then lacksOperand
    else if w.rest.length < least then
      complain ("missing operand after ".toList ++ shown (w.rest.getLast?.getD []))
      warn (if w.has "d" then "Two strings must be given when both deleting and squeezing repeats."
        else "Two strings must be given when translating.").toList
      hint
    else if w.rest.length > most then
      complain ("extra operand ".toList ++ shown (w.rest[most]?.getD []))
      if most = 1 then
        warn "Only one string may be given when deleting without squeezing repeats.".toList
      hint
    else
      let sets := w.rest.map fun t => Translation.readParts (t.length + 1) t
      if let some (.error f) := sets.find? fun s => s.toOption.isNone then
        return (← complain f.message)
      let parts (i : Nat) : List Translation.Part := ((sets[i]?).bind Except.toOption).getD []
      let plain := Translation.chars 0 (parts 0)
      let first := if w.has "cC" then
          ((List.range 256).map Char.ofNat).filter fun c => !plain.contains c
        else plain
      let second := Translation.chars first.length (parts 1)
      let translates := w.rest.length = 2 && !w.has "d"
      if translates && second = [] && !w.has "t" then
        return (← complain "when not truncating set1, string2 must be non-empty".toList)
      let first := if w.has "t" && translates then first.take second.length else first
      let table : Array (Option Char) := (List.range 256).foldl (fun table i =>
        match first.idxOf? (Char.ofNat i) with
        | some _ =>
          let last := first.length - 1 - (first.reverse.idxOf (Char.ofNat i))
          table.push (some ((second[last]?).getD (second.getLast?.getD (Char.ofNat i))))
        | none => table.push none) #[]
      let isFirst (c : Char) : Bool := ((table[c.toNat]?).join).isSome
      let t ← takeInput
      let replaced := if w.has "d" then t.filter fun c => !isFirst c
        else if translates then t.map fun c => ((table[c.toNat]?).join).getD c
        else t
      let squeezed := if w.rest.length = 2 then second else first
      print (if w.has "s" then Translation.squeeze squeezed.contains none replaced else replaced)

end Weave.Utility
