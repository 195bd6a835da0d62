import Weave.Expression.Read
import Weave.Text.Replacement
import Weave.Utility.Printing

/-!
# Formulas given by words

The program that computes with its words: numbers, comparisons, matches with an
expression, and choices between values, each operator a word of its own. Its
status is one where the value is empty or zero.
-/
namespace Weave.Utility

open Job

namespace Formula

inductive Fault where
  | notInteger
  | divisionByZero
  /-- There must be a word behind this one. -/
  | lacksArgument (word : Bytes)
  | lacksClosing (word : Bytes)
  | unexpected (word : Bytes)
deriving Repr, DecidableEq

def Fault.message : Fault → Bytes
  | notInteger => "non-integer argument".toList
  | divisionByZero => "division by zero".toList
  | lacksArgument word => "syntax error: missing argument after ".toList ++ shown word
  | lacksClosing word => "syntax error: expecting ')' after ".toList ++ shown word
  | unexpected word => "syntax error: unexpected argument ".toList ++ shown word

/-- The number that a value is. -/
def integer? (t : Bytes) : Option Int :=
  let (negative, digits) := match t with
    | '-' :: rest => (true, rest)
    | rest => (false, rest)
  let n : Int := Escape.numberIn 10 digits
  if digits = [] || !digits.all Char.isDigit then none else some (if negative then -n else n)

/-- Whether a value counts as nothing. -/
def isNull (t : Bytes) : Bool :=
  t = [] || integer? t = some 0

def ofInt (n : Int) : Bytes := (toString n).toList

def ofTruth (b : Bool) : Bytes := if b then ['1'] else ['0']

/-- What an expression matches at the front of a text: its group, or without one
how many characters. -/
def matched (t pattern : Bytes) : Bytes :=
  let found := (Expression.ofText .plain pattern).atSpot? (.ofText none t)
  if (Text.cutAt "\\(".toList pattern).isSome then (found.bind fun f => f.2.lookup 1).getD []
  else match found with
    | some (left, _) => Text.ofNat (t.length - left)
    | none => ['0']

/-- How tightly an operator binds. -/
def precedence (operator : Bytes) : Option Nat :=
  [("|", 0), ("&", 1), ("<", 2), ("<=", 2), ("=", 2), ("==", 2), ("!=", 2), (">=", 2), (">", 2),
   ("+", 3), ("-", 3), ("*", 4), ("/", 4), ("%", 4), (":", 5)].lookup (String.ofList operator)

/-- Two values compared: as numbers if both are, or else as texts. -/
def compare (operator a b : Bytes) : Bool :=
  let order := match integer? a, integer? b with
    | some m, some n => Ord.compare m n
    | _, _ => if a = b then .eq else if a < b then .lt else .gt
  match String.ofList operator with
  | "<" => order.isLT
  | "<=" => order.isLE
  | ">" => order.isGT
  | ">=" => order.isGE
  | "!=" => order.isNe
  | _ => order.isEq

def calculate (operator a b : Bytes) : Except Fault Bytes :=
  match integer? a, integer? b with
  | some m, some n =>
    match String.ofList operator with
    | "+" => .ok (ofInt (m + n))
    | "-" => .ok (ofInt (m - n))
    | "*" => .ok (ofInt (m * n))
    | "/" => if n = 0 then .error .divisionByZero else .ok (ofInt (m.tdiv n))
    | _ => if n = 0 then .error .divisionByZero else .ok (ofInt (m.tmod n))
  | _, _ => .error .notInteger

def apply (operator a b : Bytes) : Except Fault Bytes :=
  match precedence operator with
  | some 0 => .ok (if !isNull a then a else if !isNull b then b else ['0'])
  | some 1 => .ok (if isNull a || isNull b then ['0'] else a)
  | some 2 => .ok (ofTruth (compare operator a b))
  | some 5 => .ok (matched a b)
  | _ => calculate operator a b

/-- A part of a text by its first position and its length. -/
def part (t position length : Bytes) : Bytes :=
  match integer? position, integer? length with
  | some p, some n => if p < 1 || n < 1 then [] else (t.drop (p.toNat - 1)).take n.toNat
  | _, _ => []

/-- The first position in a text of one of some characters. -/
def position (t chars : Bytes) : Bytes :=
  Text.ofNat (match t.findIdx? chars.contains with
    | some i => i + 1
    | none => 0)

mutual

/-- A value and the words behind it. The word before is given. -/
def read : Nat → Nat → Bytes → List Bytes → Except Fault (Bytes × List Bytes)
  | 0, _, before, _ => .error (.lacksArgument before)
  | fuel + 1, least, before, words => do
    let (a, rest) ← readOne fuel before words
    goOn fuel least a rest

/-- Goes on with the operators behind a value. -/
def goOn : Nat → Nat → Bytes → List Bytes → Except Fault (Bytes × List Bytes)
  | 0, _, a, words => .ok (a, words)
  | fuel + 1, least, a, words => do
    match words with
    | [] => return (a, [])
    | operator :: rest =>
      match precedence operator with
      | none => return (a, words)
      | some p =>
        if p < least then return (a, words)
        else
          let (b, rest) ← read fuel (p + 1) operator rest
          goOn fuel least (← apply operator a b) rest

def readOne : Nat → Bytes → List Bytes → Except Fault (Bytes × List Bytes)
  | 0, before, _ => .error (.lacksArgument before)
  | fuel + 1, before, words => do
    match words with
    | [] => throw (.lacksArgument before)
    | word :: rest =>
      match String.ofList word with
      | "(" =>
        let (a, rest') ← read fuel 0 word rest
        match rest' with
        | [')'] :: rest => return (a, rest)
        | [] => throw (.lacksClosing (rest.getLast?.getD word))
        | other :: _ => throw (.unexpected other)
      | ")" => throw (.unexpected word)
      | "+" =>
        match rest with
        | [] => throw (.lacksArgument word)
        | quoted :: rest => return (quoted, rest)
      | "length" =>
        let (a, rest) ← readOne fuel word rest
        return (Text.ofNat a.length, rest)
      | "match" =>
        let (a, rest) ← readOne fuel word rest
        let (b, rest) ← readOne fuel word rest
        return (matched a b, rest)
      | "index" =>
        let (a, rest) ← readOne fuel word rest
        let (b, rest) ← readOne fuel word rest
        return (position a b, rest)
      | "substr" =>
        let (a, rest) ← readOne fuel word rest
        let (b, rest) ← readOne fuel word rest
        let (c, rest) ← readOne fuel word rest
        return (part a b c, rest)
      | _ => return (word, rest)

end

def eval (words : List Bytes) : Except Fault Bytes := do
  match ← read (4 * words.length + 4) 0 [] words with
  | (a, []) => return a
  | (_, word :: _) => throw (.unexpected word)

end Formula

def expr : Utility := fun words => do
  match if words.head? = some "--".toList then words.drop 1 else words with
  | [] =>
    lacksOperand
    leave 2
  | words =>
    match Formula.eval words with
    | .ok value =>
      printLine value
      leave (if Formula.isNull value then 1 else 0)
    | .error f =>
      complain f.message
      leave 2

end Weave.Utility
