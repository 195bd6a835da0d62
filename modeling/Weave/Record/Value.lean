import Weave.Number.Decimal
import Weave.Record.Program
import Weave.Record.Token
import Weave.Utility.Printing

/-!
# Values of programs for records

A value is a number or a text, or nothing yet, which is both. A text that has been read is
a number too, if it looks like one.
-/
namespace Weave.Record

inductive Value where
  | nothing
  | number (x : Float)
  | text (t : Bytes)
  /-- A text that has been read. -/
  | read (t : Bytes)
deriving Inhabited

def Comparison.holds {α : Type} [LT α] [LE α] [BEq α] [DecidableLT α] [DecidableLE α]
    (c : Comparison) (a b : α) : Bool :=
  match c with
  | .less => a < b
  | .atMost => a ≤ b
  | .equal => a == b
  | .unequal => a != b
  | .greater => b < a
  | .atLeast => b ≤ a

namespace Value

def isGap (c : Char) : Bool := c = ' ' || ('\t' ≤ c && c ≤ '\r')

def infinity : Float := 1.0 / 0.0

/-- The number that a text begins with, and what is behind it. -/
def numberIn? (t : Bytes) : Option (Float × Bytes) :=
  let t := t.dropWhile isGap
  let (negative, size) := Decimal.readMinus t
  let lower := size.map Char.toLower
  let named (word : String) : Bool := Text.beginsWith word.toList lower
  let found : Option (Float × Bytes) :=
    if named "infinity" then some (infinity, size.drop 8)
    else if named "inf" then some (infinity, size.drop 3)
    else if named "nan" then some (infinity - infinity, size.drop 3)
    else if named "0x" then
      let digits := (size.drop 2).takeWhile fun c => Escape.digitOf c < 16
      if digits = [] then some (0, size.drop 1)
      else some (Float.ofNat (Escape.numberIn 16 digits), size.drop (digits.length + 2))
    else if size.head?.any fun c => c.isDigit || c = '.' then Token.readNumber size
    else none
  found.map fun (x, rest) => (if negative then -x else x, rest)

/-- Whether all of a text is a number, maybe between spaces. Letters are no digits here. -/
def looksNumeric (t : Bytes) : Bool :=
  match numberIn? t with
  | some (_, rest) => rest.all isGap && !(t.any fun c => "abcdfABCDF".toList.contains c
      && t.any fun c => c = 'x' || c = 'X')
  | none => false

def toNumber : Value → Float
  | nothing => 0
  | number x => x
  | text t => ((numberIn? t).map Prod.fst).getD 0
  | read t => ((numberIn? t).map Prod.fst).getD 0

def ofNat (n : Nat) : Value := number (Float.ofNat n)

def ofInt (n : Int) : Value := number (Float.ofInt n)

def ofBool (b : Bool) : Value := number (if b then 1 else 0)

/-- A whole number, if it is not beyond a bound. -/
def whole? (x : Float) : Option Int :=
  (Quotient.ofFloat? x).bind fun (negative, q) =>
    if q.isWhole && q.num < 2 ^ 63 * q.den then some (q.toInt negative) else none

/-- The whole part of a number, no greater than what sixty-four bits hold. -/
def truncated (x : Float) : Int :=
  match Quotient.ofFloat? x with
  | some (negative, q) => max (-2 ^ 63) (min (2 ^ 63 - 1) (q.toInt negative))
  | none => if x > 0 then 2 ^ 63 - 1 else -2 ^ 63

/-- A number with its sign and value, or its name where it has no value. -/
def real (x : Float) : Utility.Real :=
  match Quotient.ofFloat? x with
  | some (negative, q) => ⟨negative, .inl q, true⟩
  | none => if x.isNaN then ⟨true, .inr "nan".toList, true⟩ else ⟨x < 0, .inr "inf".toList, true⟩

/-- The text of a number by a conversion. -/
def laidOut (d : Utility.Directive) (flags : Bytes) (width : Nat) (precision : Option Nat)
    (x : Float) : Bytes :=
  let (sign, digits) := Utility.realFor flags d.conversion precision (real x)
  let flags := if (Quotient.ofFloat? x).isSome then flags else flags.filter (· ≠ '0')
  Utility.padNumber flags width none sign digits

/-- The text of a number by a format that has one place for it. -/
def numberText (format : Bytes) (x : Float) : Bytes :=
  let before := format.takeWhile (· ≠ '%')
  match Utility.readDirective (format.drop (before.length + 1)) with
  | some (d, rest) =>
    if d.conversion = 'd' || d.conversion = 'i' then
      before ++ (toString (truncated x)).toList ++ rest
    else before ++ laidOut d d.flags (d.width.join.getD 0) d.precision.join x ++ rest
  | none => format

/-- The text of a value; numbers that are not whole are written by a format. -/
def toText (format : Bytes) : Value → Bytes
  | nothing => []
  | number x => match whole? x with
    | some n => (toString n).toList
    | none => numberText format x
  | text t => t
  | read t => t

/-- The number that a value is, if it is one. -/
def number? : Value → Option Float
  | nothing => some 0
  | number x => some x
  | text _ => none
  | read t => if looksNumeric t then (numberIn? t).map Prod.fst else none

def isTrue : Value → Bool
  | nothing => false
  | number x => x != 0
  | text t => t != []
  | read t => if looksNumeric t then toNumber (read t) != 0 else t != []

/-- Two values are compared as numbers if both are, and otherwise as texts. -/
def compare (format : Bytes) (c : Comparison) (a b : Value) : Bool :=
  match a.number?, b.number? with
  | some x, some y => c.holds x y
  | _, _ => c.holds (a.toText format) (b.toText format)

/-- What an operation gives. -/
def combine (op : Operation) (x y : Float) : Float :=
  match op with
  | .add => x + y
  | .subtract => x - y
  | .multiply => x * y
  | .divide => x / y
  | .power => Float.pow x y
  | .remainder =>
    match Quotient.ofFloat? x, Quotient.ofFloat? y with
    | some (negative, p), some (_, q) =>
      if q.num = 0 then infinity - infinity
      else
        let rest := p.num * q.den % (q.num * p.den)
        let bottom := p.den * q.den
        let size := (Quotient.mk rest bottom).toFloat
        if negative then -size else size
    | some _, none => if y.isNaN then y else x
    | none, _ => infinity - infinity

end Value

end Weave.Record
