import Weave.Number.Double
import Weave.Text.Bytes

/-!
# Decimal numbers

A decimal is a whole number times a power of ten, as it is written with digits, a point
and an exponent. Its value is a quotient of whole numbers, which can be rounded to a
number of binary digits.
-/
namespace Weave

structure Decimal where
  negative : Bool
  digits : Nat
  /-- The power of ten. -/
  exponent : Int
  /-- How many digits were written behind the point. -/
  places : Nat := 0
deriving Repr, DecidableEq

/-- A quotient of whole numbers that is not negative. -/
structure Quotient where
  num : Nat
  den : Nat
deriving Repr, DecidableEq

namespace Decimal

def value (t : Bytes) : Nat :=
  t.foldl (fun n c => n * 10 + (c.toNat - '0'.toNat)) 0

/-- A sign at the front, and what is behind it. -/
def readMinus (t : Bytes) : Bool × Bytes :=
  match t with
  | '-' :: rest => (true, rest)
  | '+' :: rest => (false, rest)
  | rest => (false, rest)

/-- The exponent at the front, if there is one, and what is behind it. -/
def readExponent (t : Bytes) : Int × Bytes :=
  match t with
  | c :: rest =>
    let (negative, digits) := readMinus rest
    let used := digits.takeWhile Char.isDigit
    if (c = 'e' || c = 'E') && used != [] then
      let n : Int := value used
      (if negative then -n else n, digits.drop used.length)
    else (0, t)
  | [] => (0, [])

/-- The decimal at the front of a text, and what is behind it. -/
def read? (t : Bytes) : Option (Decimal × Bytes) :=
  let (negative, t) := readMinus t
  let whole := t.takeWhile Char.isDigit
  let behind := t.drop whole.length
  let (part, behind) := match behind with
    | '.' :: rest => (rest.takeWhile Char.isDigit, rest.dropWhile Char.isDigit)
    | rest => ([], rest)
  if whole = [] && part = [] then none
  else
    let (exponent, behind) := readExponent behind
    some (⟨negative, value (whole ++ part), exponent - part.length, part.length⟩, behind)

def quotient (d : Decimal) : Quotient :=
  if d.exponent < 0 then ⟨d.digits, 10 ^ d.exponent.natAbs⟩
  else ⟨d.digits * 10 ^ d.exponent.natAbs, 1⟩

/-- The decimal as a whole number of steps of a decimal place. -/
def inSteps (d : Decimal) (places : Nat) : Int :=
  let power := d.exponent + places
  let n : Int := if power < 0 then d.digits / 10 ^ power.natAbs else d.digits * 10 ^ power.natAbs
  if d.negative then -n else n

/-- How many places behind the point are needed to write it. -/
def neededPlaces (d : Decimal) : Nat :=
  (-d.exponent).toNat

example : (read? "-12.50e1x".toList).map (fun r => (r.1, r.1.neededPlaces)) =
    some (⟨true, 1250, -1, 2⟩, 1) := by decide

end Decimal

namespace Quotient

/-- The power of two that counts the first binary digit; of zero it is zero. -/
def log2 (q : Quotient) : Int :=
  if q.num = 0 then 0
  else
    let guess : Int := (q.num.log2 : Int) - q.den.log2
    let isAtLeast (power : Int) : Bool :=
      if power < 0 then q.den ≤ q.num * 2 ^ power.natAbs else q.den * 2 ^ power.natAbs ≤ q.num
    if isAtLeast guess then guess else guess - 1

/-- The nearest quotient with so many binary digits, and on a tie the even one. -/
def roundTo (bits : Nat) (q : Quotient) : Quotient :=
  let power := q.log2 - ((bits : Int) - 1)
  if power < 0 then
    let scale := 2 ^ power.natAbs
    ⟨Double.nearest (q.num * scale) q.den, scale⟩
  else
    let scale := 2 ^ power.natAbs
    ⟨Double.nearest q.num (q.den * scale) * scale, 1⟩

end Quotient

end Weave

/-!
## Floating numbers as quotients

A finite floating number has a sign and is a quotient of whole numbers, which its bits
give: a fraction of fifty-two bits behind an exponent of eleven.
-/
namespace Weave.Quotient

/-- The sign and the value of a floating number, if it is finite. -/
def ofFloat? (x : Float) : Option (Bool × Quotient) :=
  let bits := x.toBits.toNat
  let negative := 2 ^ 63 ≤ bits
  let exponent := bits / 2 ^ 52 % 2 ^ 11
  let part := bits % 2 ^ 52
  if exponent = 2 ^ 11 - 1 then none
  else if exponent = 0 then some (negative, ⟨part, 2 ^ 1074⟩)
  else if exponent < 1075 then some (negative, ⟨part + 2 ^ 52, 2 ^ (1075 - exponent)⟩)
  else some (negative, ⟨(part + 2 ^ 52) * 2 ^ (exponent - 1075), 1⟩)

/-- The whole part of a number with a sign. -/
def toInt (negative : Bool) (q : Quotient) : Int :=
  let whole : Int := q.num / q.den
  if negative then -whole else whole

/-- Whether it is a whole number. -/
def isWhole (q : Quotient) : Bool := q.num % q.den = 0

/-- The nearest floating number. -/
def toFloat (q : Quotient) : Float :=
  let r := q.roundTo 53
  Float.scaleB (Float.ofNat r.num) (-(r.den.log2 : Int))

end Weave.Quotient
