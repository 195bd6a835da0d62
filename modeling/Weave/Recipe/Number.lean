import Weave.Number.Decimal
import Weave.Number.Digits
import Weave.Recipe.Value

/-!
# Numbers in recipes

Whole numbers have no bound, and floating ones are of double precision; where both meet,
the whole one becomes a floating one. A quotient of whole numbers rounds down, and the
remainder has the sign of the divisor.
-/
namespace Weave.Recipe

/-- A whole number or a floating one. -/
inductive Number where
  | int (n : Int)
  | float (x : Float)

namespace Number

def ofValue? : Value → Option Number
  | .bool b => some (.int (if b then 1 else 0))
  | .int n => some (.int n)
  | .float x => some (.float x)
  | _ => none

def toValue : Number → Value
  | int n => .int n
  | float x => .float x

/-- The nearest floating number to a whole one. -/
def floatOf (n : Int) : Float :=
  let x := Quotient.toFloat ⟨n.natAbs, 1⟩
  if n < 0 then -x else x

def toFloat : Number → Float
  | int n => floatOf n
  | float x => x

/-- The greatest whole number that is no greater. -/
def floor (x : Float) : Float := Float.floor x

/-- The whole part of a floating number, if it is finite. -/
def truncated? (x : Float) : Option Int :=
  (Quotient.ofFloat? x).map fun (negative, q) => q.toInt negative

def isEqual : Number → Number → Bool
  | int a, int b => a = b
  | a, b => a.toFloat == b.toFloat

def isLess : Number → Number → Bool
  | int a, int b => a < b
  | a, b => a.toFloat < b.toFloat

/-- The remainder of floating numbers, with the sign of the divisor. -/
def remainder (a b : Float) : Float :=
  match Quotient.ofFloat? a, Quotient.ofFloat? b with
  | some (aNegative, p), some (bNegative, q) =>
    let den := p.den * q.den
    let signed (negative : Bool) (n : Nat) : Int := if negative then -n else n
    let r := Int.fmod (signed aNegative (p.num * q.den)) (signed bNegative (q.num * p.den))
    let x := Quotient.toFloat ⟨r.natAbs, den⟩
    if r < 0 || (r = 0 && bNegative) then -x else x
  | some _, none => if a == 0 || (a < 0) == (b < 0) then a else b
  | _, _ => 0 / 0

/-- The quotient of whole numbers as a floating number. -/
def quotient (a b : Int) : Float :=
  let x := Quotient.toFloat ⟨a.natAbs, b.natAbs⟩
  if (a < 0) != (b < 0) then -x else x

/-- Why an operation has no result. -/
inductive Refusal where
  /-- There is no such operation on these. -/
  | none
  | fault (kind message : String)

/-- The operations on whole numbers alone. -/
def bitwise? (op : String) (a b : Int) : Option (Except Refusal Int) :=
  let both (f : Bool → Bool → Bool) : Int :=
    let size := 1 + max a.natAbs.log2 b.natAbs.log2 + 1
    let modulus : Int := 2 ^ size
    let x := (a % modulus).toNat
    let y := (b % modulus).toNat
    let r : Nat := (List.range size).foldl
      (fun n i => if f (x.testBit i) (y.testBit i) then n + 2 ^ i else n) 0
    if r.testBit (size - 1) then (r : Int) - modulus else r
  match op with
  | "&" => some (.ok (both fun x y => x && y))
  | "|" => some (.ok (both fun x y => x || y))
  | "^" => some (.ok (both fun x y => x != y))
  | "<<" => some (if b < 0 then .error (.fault "ValueError" "negative shift count")
      else .ok (a * 2 ^ b.toNat))
  | ">>" => some (if b < 0 then .error (.fault "ValueError" "negative shift count")
      else .ok (Int.fdiv a (2 ^ b.toNat)))
  | _ => none

def byZero (message : String) : Except Refusal Number :=
  .error (.fault "ZeroDivisionError" message)

def ofInts (op : String) (a b : Int) : Except Refusal Number :=
  match op with
  | "+" => .ok (int (a + b))
  | "-" => .ok (int (a - b))
  | "*" => .ok (int (a * b))
  | "/" => if b = 0 then byZero "division by zero" else .ok (float (quotient a b))
  | "//" => if b = 0 then byZero "integer division or modulo by zero" else .ok (int (Int.fdiv a b))
  | "%" => if b = 0 then byZero "integer modulo by zero" else .ok (int (Int.fmod a b))
  | "**" =>
    if 0 ≤ b then .ok (int (a ^ b.toNat))
    else if a = 0 then byZero "0.0 cannot be raised to a negative power"
    else .ok (float (Float.pow (floatOf a) (floatOf b)))
  | _ =>
    match bitwise? op a b with
    | some r => r.map int
    | none => .error .none

def ofFloats (op : String) (a b : Float) : Except Refusal Number :=
  match op with
  | "+" => .ok (float (a + b))
  | "-" => .ok (float (a - b))
  | "*" => .ok (float (a * b))
  | "/" => if b == 0 then byZero "float division by zero" else .ok (float (a / b))
  | "//" => if b == 0 then byZero "float floor division by zero"
      else .ok (float (floor ((a - remainder a b) / b + 0.5)))
  | "%" => if b == 0 then byZero "float modulo" else .ok (float (remainder a b))
  | "**" => if a == 0 && b < 0 then byZero "0.0 cannot be raised to a negative power"
      else .ok (float (Float.pow a b))
  | _ => .error .none

/-- The result of an operation. -/
def combine (op : String) : Number → Number → Except Refusal Number
  | int a, int b => ofInts op a b
  | a, b => ofFloats op a.toFloat b.toFloat

/-- The least and the greatest power of ten of a first digit for which the point of a
floating number stands where it belongs. -/
def leastPositional : Int := -4

def greatestPositional : Int := 15

/-- Digits of which the first counts a power of ten. -/
def layOut (digits : Text) (power : Int) : Text :=
  if power < leastPositional || greatestPositional < power then
    let fraction := match digits.drop 1 with
      | [] => []
      | rest => '.' :: rest
    digits.take 1 ++ fraction ++ Quotient.exponentText 'e' power
  else if power < 0 then "0.".toList ++ Quotient.zeros (power.natAbs - 1) ++ digits
  else
    let whole := digits.take (power.toNat + 1)
    let fraction := match digits.drop (power.toNat + 1) with
      | [] => ['0']
      | rest => rest
    whole ++ Quotient.zeros (power.toNat + 1 - digits.length) ++ '.' :: fraction

/-- A floating number by the fewest digits that stand for it. -/
def floatText (x : Float) : Text :=
  match Quotient.ofFloat? x with
  | none => (if x != x then "nan" else if x < 0 then "-inf" else "inf").toList
  | some (negative, q) =>
    let size := if q.num = 0 then "0.0".toList
      else
        let (digits, power) := Double.shortest (q.num * (2 ^ 1074 / q.den))
        layOut digits power
    if negative then '-' :: size else size

def intText (n : Int) : Text := (toString n).toList

/-- The nearest number with so many places, and on a tie the one whose last digit is
even. -/
def rounded (x : Float) (places : Int) : Float :=
  match Quotient.ofFloat? x with
  | none => x
  | some (negative, q) =>
    let r := if 0 ≤ places then
        Quotient.toFloat ⟨Double.nearest (q.num * 10 ^ places.toNat) q.den, 10 ^ places.toNat⟩
      else
        let step := 10 ^ places.natAbs
        Quotient.toFloat ⟨Double.nearest q.num (q.den * step) * step, 1⟩
    if negative then -r else r

/-- The nearest whole number, and on a tie the even one. -/
def nearestInt? (x : Float) : Option Int :=
  (Quotient.ofFloat? x).map fun (negative, q) =>
    let n : Int := Double.nearest q.num q.den
    if negative then -n else n

example : [layOut ['1'] 16, layOut ['1', '5'] 15, layOut ['1', '5'] (-3), layOut ['1'] (-5)].map
    String.ofList = ["1e+16", "1500000000000000.0", "0.0015", "1e-05"] := by decide

end Number

end Weave.Recipe
