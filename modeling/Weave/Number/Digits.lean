import Weave.Number.Decimal
import Weave.Number.Double
import Weave.Text.Line

/-!
# Decimal digits of numbers

The fewest digits that a number is read back from, or so many digits as are asked for.
-/

/-!
## Shortest decimal digits

The reals that round to a number of double precision form an interval around
it, with half a gap on either side; only below a power of two, where the gap
before is the smaller one, does the lower side have less. The ends belong to
it exactly if the last binary digit is even. Among the decimals in the interval
the shortest one stands for the number, and of two equally short ones the
nearer, on a tie the even one.

A unit is a whole number of steps of the last decimal place that any number
needs, so all comparisons are of whole numbers.
-/
namespace Weave.Double

/-- How many decimal places suffice for every number. -/
def places : Nat := 1074

/-- A number of units as steps of the last decimal place. -/
def steps (units : Nat) : Nat := units * 5 ^ places

/-- Half a gap downward, in quarters of a unit. -/
def below (units : Nat) : Nat :=
  if units = 2 ^ units.log2 ∧ 1 < gap units then gap units else 2 * gap units

/-- Half a gap upward, in quarters of a unit. -/
def above (units : Nat) : Nat := 2 * gap units

/-- Whether a number of steps rounds to a number of units. -/
def standsFor (units decimal : Nat) : Bool :=
  let first := steps (4 * units - below units)
  let last := steps (4 * units + above units)
  if units / gap units % 2 = 0 then first ≤ 4 * decimal && 4 * decimal ≤ last
  else first < 4 * decimal && 4 * decimal < last

/-- The multiple of a grid's step that stands for a number of units, if there is
one: the nearest, or else its neighbour on the other side. -/
def onGrid? (units step : Nat) : Option Nat :=
  let floor := steps units / step
  let near := nearest (steps units) step
  let far := 2 * floor + 1 - near
  [near, far].find? fun n => standsFor units (n * step)

/-- The digits of the shortest decimal of a positive number, without zeros at
the end, and the power of ten that its first digit counts. -/
def shortest (units : Nat) : Text × Int :=
  let length := (Text.ofNat (steps units)).length
  let found := (List.range 17).findSome? fun n =>
    let place := length - (n + 1)
    (onGrid? units (10 ^ place)).map (·, place)
  let (digits, place) := found.getD (steps units, 0)
  let text := Text.ofNat digits
  ((text.reverse.dropWhile (· = '0')).reverse, (text.length + place : Int) - 1 - places)

end Weave.Double

/-!
## Numbers with so many digits

A number is laid out with a fixed count of places behind the point, with an exponent
behind its first digits, or in whichever of the two ways is shorter. What is left out is
rounded to the nearest, and on a tie to the even digit.
-/
namespace Weave.Quotient

def zeros (n : Nat) : Bytes := List.replicate n '0'

/-- Digits with a point before so many of them. -/
def withPoint (n places : Nat) : Bytes :=
  let digits := Text.ofNat n
  let padded := zeros (places + 1 - digits.length) ++ digits
  let whole := padded.take (padded.length - places)
  if places = 0 then whole else whole ++ '.' :: padded.drop whole.length

/-- The number with so many places behind the point. -/
def fixed (q : Quotient) (places : Nat) : Bytes :=
  withPoint (Double.nearest (q.num * 10 ^ places) q.den) places

/-- The greatest power of ten that is no greater. -/
def log10 (q : Quotient) : Int :=
  if q.num = 0 then 0
  else
    let isAtLeast (power : Int) : Bool :=
      if power < 0 then q.den ≤ q.num * 10 ^ power.natAbs else q.den * 10 ^ power.natAbs ≤ q.num
    let guess : Int := ((Text.ofNat q.num).length : Int) - (Text.ofNat q.den).length
    if isAtLeast guess then guess else guess - 1

/-- So many digits of the number, and the power of ten that counts the first one. -/
def leadingDigits (q : Quotient) (count : Nat) : Nat × Int :=
  let power := q.log10
  let shift := (count : Int) - 1 - power
  let digits := if shift < 0 then Double.nearest q.num (q.den * 10 ^ shift.natAbs)
    else Double.nearest (q.num * 10 ^ shift.natAbs) q.den
  if digits = 10 ^ count then (10 ^ (count - 1), power + 1) else (digits, power)

/-- An exponent with its sign and two digits at least. -/
def exponentText (mark : Char) (power : Int) : Bytes :=
  let digits := Text.ofNat power.natAbs
  mark :: (if power < 0 then '-' else '+') :: zeros (2 - digits.length) ++ digits

/-- The number with one digit before the point, so many behind it, and an exponent. -/
def scientific (q : Quotient) (mark : Char) (places : Nat) : Bytes :=
  let (digits, power) := q.leadingDigits (places + 1)
  withPoint digits places ++ exponentText mark power

/-- A text without zeros behind its point, and without the point if nothing is left behind
it. -/
def withoutZeros (t : Bytes) : Bytes :=
  if t.contains '.' then
    let kept := t.reverse.dropWhile (· = '0')
    (if kept.head? = some '.' then kept.drop 1 else kept).reverse
  else t

/-- The number with so many digits that count, in the shorter way. `keeps` tells whether
zeros at the end stay. -/
def general (q : Quotient) (mark : Char) (count : Nat) (keeps : Bool) : Bytes :=
  let count := max 1 count
  let (digits, power) := q.leadingDigits count
  let power := if q.num = 0 then 0 else power
  if power < -4 || (count : Int) ≤ power then
    let t := withPoint digits (count - 1)
    (if keeps then t else withoutZeros t) ++ exponentText mark power
  else
    let t := q.fixed ((count : Int) - 1 - power).toNat
    if keeps then t else withoutZeros t

/-- A number by the letter of a format: with a point, with an exponent, or the shorter of
both. -/
def byLetter (q : Quotient) (letter : Char) (precision : Nat) (keeps : Bool) : Bytes :=
  let mark := if letter.isUpper then 'E' else 'e'
  match letter.toLower with
  | 'e' => q.scientific mark precision
  | 'g' => q.general mark precision keeps
  | _ => q.fixed precision

example : [fixed ⟨5, 2⟩ 0, fixed ⟨1, 3⟩ 3, scientific ⟨12345, 1⟩ 'e' 2,
    general ⟨100000, 1⟩ 'e' 6 false,
    general ⟨1000000, 1⟩ 'e' 6 false, general ⟨1, 10000⟩ 'e' 6 false].map String.ofList =
    ["2", "0.333", "1.23e+04", "100000", "1e+06", "0.0001"] := by decide +kernel

end Weave.Quotient
