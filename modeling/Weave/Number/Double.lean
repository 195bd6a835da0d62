import Weave.Instance

/-!
# Numbers of double precision

A finite number of double precision is a sign and a multiple of the smallest
positive one, of which one contains `unitsInOne`. Around `n` units the numbers
are `gap n` units apart, so that each has at most fifty-three binary digits. All
arithmetic is exact on units and rounded once at the end, to the nearest number
and on a tie to the one whose last digit is even.
-/
namespace Weave

structure Double where
  negative : Bool
  units : Nat
deriving Repr, DecidableEq

namespace Double

def unitsInOne : Nat := 2 ^ 1074

/-- The first power of two that is too great for double precision. -/
def limit : Nat := 2 ^ 1024 * unitsInOne

/-- The distance from `n` units to the next greater number. -/
def gap (n : Nat) : Nat := 2 ^ (n.log2 - 52)

/-- The whole number nearest to a quotient, and of two the even one. -/
def nearest (num den : Nat) : Nat :=
  let whole := num / den
  let double := 2 * (num % den)
  if double < den then whole
  else if den < double then whole + 1
  else whole + whole % 2

/-- The number nearest to a quotient of units. -/
def round (num den : Nat) : Nat :=
  let step := gap (num / den)
  nearest num (den * step) * step

def ofNat (n : Nat) : Nat :=
  round (n * unitsInOne) 1

def mul (a b : Nat) : Nat :=
  round (a * b) unitsInOne

def div (a b : Nat) : Nat :=
  round (a * unitsInOne) b

/-- The greatest power of ten that is used as a factor. -/
def maxFactor : Nat := 308

/-- Divides by a power of ten, at most by the greatest factor at a time. -/
def shrink (units : Nat) (power : Nat) : Nat :=
  if power ≤ maxFactor then div units (ofNat (10 ^ power))
  else if units = 0 then 0
  else shrink (div units (ofNat (10 ^ maxFactor))) (power - maxFactor)
termination_by power
decreasing_by simp only [maxFactor] at *; omega

/-- A whole number times a power of ten, each step rounded. There is no answer
where the number is too great. -/
def scaled? (significand : Nat) (power : Int) : Option Nat :=
  let units := ofNat significand
  if power < 0 then some (shrink units (-power).toNat)
  else if units = 0 then some 0
  else if maxFactor < power then none
  else
    let product := mul units (ofNat (10 ^ power.toNat))
    if product < limit then some product else none

example : scaled? 90071992547409930 (-1) = some (ofNat 9007199254740994) := by decide +kernel

end Double

end Weave
