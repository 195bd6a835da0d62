import Weave.Utility.Lines

/-!
# Counting up and down

Printing the numbers from one to another, and taking numbers apart.
-/
namespace Weave.Utility

open Job

/-- A format for numbers: what stands before and behind the place of a number, and that
place. -/
structure NumberFormat where
  before : Bytes
  place : Directive
  behind : Bytes
deriving Repr, DecidableEq

/-- Reads a format that has exactly one place for a number, or tells why it has not. -/
def NumberFormat.read (t : Bytes) : Except Bytes NumberFormat := do
  let about (what : Bytes) : Bytes := "format ".toList ++ shown t ++ what
  let rec split : Bytes → Option (Bytes × Bytes)
    | [] => none
    | '%' :: '%' :: rest => (split rest).map fun (a, b) => ('%' :: a, b)
    | '%' :: rest => some ([], rest)
    | c :: rest => (split rest).map fun (a, b) => (c :: a, b)
  match split t with
  | none => throw (about " has no % directive".toList)
  | some (before, rest) =>
    match readDirective rest with
    | none => throw (about " ends in %".toList)
    | some (place, behind) =>
      if !"efgaEFGA".toList.contains place.conversion then
        throw (about (" has unknown %".toList ++ place.conversion :: " directive".toList))
      match split behind with
      | some _ => throw (about " has too many % directives".toList)
      | none => return ⟨before, place, Text.replaceAll "%%".toList ['%'] behind⟩

def NumberFormat.apply (f : NumberFormat) (n : Int) (places : Nat) : Bytes :=
  let q : Quotient := ⟨n.natAbs, 10 ^ places⟩
  let precision := f.place.precision.join
  let (sign, digits) := realFor f.place.flags f.place.conversion precision ⟨n < 0, .inl q, true⟩
  f.before ++ padNumber f.place.flags (f.place.width.getD 0) none sign digits ++ f.behind

/-- A number of steps of a decimal place as text. -/
def stepsText (n : Int) (places : Nat) : Bytes :=
  (if n < 0 then ['-'] else []) ++ Quotient.withPoint n.natAbs places

/-- A number with zeros before its digits. -/
def widened (width : Nat) (t : Bytes) : Bytes :=
  match t with
  | '-' :: digits => '-' :: List.replicate (width - t.length) '0' ++ digits
  | digits => List.replicate (width - t.length) '0' ++ digits

/-- Words that begin numbers, of which the dash is no sign of an option. -/
def isNegative (word : Bytes) : Bool :=
  match word with
  | '-' :: c :: _ => c.isDigit || c = '.'
  | _ => false

/-- Prints the numbers from one to another. -/
def seq : Utility := fun words =>
  let o : Options :=
    { flags := "w", valued := "sf"
      names := [("separator", 's'), ("equal-width", 'w'), ("format", 'f')], anywhere := false }
  let isOption := fun word => !isNegative word
  let front := words.takeWhile isOption
  let words := if front.length < words.length && !front.contains "--".toList then
      let limit := front.length
      words.take limit ++ (if (front.getLast?.any fun w => w = "-s".toList || w = "-f".toList)
        then [] else ["--".toList]) ++ words.drop limit
    else words
  withWords o words fun w => do
    if w.rest = [] then return (← lacksOperand)
    if w.rest.length > 3 then return (← hasExtra (w.rest[3]?.getD []))
    let decimals := w.rest.filterMap fun word =>
      (Decimal.read? word).bind fun (d, rest) => if rest = [] then some d else none
    if decimals.length < w.rest.length then
      let isNone (word : Bytes) : Bool := ((Decimal.read? word).map Prod.snd) != some []
      let word := (w.rest.find? isNone).getD []
      return (← misuse ("invalid floating point argument: ".toList ++ shown word))
    let one : Decimal := ⟨false, 1, 0, 0⟩
    let (first, step, last) := match decimals with
      | [last] => (one, one, last)
      | [first, last] => (first, one, last)
      | first :: step :: last :: _ => (first, step, last)
      | [] => (one, one, one)
    if step.digits = 0 then
      return (← misuse ("invalid Zero increment value: ".toList ++ shown (w.rest[1]?.getD [])))
    let format := (w.value? 'f').map NumberFormat.read
    if let some (.error message) := format then return (← complain message)
    let places := max first.neededPlaces step.neededPlaces
    let exact := max places last.neededPlaces
    let (a, d, z) := (first.inSteps exact, step.inSteps exact, last.inSteps exact)
    let count := if (z - a) * d < 0 then 0 else ((z - a) / d).toNat + 1
    let count := match ← room? with
      | some room => min count (room / 2 + 2)
      | none => count
    let scale : Int := 10 ^ (exact - places)
    let texts := (List.range count).map fun (i : Nat) =>
      let n := a + d * i
      match format with
      | some (.ok f) => f.apply n exact
      | _ => stepsText (n / scale) places
    let width := (texts.map List.length).foldl max 0
    let limit := (stepsText (z / scale) places).length
    let texts := if w.has "w" then texts.map (widened (max width limit)) else texts
    if texts != [] then printLine (Text.joinWith ((w.value? 's').getD ['\n']) texts)

/-- The prime factors of a number, from a possible one on. The number bounds how many are
tried. -/
def factorsFrom : Nat → Nat → Nat → List Nat
  | 0, _, n => [n]
  | fuel + 1, p, n =>
    if n < 2 then []
    else if n < p * p then [n]
    else if n % p = 0 then p :: factorsFrom fuel p (n / p)
    else factorsFrom fuel (if p = 2 then 3 else p + 2) n

/-- Prints numbers with their prime factors. -/
def factor : Utility := fun words =>
  withWords {} words fun w => do
    let given ← if w.rest = [] then pure (splitAtGaps (← takeInput)) else pure w.rest
    for word in given do
      if word = [] || !word.all Char.isDigit then
        complain (shown word ++ " is not a valid positive integer".toList)
      else
        let n := Escape.numberIn 10 word
        let shownFactors := (factorsFrom 2000000 2 n).flatMap fun p => ' ' :: Text.ofNat p
        printLine (Text.ofNat n ++ ':' :: shownFactors)
where
  /-- The words of a text between its gaps. -/
  splitAtGaps (t : Bytes) : List Bytes :=
    (Text.splitOn ' ' (t.map fun c => if c = '\n' || c = '\t' then ' ' else c)).filter (· ≠ [])

end Weave.Utility
