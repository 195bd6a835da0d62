import Weave.Number.Digits

/-!
# JSON values and their printed form

Objects keep the order of their members. The printed form puts every item and
member on a line of its own, two spaces deeper than its container; empty
containers stay on one line. In strings only the quote, the backslash and the
control characters below the space are escaped, those with a short form by it.
-/

/-!
## Numbers with a fraction in JSON

A number of double precision is printed by its shortest digits. Between a
hundred-thousandth and ten to the sixteenth the point stands where it belongs,
with a digit on either side; beyond, one digit stands before the point and the
exponent follows with its sign.
-/
namespace Weave.Json

/-- The least and the greatest power of ten of a first digit for which the point
stands where it belongs. -/
def leastPositional : Int := -5

def greatestPositional : Int := 15

def zeros (n : Nat) : Text :=
  List.replicate n '0'

/-- Digits of which the first counts a power of ten. -/
def layOut (digits : Text) (power : Int) : Text :=
  if power < leastPositional || greatestPositional < power then
    let fraction := match digits.drop 1 with
      | [] => []
      | rest => '.' :: rest
    let sign := if power < 0 then '-' else '+'
    digits.take 1 ++ fraction ++ 'e' :: sign :: Text.ofNat power.natAbs
  else if power < 0 then "0.".toList ++ zeros (power.natAbs - 1) ++ digits
  else
    let whole := digits.take (power.toNat + 1)
    let fraction := match digits.drop (power.toNat + 1) with
      | [] => ['0']
      | rest => rest
    whole ++ zeros (power.toNat + 1 - digits.length) ++ '.' :: fraction

def printReal (x : Double) : Text :=
  let size := if x.units = 0 then "0.0".toList
    else
      let (digits, power) := Double.shortest x.units
      layOut digits power
  if x.negative then '-' :: size else size

example : [("1", 16), ("15", 15), ("1234", 1), ("15", -3), ("1", -5), ("25", -6)].map
    (fun p => String.ofList (layOut p.1.toList p.2)) =
    ["1e+16", "1500000000000000.0", "12.34", "0.0015", "0.00001", "2.5e-6"] := by decide +kernel

end Weave.Json

/-! ## Values -/

namespace Weave

/-- An integer has at most sixty-four bits. Any other number is of double
precision. -/
inductive Json where
  | null
  | bool (value : Bool)
  | int (value : Int)
  | real (value : Double)
  | str (value : Text)
  | arr (items : List Json)
  | obj (members : List (Text × Json))
deriving Repr

namespace Json

/-- The escapes of one letter: the character and the letter that stands for it. -/
def shortEscapes : List (Char × Char) :=
  [('"', '"'), ('\\', '\\'), ('\x08', 'b'), ('\x0c', 'f'), ('\n', 'n'), ('\r', 'r'), ('\t', 't')]

def escapeChar (c : Char) : Text :=
  match shortEscapes.lookup c with
  | some letter => ['\\', letter]
  | none =>
    if c.toNat < 0x20 then
      "\\u00".toList ++ [Nat.digitChar (c.toNat / 16), Nat.digitChar (c.toNat % 16)]
    else [c]

def quote (s : Text) : Text :=
  '"' :: s.flatMap escapeChar ++ ['"']

/-- A new line at a depth of nesting. -/
def indent (depth : Nat) : Text :=
  '\n' :: List.replicate (2 * depth) ' '

mutual

/-- Prints a value that stands at a depth of nesting. -/
def printAt (depth : Nat) : Json → Text
  | null => "null".toList
  | bool true => "true".toList
  | bool false => "false".toList
  | int value => (toString value).toList
  | real value => printReal value
  | str value => quote value
  | arr [] => "[]".toList
  | arr (first :: rest) =>
    '[' :: indent (depth + 1) ++ printAt (depth + 1) first ++ printItems (depth + 1) rest
      ++ indent depth ++ [']']
  | obj [] => "\x7b\x7d".toList
  | obj ((key, value) :: rest) =>
    '\x7b' :: indent (depth + 1) ++ quote key ++ ": ".toList ++ printAt (depth + 1) value
      ++ printMembers (depth + 1) rest ++ indent depth ++ ['\x7d']

/-- The items behind the first. -/
def printItems (depth : Nat) : List Json → Text
  | [] => []
  | item :: rest => ',' :: indent depth ++ printAt depth item ++ printItems depth rest

/-- The members behind the first. -/
def printMembers (depth : Nat) : List (Text × Json) → Text
  | [] => []
  | (key, value) :: rest =>
    ',' :: indent depth ++ quote key ++ ": ".toList ++ printAt depth value
      ++ printMembers depth rest

end

def print (j : Json) : Text :=
  j.printAt 0

/-- An object with its members in the order given. -/
def record (members : List (String × Json)) : Json :=
  obj (members.map fun m => (m.1.toList, m.2))

def texts (ts : List Text) : Json :=
  arr (ts.map str)

def nat (n : Nat) : Json :=
  int n

example : print (record [("a", arr [nat 1, str "\"\n".toList]), ("b", obj [])]) =
    "\x7b\n  \"a\": [\n    1,\n    \"\\\"\\n\"\n  ],\n  \"b\": \x7b\x7d\n\x7d".toList := by decide

end Json

end Weave
