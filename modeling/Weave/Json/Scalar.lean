import Weave.Json.Basic

/-!
# Reading the scalars of a JSON text

A string or a number may be read for its value or merely passed over, and
passing over asks less: it accepts an escape that names half a surrogate pair
and a number of any size. So each has two functions, one for the value and one
for the text behind it. Whoever reads a value looks at the value first.
-/
namespace Weave.Json

/-- Why a JSON text is refused: it breaks the grammar, it is a value of the
wrong shape, or it ends too early. -/
inductive Fault where
  | malformed
  | misshapen
  | unfinished
deriving Repr, DecidableEq

/-- The value of a hexadecimal digit. -/
def hexValue? (c : Char) : Option Nat :=
  if '0' ≤ c ∧ c ≤ '9' then some (c.toNat - '0'.toNat)
  else if 'a' ≤ c ∧ c ≤ 'f' then some (c.toNat - 'a'.toNat + 10)
  else if 'A' ≤ c ∧ c ≤ 'F' then some (c.toNat - 'A'.toNat + 10)
  else none

/-- The sixteen-bit unit that four digits name. -/
def unit? (a b c d : Char) : Option Nat := do
  let a ← hexValue? a
  let b ← hexValue? b
  let c ← hexValue? c
  let d ← hexValue? d
  return ((a * 16 + b) * 16 + c) * 16 + d

/-- The character of a one-letter escape. -/
def unescape? (letter : Char) : Option Char :=
  if letter = '/' then some '/'
  else (shortEscapes.find? fun e => e.2 == letter).map Prod.fst

/-- What is wrong with a unit escape of fewer than four digits. A text that
has no room for them in bytes has ended. -/
def shortUnit (rest : Text) : Fault :=
  if rest.foldr (fun c n => c.utf8Size + n) 0 < 4 then .unfinished else .malformed

def isLeading (unit : Nat) : Bool := 0xD800 ≤ unit && unit ≤ 0xDBFF

def isTrailing (unit : Nat) : Bool := 0xDC00 ≤ unit && unit ≤ 0xDFFF

def joinUnits (leading trailing : Nat) : Char :=
  Char.ofNat (0x10000 + (leading - 0xD800) * 0x400 + (trailing - 0xDC00))

/-- The text behind a string whose opening quote has been read. -/
def skipString : Text → Except Fault Text
  | [] => .error .unfinished
  | '"' :: rest => .ok rest
  | '\\' :: 'u' :: a :: b :: c :: d :: rest =>
    if (unit? a b c d).isSome then skipString rest else .error .malformed
  | '\\' :: 'u' :: rest => .error (shortUnit rest)
  | ['\\'] => .error .unfinished
  | '\\' :: letter :: rest =>
    if (unescape? letter).isSome then skipString rest else .error .malformed
  | c :: rest => if c.toNat < 0x20 then .error .malformed else skipString rest

/-- What is wrong behind a leading unit that no full unit follows. -/
def lonelyUnit : Text → Fault
  | [] => .unfinished
  | ['\\'] => .unfinished
  | '\\' :: 'u' :: rest => shortUnit rest
  | _ => .malformed

/-- The value of a string whose opening quote has been read. -/
def readString : Text → Except Fault Text
  | [] => .error .unfinished
  | '"' :: _ => .ok []
  | '\\' :: 'u' :: a :: b :: c :: d :: rest =>
    match unit? a b c d with
    | none => .error .malformed
    | some unit =>
      if isTrailing unit then .error .malformed
      else if isLeading unit then
        match rest with
        | '\\' :: 'u' :: e :: f :: g :: h :: rest =>
          match unit? e f g h with
          | some next =>
            if isTrailing next then (joinUnits unit next :: ·) <$> readString rest
            else .error .malformed
          | none => .error .malformed
        | rest => .error (lonelyUnit rest)
      else (Char.ofNat unit :: ·) <$> readString rest
  | '\\' :: 'u' :: rest => .error (shortUnit rest)
  | ['\\'] => .error .unfinished
  | '\\' :: letter :: rest =>
    match unescape? letter with
    | some c => (c :: ·) <$> readString rest
    | none => .error .malformed
  | c :: rest =>
    if c.toNat < 0x20 then .error .malformed else (c :: ·) <$> readString rest

/-- A number as it is written. -/
structure Literal where
  negative : Bool
  whole : Text
  fraction : Option Text
  /-- The mark, the sign and the digits of the exponent. -/
  exponent : Option (Text × Text)
deriving Repr, DecidableEq

/-- The digits at the front, of which there must be one; otherwise the text
where it is missing. -/
def scanDigits (t : Text) : Except Text (Text × Text) :=
  match t.takeWhile Char.isDigit with
  | [] => .error t
  | digits => .ok (digits, t.dropWhile Char.isDigit)

/-- The whole part: a zero alone, or digits that do not begin with zero. -/
def scanWhole (t : Text) : Except Text (Text × Text) :=
  match t with
  | '0' :: c :: rest => if c.isDigit then .error (c :: rest) else .ok (['0'], c :: rest)
  | t => scanDigits t

def scanFraction (t : Text) : Except Text (Option Text × Text) :=
  match t with
  | '.' :: rest => (scanDigits rest).map fun p => (some p.1, p.2)
  | t => .ok (none, t)

def scanExponent (t : Text) : Except Text (Option (Text × Text) × Text) :=
  match t with
  | c :: rest =>
    if c = 'e' ∨ c = 'E' then
      match rest with
      | '+' :: rest => (scanDigits rest).map fun p => (some ([c, '+'], p.1), p.2)
      | '-' :: rest => (scanDigits rest).map fun p => (some ([c, '-'], p.1), p.2)
      | rest => (scanDigits rest).map fun p => (some ([c], p.1), p.2)
    else .ok (none, c :: rest)
  | [] => .ok (none, [])

/-- The number at the front and the text behind it, or the text where a digit
is missing or one too many. -/
def scanNumber (t : Text) : Except Text (Literal × Text) := do
  let (negative, t) := match t with
    | '-' :: rest => (true, rest)
    | t => (false, t)
  let (whole, t) ← scanWhole t
  let (fraction, t) ← scanFraction t
  let (exponent, t) ← scanExponent t
  return (⟨negative, whole, fraction, exponent⟩, t)

/-- The value of decimal digits. -/
def digitsValue (digits : Text) : Nat :=
  digits.foldl (fun n c => 10 * n + (c.toNat - '0'.toNat)) 0

/-- The digits of a number are read into a significand of sixty-four bits. -/
def maxSignificand : Nat := 2 ^ 64 - 1

/-- Reads digits into a significand up to the first that does not fit. The
second number counts the digits left out. -/
def collect (significand : Nat) : Text → Nat × Nat
  | [] => (significand, 0)
  | c :: rest =>
    let next := 10 * significand + digitsValue [c]
    if next ≤ maxSignificand then collect next rest else (significand, rest.length + 1)

namespace Literal

/-- The power of ten that the exponent asks for. -/
def power (l : Literal) : Int :=
  match l.exponent with
  | some (mark, digits) =>
    if mark.contains '-' then -(digitsValue digits : Int) else digitsValue digits
  | none => 0

/-- The number as one of double precision. Digits of the whole part that do not
fit into the significand count as zeros; those of the fraction do not count. -/
def toReal? (l : Literal) : Option Double :=
  let fraction := l.fraction.getD []
  let (whole, dropped) := collect 0 l.whole
  let (significand, unread) := collect whole fraction
  let power := l.power + dropped - (fraction.length - unread : Nat)
  (Double.scaled? significand power).map fun units => ⟨l.negative, units⟩

/-- A number without fraction and exponent that is an integer of sixty-four
bits. Zero has no sign there. -/
def toInt? (l : Literal) : Option Int :=
  let n := digitsValue l.whole
  if l.fraction.isSome || l.exponent.isSome then none
  else if l.negative then
    if 0 < n ∧ n ≤ 2 ^ 63 then some (-n) else none
  else if n < 2 ^ 64 then some n else none

/-- The number itself. One too great for double precision is refused. -/
def toJson (l : Literal) : Except Fault Json :=
  match l.toInt? with
  | some n => .ok (.int n)
  | none =>
    match l.toReal? with
    | some x => .ok (.real x)
    | none => .error .malformed

end Literal

/-- The text behind a number. -/
def skipNumber (t : Text) : Except Fault Text :=
  match scanNumber t with
  | .ok (_, rest) => .ok rest
  | .error _ => .error .malformed

def readNumber (t : Text) : Except Fault Json :=
  match scanNumber t with
  | .ok (literal, _) => literal.toJson
  | .error [] => .error .unfinished
  | .error _ => .error .malformed

/-- The text behind a fixed word. -/
def skipWord : Text → Text → Except Fault Text
  | [], t => .ok t
  | _, [] => .error .unfinished
  | w :: word, c :: t => if c = w then skipWord word t else .error .malformed

end Weave.Json
