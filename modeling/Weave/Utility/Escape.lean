import Weave.Text.Bytes

/-!
# Escapes in what is printed

The programs that print their words read escapes in them: one letter for a
control character, up to three octal digits for a byte, and in some places an
end of all output. Programs differ in which escapes they know, so a dialect is
given along.
-/
namespace Weave

/-- One shell keeps to the standard, the other adds to it. -/
inductive Dialect where
  | standard
  | extended
deriving Repr, DecidableEq

namespace Escape

def letters : List (Char × Char) :=
  [('a', '\x07'), ('b', '\x08'), ('e', '\x1b'), ('f', '\x0c'), ('n', '\n'), ('r', '\r'),
   ('t', '\t'), ('v', '\x0b'), ('\\', '\\')]

def isOctal (c : Char) : Bool :=
  '0' ≤ c && c ≤ '7'

def digitOf (c : Char) : Nat :=
  if c.isDigit then c.toNat - '0'.toNat
  else if 'a' ≤ c && c ≤ 'z' then c.toNat - 'a'.toNat + 10
  else if 'A' ≤ c && c ≤ 'Z' then c.toNat - 'A'.toNat + 10
  else 99

def numberIn (base : Nat) (digits : Bytes) : Nat :=
  digits.foldl (fun n c => base * n + digitOf c) 0

/-- The byte of a number. -/
def byte (n : Nat) : Char :=
  Char.ofNat (n % 256)

/-- Where a text with escapes stands. -/
inductive Place where
  /-- A word that is printed: more octal digits, and `\c` ends the output. -/
  | word
  /-- A format. -/
  | format
deriving Repr, DecidableEq

/-- What the escape behind a backslash stands for and what is behind it; the
text alone is the end of all output. -/
def read (d : Dialect) (place : Place) : Bytes → Option (Bytes × Bytes)
  | [] => some (['\\'], [])
  | c :: rest =>
    let octal := fun (digits : Bytes) =>
      some ([byte (numberIn 8 digits)], (c :: rest).drop digits.length)
    if c = 'c' && place = .word then none
    else if c = '0' && place = .word then
      let digits := (rest.take 3).takeWhile isOctal
      some ([byte (numberIn 8 digits)], rest.drop digits.length)
    else if isOctal c then
      if place = .word && d = .extended then some (['\\', c], rest)
      else octal (((c :: rest).take 3).takeWhile isOctal)
    else if c = 'x' && d = .extended && (rest.head?.any fun h => digitOf h < 16) then
      let digits := (rest.take 2).takeWhile fun h => digitOf h < 16
      some ([byte (numberIn 16 digits)], rest.drop digits.length)
    else if c = '"' && d = .extended && place = .format then some (['"'], rest)
    else
      match letters.lookup c with
      | some meant => some ([meant], rest)
      | none => some (['\\', c], rest)

/-- A text with its escapes read, and whether it ends all output. The number
bounds how many characters are read. -/
def expandFrom (d : Dialect) (place : Place) : Nat → Bytes → Bytes × Bool
  | fuel + 1, '\\' :: rest =>
    match read d place rest with
    | none => ([], true)
    | some (meant, rest) =>
      let (text, ended) := expandFrom d place fuel rest
      (meant ++ text, ended)
  | fuel + 1, c :: rest =>
    let (text, ended) := expandFrom d place fuel rest
    (c :: text, ended)
  | _, _ => ([], false)

def expand (d : Dialect) (place : Place) (t : Bytes) : Bytes × Bool :=
  expandFrom d place t.length t

example : expand .standard .word "a\\tb\\0101\\cx".toList = ("a\tbA".toList, true) := by decide

end Escape

end Weave

/-!
## Amounts

A number of bytes may be given with a letter for the thousands in it: `K` and `KiB` stand
for 1024 bytes and `kB` for 1000, and so on up.
-/
namespace Weave.Amount

/-- The number of a text that consists of digits. -/
def plain? (t : Bytes) : Option Nat :=
  if t != [] && t.all Char.isDigit then some (Escape.numberIn 10 t) else none

/-- The letters for powers, least first. -/
def powers : List Char := "KMGTPEZYRQ".toList

/-- What a suffix stands for. -/
def factor? (suffix : Bytes) : Option Nat :=
  match suffix with
  | [] => some 1
  | ['b'] => some 512
  | ['c'] => some 1
  | ['w'] => some 2
  | c :: rest =>
    match powers.findIdx? (· = (if c = 'k' || c = 'm' || c = 'g' then c.toUpper else c)) with
    | none => none
    | some i =>
      match String.ofList rest with
      | "" => some (1024 ^ (i + 1))
      | "iB" => some (1024 ^ (i + 1))
      | "B" => some (1000 ^ (i + 1))
      | _ => none

/-- The amount that a text gives. -/
def read? (t : Bytes) : Option Nat :=
  let digits := t.takeWhile Char.isDigit
  let suffix := t.drop digits.length
  if digits = [] then
    if suffix.head?.any Char.isAlpha && suffix != ['b'] && suffix != ['c'] && suffix != ['w'] then
      factor? suffix
    else none
  else (factor? suffix).map (Escape.numberIn 10 digits * ·)

example : ["12", "2K", "1kB", "3MiB", "2b", "x", "1Kx"].map (fun t => read? t.toList) =
    [some 12, some 2048, some 1000, some 3145728, some 1024, none, none] := by decide

end Weave.Amount
