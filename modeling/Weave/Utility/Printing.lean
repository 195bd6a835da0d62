import Weave.Number.Digits
import Weave.Utility.Escape
import Weave.Utility.Job

/-!
# Programs that print their words

Printing words as they are or by a format, and printing parts of a path.
-/
namespace Weave.Utility

open Job

/-- The letters of an option that printing words knows in the richer dialect. -/
def isEchoOption (word : Bytes) : Bool :=
  match word with
  | '-' :: c :: letters => (c :: letters).all fun l => l = 'n' || l = 'e' || l = 'E'
  | _ => false

/-- Prints words with blanks between them. -/
def echo (d : Dialect) : Utility := fun words => do
  let (options, words) := match d with
    | .extended => (words.takeWhile isEchoOption, words.dropWhile isEchoOption)
    | .standard =>
      if words.head? = some ['-', 'n'] then ([['-', 'n']], words.drop 1) else ([], words)
  let letters := options.flatten.filter fun l => l = 'e' || l = 'E'
  let line := Text.joinWith [' '] words
  let reads := d = .standard || letters.getLast? = some 'e'
  let (text, ended) := if reads then Escape.expand d .word line else (line, false)
  print (if ended || options.any (·.contains 'n') then text else text ++ ['\n'])

/-- A place in a format for one word. -/
structure Directive where
  flags : Bytes
  /-- No number stands for the next word. -/
  width : Option Nat
  precision : Option (Option Nat)
  conversion : Char
deriving Repr, DecidableEq

/-- Digits, or a star for the next word. -/
def readCount (t : Bytes) : Option Nat × Bytes :=
  match t with
  | '*' :: rest => (none, rest)
  | t => (some (Escape.numberIn 10 (t.takeWhile Char.isDigit)), t.dropWhile Char.isDigit)

/-- The directive behind a percent sign, and what is behind it. -/
def readDirective (t : Bytes) : Option (Directive × Bytes) :=
  let isFlag (c : Char) : Bool := "-+ #0".toList.contains c
  let flags := t.takeWhile isFlag
  let (width, t) := readCount (t.dropWhile isFlag)
  let (precision, t) := match t with
    | '.' :: rest =>
      let (count, rest) := readCount rest
      (some count, rest)
    | t => (none, t)
  match t with
  | [] => none
  | c :: rest => some (⟨flags, width, precision, c⟩, rest)

/-- A number as a word gives it: its value and whether all of the word is read. -/
def readInteger (word : Bytes) : Int × Bool :=
  match word with
  | '\'' :: c :: _ => (c.toNat, true)
  | '"' :: c :: _ => (c.toNat, true)
  | word =>
    let word := word.dropWhile fun c => c = ' ' || c = '\t' || c = '\n'
    let (negative, size) := match word with
      | '-' :: rest => (true, rest)
      | '+' :: rest => (false, rest)
      | rest => (false, rest)
    let (base, digits) := match size with
      | '0' :: x :: h :: rest =>
        if (x = 'x' || x = 'X') && Escape.digitOf h < 16 then (16, h :: rest)
        else (8, '0' :: x :: h :: rest)
      | '0' :: rest => (8, '0' :: rest)
      | rest => (10, rest)
    let used := digits.takeWhile fun c => Escape.digitOf c < base
    let value : Int := Escape.numberIn base used
    (if negative then -value else value, used != [] && used.length = digits.length)

/-- Fills up with blanks to a width. -/
def pad (flags : Bytes) (width : Nat) (t : Bytes) : Bytes :=
  let gap := List.replicate (width - t.length) ' '
  if flags.contains '-' then t ++ gap else gap ++ t

/-- Digits with their sign, filled up to a width. -/
def padNumber (flags : Bytes) (width : Nat) (precision : Option Nat) (sign digits : Bytes) :
    Bytes :=
  let digits := match precision with
    | some p => List.replicate (p - digits.length) '0' ++ digits
    | none => digits
  if flags.contains '0' && !flags.contains '-' && precision.isNone then
    sign ++ List.replicate (width - sign.length - digits.length) '0' ++ digits
  else pad flags width (sign ++ digits)

def upper (t : Bytes) : Bytes :=
  t.map Char.toUpper

/-- The sign and the digits of a number by a conversion. -/
def digitsFor (flags : Bytes) (conversion : Char) (n : Int) : Bytes × Bytes :=
  let wrapped := (n % 2 ^ 64).toNat
  if conversion = 'd' || conversion = 'i' then
    let sign := if n < 0 then ['-'] else if flags.contains '+' then ['+']
      else if flags.contains ' ' then [' '] else []
    (sign, Text.ofNat n.natAbs)
  else if conversion = 'o' then
    ([], (if flags.contains '#' then ['0'] else []) ++ Nat.toDigits 8 wrapped)
  else if conversion = 'x' then
    (if flags.contains '#' then ['0', 'x'] else [], Nat.toDigits 16 wrapped)
  else if conversion = 'X' then
    (if flags.contains '#' then ['0', 'X'] else [], upper (Nat.toDigits 16 wrapped))
  else ([], Text.ofNat wrapped)

/-- What the number of a directive is: its own, or the next word's. -/
def countFor (own : Option Nat) (words : List Bytes) : Int × List Bytes :=
  match own with
  | some n => (n, words)
  | none => ((readInteger (words.headD [])).1, words.drop 1)

/-- A number with a fraction as a word gives it: its sign, its value, or a name in place of
it, and whether all of the word is read. -/
structure Real where
  negative : Bool
  value : Quotient ⊕ Bytes
  isComplete : Bool

def readReal (bits : Nat) (word : Bytes) : Real :=
  match word with
  | '\'' :: c :: _ => ⟨false, .inl ⟨c.toNat, 1⟩, true⟩
  | '"' :: c :: _ => ⟨false, .inl ⟨c.toNat, 1⟩, true⟩
  | word =>
    let word := word.dropWhile fun c => c = ' ' || c = '\t' || c = '\n'
    let (negative, size) := Decimal.readMinus word
    let lower := size.map Char.toLower
    if lower = "inf".toList || lower = "infinity".toList then ⟨negative, .inr "inf".toList, true⟩
    else if lower = "nan".toList then ⟨negative, .inr "nan".toList, true⟩
    else if Text.beginsWith "0x".toList lower then
      let (n, complete) := readInteger word
      ⟨negative, .inl ⟨n.natAbs, 1⟩, complete⟩
    else match Decimal.read? word with
      | some (d, rest) => ⟨negative, .inl (d.quotient.roundTo bits), rest = []⟩
      | none => ⟨negative, .inl ⟨0, 1⟩, false⟩

/-- The sign and the digits of a number with a fraction by a conversion. -/
def realFor (flags : Bytes) (conversion : Char) (precision : Option Nat) (r : Real) :
    Bytes × Bytes :=
  let sign := if r.negative then ['-'] else if flags.contains '+' then ['+']
    else if flags.contains ' ' then [' '] else []
  match r.value with
  | .inr name => (sign, if conversion.isUpper then upper name else name)
  | .inl q => (sign, q.byLetter conversion (precision.getD 6) (flags.contains '#'))

/-- How a printing program is: the dialect of its shell, or one of the system. -/
structure Printer where
  dialect : Dialect
  /-- Whether it is a program of the system and not of a shell. -/
  isSystem : Bool := false
deriving Repr, DecidableEq

/-- How many binary digits its numbers have. -/
def Printer.bits (p : Printer) : Nat :=
  match p.dialect with
  | .standard => 53
  | .extended => 64

/-- What is said about a word that is no number, or not only one. -/
def Printer.faultText (p : Printer) (word : Bytes) (isNothing : Bool) : Bytes :=
  if p.isSystem then
    shown word ++ (if isNothing then ": expected a numeric value"
      else ": value not completely converted").toList
  else match p.dialect with
    | .extended => word ++ ": invalid number".toList
    | .standard =>
      let what := if isNothing then ": expected numeric value" else ": not completely converted"
      word ++ what.toList

/-- Prints by a format once. The answer is the words left over and whether
printing is over. -/
def formatOnce (p : Printer) :
    Nat → Bytes → List Bytes → Task (List Bytes × Bool)
  | fuel + 1, '%' :: '%' :: rest, words => do
    print ['%']
    formatOnce p fuel rest words
  | fuel + 1, '%' :: rest, words => do
    match readDirective rest with
    | none =>
      complain (if p.isSystem then "%: invalid conversion specification".toList
        else "missing format character".toList)
      return ([], true)
    | some (directive, rest) =>
      let (width, words) := countFor directive.width words
      let (precision, words) := match directive.precision with
        | some own =>
          let (n, words) := countFor own words
          (if n < 0 then none else some n.toNat, words)
        | none => (none, words)
      let flags := if width < 0 then '-' :: directive.flags else directive.flags
      let word := words.headD []
      let c := directive.conversion
      if c = 's' then
        print (pad flags width.natAbs ((precision.map word.take).getD word))
        formatOnce p fuel rest (words.drop 1)
      else if c = 'c' then
        print (pad flags width.natAbs (if words = [] then [] else [word.headD '\x00']))
        formatOnce p fuel rest (words.drop 1)
      else if c = 'b' then
        let (text, ended) := Escape.expand p.dialect .word word
        print (pad flags width.natAbs ((precision.map text.take).getD text))
        if ended then return ([], true)
        else formatOnce p fuel rest (words.drop 1)
      else if c = 'q' && p.dialect = .extended then
        let shown := if p.isSystem then Naming.bare word else Naming.escaped word
        print (pad flags width.natAbs shown)
        formatOnce p fuel rest (words.drop 1)
      else if "diouxX".toList.contains c then
        let (n, complete) := readInteger word
        if words != [] && !complete && (word != [] || p.isSystem) then
          complain (p.faultText word (!word.any Char.isDigit))
        let (sign, digits) := digitsFor flags c n
        print (padNumber flags width.natAbs precision sign digits)
        formatOnce p fuel rest (words.drop 1)
      else if "fFeEgGaA".toList.contains c then
        let r := readReal p.bits word
        if words != [] && !r.isComplete && (word != [] || p.isSystem) then
          complain (p.faultText word (!word.any Char.isDigit))
        let (sign, digits) := realFor flags c precision r
        print (padNumber flags width.natAbs none sign digits)
        formatOnce p fuel rest (words.drop 1)
      else
        complain (if p.isSystem then
            "%".toList ++ c :: ": invalid conversion specification".toList
          else if p.dialect = .extended then
            "\u0060".toList ++ c :: "': invalid format character".toList
          else '%' :: c :: ": invalid directive".toList)
        if p.dialect = .standard then leave 2
        return ([], true)
  | fuel + 1, '\\' :: rest, words => do
    match Escape.read p.dialect .format rest with
    | none => return ([], true)
    | some (meant, rest) =>
      print meant
      formatOnce p fuel rest words
  | fuel + 1, c :: rest, words => do
    print [c]
    formatOnce p fuel rest words
  | _, _, words => return (words, false)

/-- Prints by a format until the words are used up. A format that uses none is
printed once. -/
def formatAll (p : Printer) (format : Bytes) : Nat → List Bytes → Task (List Bytes)
  | fuel + 1, words => do
    let (left, isOver) ← formatOnce p format.length format words
    if isOver then return []
    else if left = [] || left.length = words.length then return left
    else formatAll p format fuel left
  | 0, words => return words

/-- Prints words by a format. A program of the system says which words the format has no
use for. -/
def printf (p : Printer) : Utility := fun words => do
  match (if words.head? = some ['-', '-'] then words.drop 1 else words) with
  | [] =>
    if p.isSystem then lacksOperand
    else if p.dialect = .standard then
      complain "usage: printf format [arg ...]".toList
      leave 2
    else
      complain "usage: printf [-v var] format [arguments]".toList
      leave 2
  | format :: words =>
    let left ← formatAll p format (words.length + 1) words
    if p.isSystem && left != [] then
      let first := shown (left.headD [])
      warn ((← get).name ++ ": warning: ignoring excess arguments, starting with ".toList ++ first)

/-- The path without the slashes at its end. -/
def trimSlashes (p : Bytes) : Bytes :=
  (p.reverse.dropWhile (· = '/')).reverse

/-- The last part of a path as it is written, without a given end. -/
def lastPart (p ending : Bytes) : Bytes :=
  match trimSlashes p with
  | [] => if p = [] then [] else ['/']
  | p =>
    let name := (p.reverse.takeWhile (· ≠ '/')).reverse
    if Text.endsWith ending name && name.length > ending.length then
      name.take (name.length - ending.length)
    else name

/-- What stands before the last part of a path. -/
def frontPart (p : Bytes) : Bytes :=
  match trimSlashes p with
  | [] => if p = [] then ['.'] else ['/']
  | p' =>
    match (p'.reverse.dropWhile (· ≠ '/')).reverse with
    | [] => ['.']
    | front =>
      match trimSlashes front with
      | [] => ['/']
      | front => front

def basename : Utility := fun words =>
  let o : Options :=
    { flags := "az", valued := "s", names := [("multiple", 'a'), ("suffix", 's')]
      anywhere := false }
  withWords o words fun w => do
    let ending := (w.value? 's').getD []
    match w.rest with
    | [] => lacksOperand
    | [name] => printLine (lastPart name ending)
    | name :: second :: more =>
      if w.has "a" || (w.value? 's').isSome then
        for name in w.rest do printLine (lastPart name ending)
      else if more = [] then printLine (lastPart name second)
      else hasExtra (more.headD [])

def dirname : Utility := fun words =>
  withWords { flags := "z" } words fun w => do
    if w.rest = [] then lacksOperand
    for name in w.rest do printLine (frontPart name)

example : [lastPart "a/b.jl/".toList ".jl".toList, frontPart "a//b/".toList,
    frontPart "/a".toList] = ["b".toList, "a".toList, "/".toList] := by decide

end Weave.Utility
