import Weave.Utility.Printing

/-!
# Conditions

The program that tests a condition given by words: on a file, on a text, on two
texts or two numbers, and on conditions joined by words. Its status is zero if
the condition holds, one if it does not, and two if the words make no sense.
-/
namespace Weave.Utility

open Job

namespace Condition

/-- What makes no sense about the words. -/
inductive Fault where
  | notNumber (word : Bytes)
  /-- The condition ends at the first of some words, but there are more. -/
  | goesOn (words : List Bytes)
  | lacksOperand (operator : Bytes)
  | lacksClosing
deriving Repr, DecidableEq

/-- What a word can be. -/
inductive Kind where
  | unary (flag : Char)
  | binary
  | or
  | and
  | not
  | opening
  | closing
  | operand
deriving Repr, DecidableEq

def fileFlags : List Char := "bcdefghkLnprsSuwxzOGt".toList

def comparisons : List String :=
  ["=", "!=", "<", ">", "-eq", "-ne", "-lt", "-le", "-gt", "-ge", "-nt", "-ot", "-ef"]

def isBinary (d : Dialect) (word : Bytes) : Bool :=
  comparisons.any (fun op => op.toList = word) || (d = .extended && word = "==".toList)

/-- What the first of some words is. A flag that has nothing behind it, or that a
comparison follows, is a text like others, and so is a parenthesis at the end. -/
def kindOf (d : Dialect) (words : List Bytes) : Option Kind :=
  match words with
  | [] => none
  | word :: rest =>
    let plainFlag := match rest with
      | [] => true
      | [_] => false
      | next :: _ => isBinary d next
    some <| if isBinary d word then .binary
      else match word with
        | ['!'] => .not
        | ['('] => if rest = [] then .operand else .opening
        | [')'] => .closing
        | ['-', 'a'] => .and
        | ['-', 'o'] => .or
        | ['-', c] => if fileFlags.contains c && !plainFlag then .unary c else .operand
        | _ => .operand

def unary (files : FileTree) (flag : Char) (word : Bytes) : Bool :=
  let through := flag != 'h' && flag != 'L'
  let path := Bytes.toName word
  let found := (if through then files.find path else files.findSelf path).toOption.map Prod.snd
  match flag, found with
  | 'n', _ => word != []
  | 'z', _ => word = []
  | 'd', some e => e.isDirectory
  | 'f', some e => e.isFile
  | 'c', some e => e.isDevice
  | 's', some e => e.size != 0
  | 'x', some e => e.isRunnable
  | 'e', some _ => true
  | 'r', some _ => true
  | 'w', some _ => true
  | 'O', some _ => true
  | 'G', some _ => true
  | 'h', some e => e.isLink
  | 'L', some e => e.isLink
  | 'u', some e => e.mode &&& 0o4000 != 0
  | 'g', some e => e.mode &&& 0o2000 != 0
  | 'k', some e => e.mode &&& 0o1000 != 0
  | _, _ => false

/-- A number, of which nothing but space around it is ignored. -/
def number (word : Bytes) : Except Fault Int :=
  let isGap (c : Char) : Bool := c = ' ' || c = '\t' || c = '\n'
  let inner := ((word.dropWhile isGap).reverse.dropWhile isGap).reverse
  let (negative, digits) := match inner with
    | '-' :: rest => (true, rest)
    | '+' :: rest => (false, rest)
    | rest => (false, rest)
  let n : Int := Escape.numberIn 10 digits
  if digits = [] || !digits.all Char.isDigit || n ≥ 2 ^ 63 then .error (.notNumber word)
  else .ok (if negative then -n else n)

/-- Whether the first of two files is newer. In the richer dialect one that is there is
newer than one that is missing. -/
def isNewer (d : Dialect) (files : FileTree) (a b : Bytes) : Bool :=
  let time (w : Bytes) : Option Int :=
    (files.find (Bytes.toName w)).toOption.map fun f => f.2.time
  match time a, time b with
  | some s, some t => t < s
  | some _, none => d = .extended
  | none, _ => false

def binary (d : Dialect) (files : FileTree) (a op b : Bytes) : Except Fault Bool := do
  match String.ofList op with
  | "=" => return a = b
  | "==" => return a = b
  | "!=" => return a != b
  | "<" => return a < b
  | ">" => return b < a
  | "-eq" => return (← number a) = (← number b)
  | "-ne" => return (← number a) != (← number b)
  | "-lt" => return (← number a) < (← number b)
  | "-le" => return (← number a) ≤ (← number b)
  | "-gt" => return (← number a) > (← number b)
  | "-ge" => return (← number a) ≥ (← number b)
  | "-ef" =>
    match files.find (Bytes.toName a), files.find (Bytes.toName b) with
    | .ok (p, e), .ok (q, f) => return p = q || FileTree.isSame e f
    | _, _ => return false
  | "-nt" => return isNewer d files a b
  | "-ot" => return isNewer d files b a
  | _ => return false

/-- The value of a condition, and the words from its last one on. -/
abbrev Found := Bool × List Bytes

mutual

/-- Conditions joined by or. The words begin with the current one, and what it is
is given. -/
def any (d : Dialect) (files : FileTree) : Nat → Option Kind → List Bytes → Except Fault Found
  | 0, _, words => .ok (false, words)
  | fuel + 1, kind, words => do
    let (first, words) ← all d files fuel kind words
    if kindOf d (words.drop 1) = some .or then
      let words := words.drop 2
      let (second, words) ← any d files fuel (kindOf d words) words
      return (first || second, words)
    else return (first, words)

/-- Conditions joined by and. -/
def all (d : Dialect) (files : FileTree) : Nat → Option Kind → List Bytes → Except Fault Found
  | 0, _, words => .ok (false, words)
  | fuel + 1, kind, words => do
    let (first, words) ← one d files fuel kind words
    if kindOf d (words.drop 1) = some .and then
      let words := words.drop 2
      let (second, words) ← all d files fuel (kindOf d words) words
      return (first && second, words)
    else return (first, words)

/-- One condition, or the opposite of one. -/
def one (d : Dialect) (files : FileTree) : Nat → Option Kind → List Bytes → Except Fault Found
  | 0, _, words => .ok (false, words)
  | fuel + 1, kind, words => do
    let next := words.drop 1
    match kind with
    | none => return (false, words)
    | some .not =>
      let (value, words) ← one d files fuel (kindOf d next) (if next = [] then words else next)
      return (!value, words)
    | some .opening =>
      if kindOf d next = some .closing then return (false, next)
      else
        let (value, words) ← any d files fuel (kindOf d next) next
        if kindOf d (words.drop 1) = some .closing then return (value, words.drop 1)
        else throw .lacksClosing
    | some (.unary flag) =>
      match next with
      | [] => throw (.lacksOperand ['-', flag])
      | word :: _ => return (unary files flag word, next)
    | some _ =>
      if kindOf d next = some .binary then
        match words with
        | [_, op] => throw (.lacksOperand op)
        | a :: op :: b :: rest => return (← binary d files a op b, b :: rest)
        | words => return (false, words)
      else return (words.head? != some [], words)

end

/-- Whether the words, of which the current one is of a kind, are a condition that
holds. -/
def holdsFrom (d : Dialect) (files : FileTree) (kind : Option Kind) (words : List Bytes) :
    Except Fault Bool := do
  let (value, last) ← any d files (4 * words.length + 4) kind words
  if last.length > 1 then throw (.goesOn last) else return value

/-- Whether a condition holds. Of three words the one in the middle comes first if
it compares. -/
def holds (d : Dialect) (files : FileTree) (words : List Bytes) : Except Fault Bool :=
  let inner := words.drop 1
  let short := words.length = 3 || words.length = 4
  if words = [] then .ok false
  else if words.length = 3 && kindOf d inner = some .binary then
    holdsFrom d files (some .operand) words
  else if short && words.head? = some ['('] && words.getLast? = some [')'] then
    holdsFrom d files (kindOf d inner.dropLast) inner.dropLast
  else
    match words with
    | ['!'] :: rest =>
      if short then (holds d files rest).map not else holdsFrom d files (kindOf d words) words
    | words => holdsFrom d files (kindOf d words) words

/-- How a shell that keeps to the standard says what makes no sense. -/
def standardText (_ : List Bytes) : Fault → Bytes
  | .notNumber word => "Illegal number: ".toList ++ word
  | .goesOn words => words.headD [] ++ ": unexpected operator".toList
  | .lacksOperand operator => operator ++ ": argument expected".toList
  | .lacksClosing => "closing paren expected".toList

/-- How a shell that adds to the standard says it. -/
def extendedText (words : List Bytes) : Fault → Bytes
  | .notNumber word => word ++ ": integer expression expected".toList
  | .lacksClosing => "`)' expected".toList
  | _ =>
    match words with
    | [a, _] => a ++ ": unary operator expected".toList
    | [_, b, _] => b ++ ": binary operator expected".toList
    | _ => "too many arguments".toList

/-- How the program of the system says it. -/
def systemText (words : List Bytes) : Fault → Bytes
  | .notNumber word => "invalid integer ".toList ++ shown word
  | .lacksClosing => "')' expected".toList
  | .lacksOperand operator => "missing argument after ".toList ++ shown operator
  | .goesOn rest =>
    match words, rest with
    | [_, b], _ => "missing argument after ".toList ++ shown b
    | [_, b, _], _ => shown b ++ ": binary operator expected".toList
    | _, _ :: next :: _ => "extra argument ".toList ++ shown next
    | _, _ => "too many arguments".toList

end Condition

/-- How a fault of a condition is said, given its words. -/
abbrev Condition.Wording := List Bytes → Condition.Fault → Bytes

def test (d : Dialect) (wording : Condition.Wording) : Utility := fun words => do
  match Condition.holds d (← get).files words with
  | .ok value => leave (if value then 0 else 1)
  | .error f =>
    complain (wording words f)
    leave 2

/-- The same condition between brackets. -/
def bracket (d : Dialect) (wording : Condition.Wording) (missing : String) : Utility :=
  fun words => do
    if words.getLast? = some [']'] then test d wording words.dropLast
    else
      complain missing.toList
      leave 2

end Weave.Utility
