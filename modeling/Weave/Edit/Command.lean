import Weave.Expression.Read
import Weave.Text.Replacement

/-!
# Commands for editing lines

A command has the addresses of the lines that it is for and says what is done with them.
-/
namespace Weave.Edit

inductive Address where
  | line (n : Nat)
  /-- Every so many lines from one on. -/
  | every (first step : Nat)
  | last
  /-- The lines in which something is found; nothing stands for what was looked for
  last. -/
  | found (e : Option Expression)
deriving Repr, DecidableEq

/-- Where a range of lines ends. -/
inductive Limit where
  | address (a : Address)
  | further (lines : Nat)
  | multipleOf (n : Nat)
deriving Repr, DecidableEq

/-- Which lines a command is for. -/
structure Selection where
  first : Option Address := none
  limit : Option Limit := none
  negated : Bool := false
deriving Repr, DecidableEq

/-- How the cases of letters change in a replacement. -/
inductive Casing where
  | plain
  | upper
  | lower
  | upperNext
  | lowerNext
deriving Repr, DecidableEq

/-- A part of a replacement. -/
inductive Part where
  | text (t : Bytes)
  /-- What a group has matched, or with zero the whole. -/
  | group (n : Nat)
  | casing (c : Casing)
deriving Repr, DecidableEq

structure Substitution where
  expression : Option Expression
  replacement : List Part
  /-- The match that is replaced, and whether those behind it are as well. -/
  nth : Nat := 1
  all : Bool := false
  prints : Bool := false
  file : Option Bytes := none
deriving Repr, DecidableEq

inductive Act where
  /-- Opens a group, which is passed over up to a command by its number. -/
  | opening (closing : Nat)
  | closing
  | mark (label : Bytes)
  | append (t : Bytes)
  | insert (t : Bytes)
  | change (t : Bytes)
  | jump (label : Bytes)
  /-- Goes to a mark if something has been replaced, or if nothing has. -/
  | jumpIf (replaced : Bool) (label : Bytes)
  | delete
  | deleteFirst
  | takeHeld
  | takeHeldToo
  | hold
  | holdToo
  | exchange
  | list (width : Option Nat)
  | next
  | nextToo
  | show
  | showFirst
  | quit (silently : Bool) (status : Nat)
  | readFile (name : Bytes)
  | readLine (name : Bytes)
  | substitute (s : Substitution)
  | write (name : Bytes)
  | writeFirst (name : Bytes)
  | number
  | map (pairs : List (Char × Char))
  | fileName
  | empty
deriving Repr, DecidableEq

structure Command where
  selection : Selection
  act : Act
deriving Repr, DecidableEq

/-- Why a script cannot be read. -/
inductive Fault where
  | unknown (c : Char)
  | missing
  | openSubstitution
  | openMapping
  | openAddress
  | unknownFlag
  | doubleFlag (c : Char)
  | zeroth
  | surplus
  | unequal
  | noReference (n : Nat)
  | comma
  | openBrace
  | closedBrace
  | lineZero
  | relative
  | twoAddresses
  | addressed (c : Char)
  | noLabel
  | noText
  | noFile
  | expression (f : Expression.Fault)
  | noExpression
deriving Repr, DecidableEq

def Fault.message : Fault → Bytes
  | unknown c => "unknown command: `".toList ++ [c, '\'']
  | missing => "missing command".toList
  | openSubstitution => "unterminated `s' command".toList
  | openMapping => "unterminated `y' command".toList
  | openAddress => "unterminated address regex".toList
  | unknownFlag => "unknown option to `s'".toList
  | doubleFlag 'n' => "multiple number options to `s' command".toList
  | doubleFlag c => "multiple `".toList ++ c :: "' options to `s' command".toList
  | zeroth => "number option to `s' command may not be zero".toList
  | surplus => "extra characters after command".toList
  | unequal => "strings for `y' command are different lengths".toList
  | noReference n => "invalid reference \\".toList ++ Text.ofNat n ++ " on `s' command's RHS".toList
  | comma => "unexpected `,'".toList
  | openBrace => "unmatched `\x7b'".toList
  | closedBrace => "unexpected `\x7d'".toList
  | lineZero => "invalid usage of line address 0".toList
  | relative => "invalid usage of +N or ~N as first address".toList
  | twoAddresses => "command only uses one address".toList
  | addressed '#' => "comments don't accept any addresses".toList
  | addressed c => c :: " doesn't want any addresses".toList
  | noLabel => "\":\" lacks a label".toList
  | noText => "expected \\ after `a', `c' or `i'".toList
  | noFile => "missing filename in r/R/w/W commands".toList
  | expression f => f.message
  | noExpression => "no previous regular expression".toList

end Weave.Edit
