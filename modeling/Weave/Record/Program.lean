import Weave.Expression.Basic

/-!
# Programs of rules for records

A program is a list of rules and functions. A rule says what is done with a record, and
with which ones: all, those for which a condition holds, those from one to another one, or
what is done before the first and after the last one.
-/
namespace Weave.Record

/-- Operations on two numbers. -/
inductive Operation where
  | add
  | subtract
  | multiply
  | divide
  | remainder
  | power
deriving Repr, DecidableEq

inductive Comparison where
  | less
  | atMost
  | equal
  | unequal
  | greater
  | atLeast
deriving Repr, DecidableEq

/-- Where a line is read from. -/
inductive Source where
  /-- The records of the program itself. -/
  | records
  | file
  | command
deriving Repr, DecidableEq

inductive Term where
  | number (x : Float)
  | text (t : Bytes)
  /-- An expression for texts; standing alone it asks whether it is in the record. -/
  | expression (e : Expression)
  | name (n : Bytes)
  | field (index : Term)
  | element (table : Bytes) (key : List Term)
  /-- Gives a place a value, maybe combined with the one that it has. -/
  | give (place : Term) (by' : Option Operation) (value : Term)
  /-- Moves a place up or down by one; its value is that before or after the step. -/
  | step (place : Term) (up isBefore : Bool)
  | choice (condition a b : Term)
  | both (a b : Term)
  | either (a b : Term)
  | not (a : Term)
  | minus (a : Term)
  | plus (a : Term)
  | combined (op : Operation) (a b : Term)
  | compared (c : Comparison) (a b : Term)
  | joined (a b : Term)
  | fits (negated : Bool) (a pattern : Term)
  | isKey (key : List Term) (table : Bytes)
  | call (function : Bytes) (arguments : List Term)
  | known (function : Bytes) (arguments : List Term)
  /-- Reads a line from somewhere into a place or, without one, as a record. -/
  | readLine (source : Source) (origin : Option Term) (place : Option Term)
  /-- What stands in parentheses. -/
  | grouped (a : Term)

/-- Where something is printed to. -/
inductive Sink where
  | file
  | end'
  | command
deriving Repr, DecidableEq

inductive Statement where
  | nothing
  | term (t : Term)
  | print (values : List Term) (goal : Option (Sink × Term))
  | printf (values : List Term) (goal : Option (Sink × Term))
  | block (inner : List Statement)
  | choice (condition : Term) (a b : Statement)
  | whilst (condition : Term) (inner : Statement)
  | until' (inner : Statement) (condition : Term)
  | loop (first : Statement) (condition : Option Term) (step inner : Statement)
  | each (name : Bytes) (table : Bytes) (inner : Statement)
  | delete (table : Bytes) (key : Option (List Term))
  | next
  | nextFile
  | exit (status : Option Term)
  | return' (value : Option Term)
  | break'
  | continue'

/-- The records that a rule is for. -/
inductive Scope where
  | first
  | last
  | every
  | those (condition : Term)
  | range (first last : Term)

structure Rule where
  scope : Scope
  /-- Without a statement the record is printed. -/
  act : Option Statement

structure Function where
  name : Bytes
  parameters : List Bytes
  body : Statement

structure Program where
  rules : List Rule
  functions : List Function

/-- Whether something can be given a value. -/
def Term.isPlace : Term → Bool
  | name _ => true
  | field _ => true
  | element _ _ => true
  | _ => false

end Weave.Record
