import Weave.Record.Stream

/-!
# Functions that are always there

The functions that a program for records does not define itself work on the values that
they are given. Those that take a place or an expression are not among them.
-/
namespace Weave.Record

open Job

/-- Something that can be given a value. -/
inductive Place where
  | name (n : Bytes)
  | field (n : Nat)
  | element (table key : Bytes)

def Place.get : Place → Step Value
  | name n => return (← MonadState.get).value n
  | field n => return (← MonadState.get).field n
  | element table key => modifyGet fun s => s.look table key

def Place.set (p : Place) (v : Value) : Step Unit :=
  modify fun s => match p with
    | name n => s.setValue n v
    | field n => s.setField n v
    | element table key => s.setElement table key v

/-- The key that some values make. -/
def keyOf (values : List Value) : Step Bytes := do
  let s ← get
  return Text.joinWith (s.globalText "SUBSEP") (values.map s.textOf)

/-- The expression that a text stands for. -/
def expressionOf (t : Bytes) : Step Expression := do
  match Expression.read .escaped t with
  | .ok e => return e
  | .error f =>
    throw (.fault true ("regular expression compile failed (".toList ++ f.shortMessage t))

/-- What is said where a format and its values do not go together. -/
def layoutMessage (function format : Bytes) : LayoutFault → Bytes
  | .lacksValue => "not enough arguments passed to ".toList ++ function ++ "(\"".toList ++ format
      ++ "\")".toList
  | .improper n => "improper conversion(number ".toList ++ Text.ofNat n ++ ") in ".toList
      ++ function ++ "(\"".toList ++ format ++ "\")".toList

/-- Lays values out by a format, which is the first of them. Where that goes wrong, what
is laid out already may be printed. -/
def laidOut (function : String) (prints : Bool) (values : List Value) : Step Bytes := do
  let s ← get
  let format := s.textOf (values.headD .nothing)
  match layOut s.conversion (format.length + 1) 1 format (values.drop 1) with
  | (t, none) => return t
  | (t, some fault) =>
    if prints then task (print t)
    throw (.fault true (layoutMessage function.toList format fault))

/-- The functions of numbers. -/
def ofNumber? (function : String) : Option (Float → Float) :=
  match function with
  | "sin" => some Float.sin
  | "cos" => some Float.cos
  | "exp" => some Float.exp
  | "log" => some Float.log
  | "sqrt" => some Float.sqrt
  | "int" => some fun x => match Quotient.ofFloat? x with
    | some (negative, q) =>
      let n := q.num / q.den
      if negative then -Float.ofNat n else Float.ofNat n
    | none => x
  | _ => none

/-- The next number below one by chance, of which nothing is promised. -/
def nextRandom : Step Float :=
  modifyGet fun s =>
    let next := (s.random * 1103515245 + 12345) % 2 ^ 31
    (Float.ofNat next / Float.ofNat (2 ^ 31), { s with random := next })

/-- The known functions that need no more than the values of their arguments. -/
def plainFunction (g : Setting) (function : String) (values : List Value) : Step Value := do
  let s ← get
  let text (n : Nat) : Bytes := s.textOf (values.getD n .nothing)
  let number (n : Nat) : Float := (values.getD n .nothing).toNumber
  match function with
  | "length" => return .ofNat (if values.isEmpty then s.record.length else (text 0).length)
  | "substr" =>
    let length := if values.length < 3 then none else some (Value.truncated (number 2))
    return .text (partOf (text 0) (Value.truncated (number 1)) length)
  | "index" =>
    match (Expression.literal (text 1)).find? none (text 0) with
    | some m => return .ofNat (m.before.length + 1)
    | none => return .ofNat 0
  | "sprintf" => return .text (← laidOut "sprintf" false values)
  | "atan2" => return .number (Float.atan2 (number 0) (number 1))
  | "rand" => return .number (← nextRandom)
  | "srand" =>
    let seed := if values.isEmpty then 0 else number 0
    set { s with seed := seed, random := (Value.truncated seed).natAbs }
    return .number s.seed
  | "tolower" => return .text ((text 0).map Char.toLower)
  | "toupper" => return .text ((text 0).map Char.toUpper)
  | "system" =>
    task flush
    return .ofNat (← task (runCommand g.launch (text 0) none false)).1
  | "close" => return .ofInt (← close g.launch (text 0))
  | "fflush" =>
    task flush
    return .ofNat 0
  | _ => match ofNumber? function with
    | some f => return .number (f (number 0))
    | none => return .nothing

/-- Names the tables that a function has for itself. -/
def ownTable (n : Nat) : Bytes := '\x00' :: Text.ofNat n

/-- Runs the inside of a loop, and tells whether the loop goes on. -/
def turn (inner : Step Unit) : Step Bool :=
  tryCatch (do
    inner
    return true) fun stop => match stop with
    | .break' => return false
    | .continue' => return true
    | stop => throw stop

end Weave.Record
