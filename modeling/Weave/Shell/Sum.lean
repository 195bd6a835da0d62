import Weave.Shell.Word
import Weave.Utility.Escape

/-!
# Sums in a shell

The value of an expression on whole numbers of sixty-four bits: numbers in three
notations, variables, and operators with the usual precedence, of which the ones
that compare and combine conditions give one or zero. Variables may be set on the
way. What a condition leaves out is read all the same, but has no value and no
effect.
-/
namespace Weave.Shell.Sum

inductive Fault where
  | lacksValue
  | lacksColon
  | lacksClosing
  /-- There is more behind the expression. -/
  | goesOn
  | divisionByZero
  | notNumber (t : Bytes)
deriving Repr, DecidableEq

inductive Sign where
  | number (n : Int)
  | name (t : Bytes)
  | operator (t : Bytes)
  /-- A character that is no part of any expression. -/
  | unknown
deriving Repr, DecidableEq

/-- The operators that set a variable, by what they do with its value first. -/
def assignments : List (Bytes × Bytes) :=
  [("<<=", "<<"), (">>=", ">>"), ("*=", "*"), ("/=", "/"), ("%=", "%"), ("+=", "+"), ("-=", "-"),
   ("&=", "&"), ("^=", "^"), ("|=", "|"), ("=", "")].map fun p => (p.1.toList, p.2.toList)

/-- The operators, where one begins another the longer one first. -/
def operators : List Bytes :=
  ["<<=", ">>="].map String.toList
    ++ ["<<", ">>", "<=", ">=", "==", "!=", "&&", "||"].map String.toList
    ++ assignments.map Prod.fst
    ++ ["<", ">", "+", "-", "*", "/", "%", "(", ")", "?", ":", "!", "~", "&", "^", "|"].map
      String.toList

/-- The greatest number. -/
def greatest : Nat := 2 ^ 63 - 1

/-- The digits at the front of a text that begins with one, their base, and what
is behind them: decimal, or with a zero before them octal, or behind `0x`
hexadecimal. -/
def digitsOf (t : Bytes) : Nat × Bytes × Bytes :=
  let split (base : Nat) (t : Bytes) : Nat × Bytes × Bytes :=
    let isDigit (c : Char) : Bool := Escape.digitOf c < base
    (base, t.takeWhile isDigit, t.dropWhile isDigit)
  match t with
  | '0' :: x :: h :: rest =>
    if (x = 'x' || x = 'X') && Escape.digitOf h < 16 then split 16 (h :: rest) else split 8 t
  | '0' :: _ => split 8 t
  | t => split 10 t

/-- A number that a text is, of which nothing but space around it is ignored. -/
def numberOf? (t : Bytes) : Option Int :=
  let isGap (c : Char) : Bool := c = ' ' || (9 ≤ c.toNat && c.toNat ≤ 13)
  let (negative, t) := match t.dropWhile isGap with
    | '-' :: rest => (true, rest)
    | '+' :: rest => (false, rest)
    | rest => (false, rest)
  let (base, digits, rest) := digitsOf t
  let n := Escape.numberIn base digits
  if digits = [] || !rest.all isGap || n > greatest + (if negative then 1 else 0) then none
  else some (if negative then -n else n)

/-- The signs of an expression; the number bounds how many there are. -/
def signs : Nat → Bytes → List Sign
  | 0, _ => []
  | fuel + 1, t =>
    match t.dropWhile fun c => c = ' ' || c = '\t' || c = '\n' with
    | [] => []
    | c :: rest =>
      if Word.isNameStart c then
        let name := (c :: rest).takeWhile Word.isNameChar
        .name name :: signs fuel ((c :: rest).drop name.length)
      else if c.isDigit then
        let (base, digits, rest) := digitsOf (c :: rest)
        .number (min (Escape.numberIn base digits) greatest) :: signs fuel rest
      else
        match operators.find? (Text.beginsWith · (c :: rest)) with
        | some mark => .operator mark :: signs fuel ((c :: rest).drop mark.length)
        | none => .unknown :: signs fuel rest

/-- How tightly an operator binds between two values. -/
def precedence (operator : Bytes) : Option Nat :=
  [("||", 1), ("&&", 2), ("|", 3), ("^", 4), ("&", 5), ("==", 6), ("!=", 6), ("<", 7), (">", 7),
   ("<=", 7), (">=", 7), ("<<", 8), (">>", 8), ("+", 9), ("-", 9), ("*", 10), ("/", 10),
   ("%", 10)].lookup (String.ofList operator)

/-- A number within sixty-four bits. -/
def wrap (n : Int) : Int := n.bmod (2 ^ 64)

def truth (b : Bool) : Int := if b then 1 else 0

/-- The number that the sixty-four bits of a number are. -/
def bits (n : Int) : Nat := (n % 2 ^ 64).toNat

def apply (operator : Bytes) (a b : Int) : Except Fault Int :=
  match String.ofList operator with
  | "+" => .ok (wrap (a + b))
  | "-" => .ok (wrap (a - b))
  | "*" => .ok (wrap (a * b))
  | "/" => if b = 0 then .error .divisionByZero else .ok (wrap (a.tdiv b))
  | "%" => if b = 0 then .error .divisionByZero else .ok (wrap (a.tmod b))
  | "<" => .ok (truth (a < b))
  | ">" => .ok (truth (b < a))
  | "<=" => .ok (truth (a ≤ b))
  | ">=" => .ok (truth (b ≤ a))
  | "==" => .ok (truth (a = b))
  | "!=" => .ok (truth (a ≠ b))
  | "&&" => .ok (truth (a ≠ 0 && b ≠ 0))
  | "||" => .ok (truth (a ≠ 0 || b ≠ 0))
  | "&" => .ok (wrap (bits a &&& bits b : Nat))
  | "|" => .ok (wrap (bits a ||| bits b : Nat))
  | "^" => .ok (wrap (bits a ^^^ bits b : Nat))
  | "<<" => .ok (wrap (a * 2 ^ (bits b % 64)))
  | ">>" => .ok (a / 2 ^ (bits b % 64))
  | _ => .ok b

/-- The variables and what has been given to them. -/
structure Variables where
  value : Bytes → Except Fault Int
  given : List (Bytes × Int) := []

/-- A step on the signs that are still to be read. -/
abbrev Reader := StateT (List Sign × Variables) (Except Fault)

namespace Reader

def signs : Reader (List Sign) := return (← get).1

def goOnWith (ss : List Sign) : Reader Unit :=
  modify fun s => (ss, s.2)

def valueOf (name : Bytes) : Reader Int := do
  let v := (← get).2
  match v.given.lookup name with
  | some n => return n
  | none => liftM (v.value name)

def give (name : Bytes) (n : Int) : Reader Unit :=
  modify fun s => (s.1, { s.2 with given := (name, n) :: s.2.given })

end Reader

/-- The value of an operator, which is of no interest where it is left out. -/
def applyUnless (idle : Bool) (operator : Bytes) (a b : Int) : Reader Int :=
  if idle then return b else liftM (apply operator a b)

/-- Whether the second value of an operator is left out. -/
def leavesOut (operator : Bytes) (a : Int) : Bool :=
  (operator = "&&".toList && a = 0) || (operator = "||".toList && a ≠ 0)

mutual

/-- An expression that may set a variable. -/
def readSetting : Nat → Bool → Reader Int
  | 0, _ => throw .lacksValue
  | fuel + 1, idle => do
    match ← Reader.signs with
    | .name name :: .operator mark :: rest =>
      match assignments.lookup mark with
      | some operator =>
        Reader.goOnWith rest
        let n ← readSetting fuel idle
        if idle then return n
        let n ← if operator = [] then pure n
          else applyUnless false operator (← Reader.valueOf name) n
        Reader.give name n
        return n
      | none => readChoice fuel idle
    | _ => readChoice fuel idle

/-- One of two values by a condition. -/
def readChoice : Nat → Bool → Reader Int
  | 0, _ => throw .lacksValue
  | fuel + 1, idle => do
    let condition ← readFrom fuel idle 0
    match ← Reader.signs with
    | .operator ['?'] :: rest =>
      Reader.goOnWith rest
      let yes ← readSetting fuel (idle || condition = 0)
      match ← Reader.signs with
      | .operator [':'] :: rest =>
        Reader.goOnWith rest
        let no ← readChoice fuel (idle || condition ≠ 0)
        return if condition ≠ 0 then yes else no
      | _ => throw .lacksColon
    | _ => return condition

/-- Values joined by operators that bind at least so tightly. -/
def readFrom : Nat → Bool → Nat → Reader Int
  | 0, _, _ => throw .lacksValue
  | fuel + 1, idle, least => do
    let a ← readOne fuel idle
    goOn fuel idle least a

/-- Goes on with the operators behind a value. -/
def goOn : Nat → Bool → Nat → Int → Reader Int
  | 0, _, _, a => return a
  | fuel + 1, idle, least, a => do
    match ← Reader.signs with
    | .operator mark :: rest =>
      match precedence mark with
      | some p =>
        if p < least then return a
        else
          Reader.goOnWith rest
          let b ← readFrom fuel (idle || leavesOut mark a) (p + 1)
          goOn fuel idle least (← applyUnless idle mark a b)
      | none => return a
    | _ => return a

def readOne : Nat → Bool → Reader Int
  | 0, _ => throw .lacksValue
  | fuel + 1, idle => do
    match ← Reader.signs with
    | .number n :: rest =>
      Reader.goOnWith rest
      return n
    | .name t :: rest =>
      Reader.goOnWith rest
      if idle then return 0 else Reader.valueOf t
    | .operator ['('] :: rest =>
      Reader.goOnWith rest
      let a ← readSetting fuel idle
      match ← Reader.signs with
      | .operator [')'] :: rest =>
        Reader.goOnWith rest
        return a
      | _ => throw .lacksClosing
    | .operator ['-'] :: rest =>
      Reader.goOnWith rest
      return wrap (-(← readOne fuel idle))
    | .operator ['+'] :: rest =>
      Reader.goOnWith rest
      readOne fuel idle
    | .operator ['!'] :: rest =>
      Reader.goOnWith rest
      return truth ((← readOne fuel idle) = 0)
    | .operator ['~'] :: rest =>
      Reader.goOnWith rest
      return -(← readOne fuel idle) - 1
    | _ => throw .lacksValue

end

/-- The value of a whole expression and what was given to variables, the last
first. -/
def eval (value : Bytes → Except Fault Int) (t : Bytes) :
    Except Fault (Int × List (Bytes × Int)) := do
  let ss := signs (t.length + 1) t
  let (n, rest, vars) ← (readSetting (8 * ss.length + 8) false).run (ss, { value })
  if rest = [] then return (n, vars.given) else throw .goesOn

def Fault.message (expression : Bytes) (f : Fault) : Bytes :=
  let about (what : String) : Bytes :=
    "arithmetic expression: ".toList ++ what.toList ++ ": \"".toList ++ expression ++ ['"']
  match f with
  | lacksValue => about "expecting primary"
  | lacksColon => about "expecting ':'"
  | lacksClosing => about "expecting ')'"
  | goesOn => about "expecting EOF"
  | divisionByZero => about "division by zero"
  | notNumber t => "Illegal number: ".toList ++ t

example : ((eval (fun _ => .ok 5) "2 + 3*x - (1<2)".toList).toOption.map Prod.fst) = some 16 := by
  decide +kernel

end Weave.Shell.Sum
