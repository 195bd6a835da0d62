import Weave.Number.Decimal
import Weave.Utility.Escape

/-!
# The words and signs of programs for records

Whether a slash divides or begins an expression depends on what stands before it. A name
with a parenthesis right behind it calls a function.
-/
namespace Weave.Record

inductive Token where
  | number (x : Float)
  | text (t : Bytes)
  | expression (t : Bytes)
  | name (t : Bytes)
  | call (t : Bytes)
  | sign (s : String)
  | newline

/-- A token with the line where it ends. -/
structure Placed where
  token : Token
  line : Nat

/-- Why a program cannot be read. -/
inductive Fault where
  | openText
  | openExpression
  | badExpression (why : Bytes)
  | unexpected (what : Bytes)
  | unknownSign (c : Char)
  | lacksBrace
  | extraBrace
  | lacksParenthesis (before : Bytes)
  | unknownFunction (name : Bytes)
  | wrongCount (function : Bytes)
  | tooMany (function : Bytes)
  | improper (word : Bytes)
  | outside (word : Bytes)
deriving Repr, DecidableEq

namespace Token

/-- The signs, longer ones before those that they begin with. -/
def signs : List String :=
  ["&&", "||", "==", "<=", ">=", "!=", "++", "--", "+=", "-=", "*=", "/=", "%=", "^=",
   "!~", ">>", "\x7b", "\x7d", "(", ")", "[", "]", ";", ",", "+", "-", "*", "/", "%", "^", "!", ">",
   "<", "|", "?", ":", "~", "$", "="]

def isNameStart (c : Char) : Bool := c.isAlpha || c = '_'

def isNameChar (c : Char) : Bool := c.isAlphanum || c = '_'

/-- Whether a slash behind it divides. -/
def precedesDivision : Token → Bool
  | number _ => true
  | text _ => true
  | name t => ["print", "printf", "return", "in", "getline", "else", "do", "case"].all
      fun word => word.toList ≠ t
  | sign s => [")", "]", "$", "++", "--"].contains s
  | _ => false

/-- A text up to its closing mark, with what the escapes in it stand for, and what is
behind it. -/
def readText : Nat → Bytes → Option (Bytes × Bytes)
  | fuel + 1, t =>
    match t with
    | '"' :: rest => some ([], rest)
    | '\\' :: '\n' :: rest => readText fuel rest
    | '\\' :: c :: rest =>
      let (meant, rest) : Bytes × Bytes :=
        if c = '"' then ([c], rest)
        else if c = 'x' && rest.head?.any fun d => Escape.digitOf d < 16 then
          let digits := (rest.take 2).takeWhile fun d => Escape.digitOf d < 16
          ([Escape.byte (Escape.numberIn 16 digits)], rest.drop digits.length)
        else if Escape.isOctal c then
          let digits := ((c :: rest).take 3).takeWhile Escape.isOctal
          ([Escape.byte (Escape.numberIn 8 digits)], (c :: rest).drop digits.length)
        else
          match (Escape.letters.lookup c).filter fun _ => c ≠ 'e' with
          | some meant => ([meant], rest)
          | none => (['\\', c], rest)
      (readText fuel rest).map fun (t, behind) => (meant ++ t, behind)
    | '\n' :: _ => none
    | [] => none
    | c :: rest => (readText fuel rest).map fun (t, behind) => (c :: t, behind)
  | 0, _ => none

/-- What the escapes in a text stand for. -/
def meaning (t : Bytes) : Bytes :=
  let marked := t.flatMap fun c => if c = '"' then ['\\', '"'] else if c = '\n' then [] else [c]
  ((readText (marked.length + 2) (marked ++ ['"'])).map Prod.fst).getD t

/-- An expression up to its closing slash, and what is behind it. A slash in a set does
not close it. -/
def readExpression : Nat → Bool → Bytes → Option (Bytes × Bytes)
  | fuel + 1, inSet, t =>
    let go (c : Char) (inSet : Bool) (rest : Bytes) : Option (Bytes × Bytes) :=
      (readExpression fuel inSet rest).map fun (t, behind) => (c :: t, behind)
    match t with
    | '/' :: rest => if inSet then go '/' true rest else some ([], rest)
    | '\\' :: '/' :: rest => go '/' inSet rest
    | '\\' :: c :: rest =>
      if c = '\n' then readExpression fuel inSet rest
      else (readExpression fuel inSet rest).map fun (t, behind) => ('\\' :: c :: t, behind)
    | '[' :: '^' :: ']' :: rest => if inSet then go '[' true ('^' :: ']' :: rest) else
        (readExpression fuel true rest).map fun (t, behind) => ("[^]".toList ++ t, behind)
    | '[' :: ']' :: rest => if inSet then go '[' true (']' :: rest) else
        (readExpression fuel true rest).map fun (t, behind) => ("[]".toList ++ t, behind)
    | '[' :: rest => go '[' true rest
    | ']' :: rest => go ']' false rest
    | '\n' :: _ => none
    | [] => none
    | c :: rest => go c inSet rest
  | 0, _, _ => none

/-- The number at the front of a text, and what is behind it. -/
def readNumber (t : Bytes) : Option (Float × Bytes) :=
  (Decimal.read? t).map fun (d, rest) =>
    let x := Float.ofScientific d.digits (d.exponent < 0) d.exponent.natAbs
    (if d.negative then -x else x, rest)

/-- All tokens of a text. The number bounds how many steps that takes. -/
def readAll : Nat → Nat → Bool → Bytes → Except (Fault × Nat) (List Placed)
  | 0, _, _, _ => .ok []
  | fuel + 1, line, divides, t =>
    let put (token : Token) (rest : Bytes) : Except (Fault × Nat) (List Placed) := do
      return ⟨token, line⟩ :: (← readAll fuel line token.precedesDivision rest)
    match t with
    | [] => .ok []
    | '\n' :: rest => do
      return ⟨.newline, line⟩ :: (← readAll fuel (line + 1) false rest)
    | '\\' :: '\r' :: '\n' :: rest => readAll fuel (line + 1) divides rest
    | '\\' :: '\n' :: rest => readAll fuel (line + 1) divides rest
    | '#' :: rest => readAll fuel line divides (rest.dropWhile (· ≠ '\n'))
    | '"' :: rest =>
      match readText (rest.length + 1) rest with
      | some (t, behind) => put (.text t) behind
      | none => .error (.openText, line)
    | c :: rest =>
      if c = ' ' || c = '\t' || c = '\r' then readAll fuel line divides rest
      else if c.isDigit || (c = '.' && rest.head?.any Char.isDigit) then
        match readNumber t with
        | some (x, behind) => put (.number x) behind
        | none => .error (.unexpected [c], line)
      else if isNameStart c then
        let word := t.takeWhile isNameChar
        let behind := t.drop word.length
        put (if behind.head? = some '(' then .call word else .name word) behind
      else if c = '/' && !divides then
        match readExpression (rest.length + 1) false rest with
        | some (e, behind) => put (.expression e) behind
        | none => .error (.openExpression, line)
      else
        match signs.find? fun s => Text.beginsWith s.toList t with
        | some s => put (.sign s) (t.drop s.length)
        | none => .error (.unknownSign c, line)

def ofText (t : Bytes) : Except (Fault × Nat) (List Placed) :=
  readAll (t.length + 1) 1 false t

/-- A token as it is shown in a complaint. -/
def shown : Token → Bytes
  | number _ => "number".toList
  | text t => '"' :: t ++ ['"']
  | expression t => '/' :: t ++ ['/']
  | name t => t
  | call t => t
  | sign s => s.toList
  | newline => "end of line".toList

end Token

end Weave.Record
