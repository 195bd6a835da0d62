import Weave.Expression.Read
import Weave.Record.Program
import Weave.Record.Token

/-!
# Reading terms of programs for records

Terms are read level by level: the operations that bind least come first. Numbers bound
how deep reading goes.
-/
namespace Weave.Record

/-- A step that takes tokens. -/
abbrev Reading := StateT (List Placed) (Except (Fault × Nat))

namespace Reading

/-- The functions that are known without being defined, with the least and the greatest
number of their arguments. -/
def knownFunctions : List (String × Nat × Nat) :=
  [("length", 0, 1), ("substr", 2, 3), ("index", 2, 2), ("split", 2, 3), ("sub", 2, 3),
   ("gsub", 2, 3), ("match", 2, 2), ("sprintf", 1, 1000), ("sin", 1, 1), ("cos", 1, 1),
   ("atan2", 2, 2), ("exp", 1, 1), ("log", 1, 1), ("sqrt", 1, 1), ("int", 1, 1), ("rand", 0, 0),
   ("srand", 0, 1), ("tolower", 1, 1), ("toupper", 1, 1), ("system", 1, 1), ("close", 1, 1),
   ("fflush", 0, 1)]

/-- Words that are no names. -/
def reserved : List String :=
  ["in", "if", "else", "while", "for", "do", "break", "continue", "next", "nextfile", "exit",
   "return", "delete", "print", "printf", "getline", "function", "func", "BEGIN", "END"]

def isReserved (word : Bytes) : Bool := reserved.contains (String.ofList word)

def peek? : Reading (Option Token) := do
  return (← get).head?.map (·.token)

def take : Reading Unit := modify (List.drop 1)

/-- Where reading has come to: the line, and what stands there. -/
def fail {α : Type} (fault : Bytes → Fault) : Reading α := do
  match ← get with
  | p :: _ => throw (fault p.token.shown, p.line)
  | [] => throw (fault "end of line".toList, 0)

def unexpected {α : Type} : Reading α := fail .unexpected

def isSign (s : String) : Reading Bool := do
  match ← peek? with
  | some (.sign t) => return s = t
  | _ => return false

/-- Takes a sign if it stands there. -/
def sign? (s : String) : Reading Bool := do
  let found ← isSign s
  if found then take
  return found

def sign (s : String) : Reading Unit := do
  if !(← sign? s) then
    if s = ")" then fail .lacksParenthesis else unexpected

/-- The word that stands there, also with a parenthesis behind it. -/
def word? : Reading (Option Bytes) := do
  match ← peek? with
  | some (.name t) => return some t
  | some (.call t) => return some t
  | _ => return none

/-- Takes a certain word if it stands there. -/
def wordIs? (word : String) : Reading Bool := do
  let found := (← word?) = some word.toList
  if found then take
  return found

/-- Passes over the ends of lines. -/
def skipLines : Reading Unit :=
  modify fun ts => ts.dropWhile fun p => match p.token with
    | .newline => true
    | _ => false

/-- Passes over all that ends statements. -/
def skipEnds : Reading Unit :=
  modify fun ts => ts.dropWhile fun p => match p.token with
    | .newline => true
    | .sign ";" => true
    | _ => false

/-- Whether a statement may end here. -/
def isEnd : Reading Bool := do
  match ← peek? with
  | none => return true
  | some .newline => return true
  | some (.sign s) => return s = ";" || s = "\x7d"
  | some _ => return false

/-- Takes the end of a statement, if a brace does not end it. -/
def statementEnd : Reading Unit := do
  if !(← isEnd) then unexpected
  if !(← isSign "\x7d") then take

def name : Reading Bytes := do
  match ← peek? with
  | some (.name t) =>
    if isReserved t then unexpected
    take
    return t
  | _ => unexpected

/-- Which signs a term may not hold outside of parentheses. -/
structure Bounds where
  /-- They print what is before them to somewhere. -/
  prints : Bool := false

/-- The operations that are written with an equals sign behind them. -/
def giving : List (String × Option Operation) :=
  [("=", none), ("+=", some .add), ("-=", some .subtract), ("*=", some .multiply),
   ("/=", some .divide), ("%=", some .remainder), ("^=", some .power)]

def comparisons : List (String × Comparison) :=
  [("<", .less), ("<=", .atMost), ("==", .equal), ("!=", .unequal), (">", .greater),
   (">=", .atLeast)]

/-- Whether a term begins here that is joined to what is before it. -/
def beginsTerm : Reading Bool := do
  match ← peek? with
  | some (.sign s) => return ["$", "(", "++", "--"].contains s
  | some (.name t) => return !isReserved t
  | some (.call t) => return !isReserved t
  | some .newline => return false
  | some _ => return true
  | none => return false

mutual

/-- A term: a choice, or one that gives a place a value. -/
def term : Nat → Bounds → Reading Term
  | 0, _ => unexpected
  | fuel + 1, b => do
    let first ← level fuel 0 b
    if ← sign? "?" then
      skipLines
      let yes ← term fuel b
      skipLines
      sign ":"
      skipLines
      return .choice first yes (← term fuel b)
    match ← peek? with
    | some (.sign s) =>
      match giving.lookup s with
      | some op =>
        if first.isPlace then
          take
          skipLines
          return .give first op (← term fuel b)
        else unexpected
      | none => return first
    | _ => return first

/-- The terms of one level, whose operations bind more the higher it is. -/
def level : Nat → Nat → Bounds → Reading Term
  | 0, _, _ => unexpected
  | fuel + 1, n, b =>
    match n with
    | 0 => do more fuel 0 b (← level fuel 1 b)
    | 1 => do more fuel 1 b (← level fuel 2 b)
    | 2 => do more fuel 2 b (← level fuel 3 b)
    | 3 => do more fuel 3 b (← level fuel 4 b)
    | 4 => do more fuel 4 b (← level fuel 5 b)
    | 5 => do more fuel 5 b (← level fuel 6 b)
    | 6 => do more fuel 6 b (← level fuel 7 b)
    | 7 => do more fuel 7 b (← signed fuel b)
    | _ => signed fuel b

/-- What follows a term at a level. -/
def more : Nat → Nat → Bounds → Term → Reading Term
  | 0, _, _, _ => unexpected
  | fuel + 1, n, b, left => do
    match n, ← peek? with
    | 0, some (.sign "||") => do
      take
      skipLines
      more fuel 0 b (.either left (← level fuel 1 b))
    | 1, some (.sign "&&") => do
      take
      skipLines
      more fuel 1 b (.both left (← level fuel 2 b))
    | 2, some (.name ['i', 'n']) => do
      take
      more fuel 2 b (.isKey [left] (← name))
    | 3, some (.sign "~") => do
      take
      more fuel 3 b (.fits false left (← level fuel 4 b))
    | 3, some (.sign "!~") => do
      take
      more fuel 3 b (.fits true left (← level fuel 4 b))
    | 4, some (.sign "|") => do
      match (← get).drop 1 with
      | ⟨.name word, _⟩ :: _ =>
        if word = "getline".toList then
          take
          take
          more fuel 4 b (.readLine .command (some left) (← place? fuel))
        else return left
      | _ => return left
    | 4, some (.sign s) => do
      match comparisons.lookup s with
      | some c =>
        if b.prints && s = ">" then return left
        take
        more fuel 4 b (.compared c left (← level fuel 5 b))
      | none => return left
    | 5, _ => do
      if ← beginsTerm then more fuel 5 b (.joined left (← level fuel 6 b)) else return left
    | 6, some (.sign "+") => do
      take
      more fuel 6 b (.combined .add left (← level fuel 7 b))
    | 6, some (.sign "-") => do
      take
      more fuel 6 b (.combined .subtract left (← level fuel 7 b))
    | 7, some (.sign s) => do
      match [("*", Operation.multiply), ("/", .divide), ("%", .remainder)].lookup s with
      | some op =>
        take
        more fuel 7 b (.combined op left (← signed fuel b))
      | none => return left
    | _, _ => return left

/-- A term with a sign before it. -/
def signed : Nat → Bounds → Reading Term
  | 0, _ => unexpected
  | fuel + 1, b => do
    if ← sign? "!" then return .not (← signed fuel b)
    else if ← sign? "-" then return .minus (← signed fuel b)
    else if ← sign? "+" then return .plus (← signed fuel b)
    else
      let base ← stepped fuel b
      if ← sign? "^" then return .combined .power base (← signed fuel b)
      else return base

/-- A simple term, maybe with a step behind it. -/
def stepped : Nat → Bounds → Reading Term
  | 0, _ => unexpected
  | fuel + 1, b => do
    let t ← simple fuel b
    if t.isPlace then
      if ← sign? "++" then return .step t true false
      if ← sign? "--" then return .step t false false
    return t

/-- Terms between parentheses, with commas between them. -/
def list : Nat → Bounds → Reading (List Term)
  | 0, _ => unexpected
  | fuel + 1, b => do
    let first ← term fuel b
    if ← sign? "," then
      skipLines
      return first :: (← list fuel b)
    else return [first]

/-- The arguments of a function in their parentheses. -/
def arguments : Nat → Reading (List Term)
  | 0 => unexpected
  | fuel + 1 => do
    sign "("
    if ← sign? ")" then return []
    if (← isSign "\x7d") || (← isEnd) then fail .lacksParenthesis
    let all ← list fuel {}
    sign ")"
    return all

/-- A place that a line is read into, if one stands there. -/
def place? : Nat → Reading (Option Term)
  | 0 => return none
  | fuel + 1 => do
    match ← peek? with
    | some (.sign "$") => return some (← simple fuel {})
    | some (.name t) => if isReserved t then return none else return some (← simple fuel {})
    | _ => return none

/-- A term that no sign takes apart. -/
def simple : Nat → Bounds → Reading Term
  | 0, _ => unexpected
  | fuel + 1, b => do
    match ← peek? with
    | some (.number x) => do
      take
      return .number x
    | some (.text t) => do
      take
      return .text t
    | some (.expression t) => do
      match Expression.read .escaped t with
      | .ok e =>
        take
        return .expression e
      | .error f => fail fun _ => .badExpression (Expression.Fault.shortMessage f t)
    | some (.sign "$") => do
      take
      if ← sign? "++" then return .field (.step (← simple fuel b) true true)
      if ← sign? "--" then return .field (.step (← simple fuel b) false true)
      if ← sign? "-" then return .field (.minus (← simple fuel b))
      return .field (← simple fuel b)
    | some (.sign "++") => do
      take
      return .step (← simple fuel b) true true
    | some (.sign "--") => do
      take
      return .step (← simple fuel b) false true
    | some (.sign "-") => do
      take
      return .minus (← signed fuel b)
    | some (.sign "+") => do
      take
      return .plus (← signed fuel b)
    | some (.sign "!") => do
      take
      return .not (← signed fuel b)
    | some (.sign "(") => do
      take
      let all ← list fuel {}
      sign ")"
      match all with
      | [t] => return .grouped t
      | all =>
        if ← wordIs? "in" then return .isKey all (← name)
        else unexpected
    | some (.call t) => do
      if isReserved t && t != "getline".toList then unexpected
      take
      if t = "getline".toList then return .readLine .records none none
      let all ← arguments fuel
      match knownFunctions.lookup (String.ofList t) with
      | some (least, most) =>
        if all.length < least || most < all.length then fail fun _ => .wrongCount t
        return .known t all
      | none => return .call t all
    | some (.name t) => do
      if t = "getline".toList then
        take
        let place ← place? fuel
        if ← sign? "<" then return .readLine .file (some (← stepped fuel b)) place
        else return .readLine .records none place
      if isReserved t then unexpected
      take
      if (knownFunctions.lookup (String.ofList t)).isSome then return .known t []
      if ← sign? "[" then
        let key ← list fuel {}
        sign "]"
        return .element t key
      return .name t
    | _ => unexpected

end

end Reading

end Weave.Record
