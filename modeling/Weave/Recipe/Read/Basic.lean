import Weave.Recipe.Token

/-!
# Reading recipes

A step of reading takes tokens and fails at the first one that does not fit.
-/
namespace Weave.Recipe

/-- What reading works on. -/
structure Rest where
  tokens : List Token
  /-- The place of the token that was taken last. -/
  last : Span := {}
  /-- Whether a value has been handed out of the function that is read. -/
  yields : Bool := false
  /-- Where the term begins that was read last, if another one could follow it. -/
  lastTerm : Option Span := none
  /-- Whether it is a name alone. -/
  lastIsName : Bool := false
  inFunction : Bool := false
  inLoop : Bool := false
  /-- What is wrong although the whole can be read. -/
  late : Option Fault := none
  /-- The lines with escapes that stand for themselves. -/
  warnings : List (Nat × Char) := []

abbrev Reader := StateT Rest (Except Fault)

namespace Reader

/-- More than the items of any recipe. -/
def many : Nat := 1000000

def peek : Reader Token := do
  return (← get).tokens.headD default

/-- The token behind the next one. -/
def peekSecond : Reader Token := do
  return ((← get).tokens.drop 1).headD default

def take : Reader Unit :=
  modify fun r => { r with tokens := r.tokens.drop 1, last := (r.tokens.headD default).span }

def failAt {α : Type} (span : Span) (message : String) : Reader α :=
  throw ⟨"SyntaxError", message.toList, span⟩

def fail {α : Type} (message : String := "invalid syntax") : Reader α := do
  failAt (← peek).span message

def isSign (s : String) : Reader Bool := do
  match ← peek with
  | ⟨.sign, word, _⟩ => return word = s
  | _ => return false

def isWord (s : String) : Reader Bool := do
  match ← peek with
  | ⟨.name, word, _⟩ => return word = s
  | _ => return false

/-- Takes a sign if it stands there. -/
def sign? (s : String) : Reader Bool := do
  let found ← isSign s
  if found then take
  return found

def word? (s : String) : Reader Bool := do
  let found ← isWord s
  if found then take
  return found

/-- Notes what is wrong although reading can go on. -/
def note (span : Span) (message : String) : Reader Unit :=
  modify fun r => { r with late := r.late.or (some ⟨"SyntaxError", message.toList, span⟩) }

def sign (s : String) : Reader Unit := do
  if !(← sign? s) then
    if s = ":" then fail "expected ':'" else fail

def word (s : String) : Reader Unit := do
  if !(← word? s) then fail

/-- Words that are no names. -/
def reserved : List String :=
  ["False", "None", "True", "and", "as", "assert", "async", "await", "break", "class", "continue",
   "def", "del", "elif", "else", "except", "finally", "for", "from", "global", "if", "import", "in",
   "is", "lambda", "nonlocal", "not", "or", "pass", "raise", "return", "try", "while", "with",
   "yield"]

def name : Reader String := do
  match ← peek with
  | ⟨.name, word, _⟩ =>
    if reserved.contains word then fail
    take
    return word
  | _ => fail

/-- Names with points between them. -/
def dottedName : Reader String := do
  let first ← name
  rest many first
where
  rest : Nat → String → Reader String
    | 0, s => return s
    | n + 1, s => do
      if ← sign? "." then rest n (s ++ "." ++ (← name)) else return s

/-- The place from the beginning of one token to the end of the last one. -/
def spanFrom (start : Span) : Reader Span := do
  let last := (← get).last
  return { start with endLine := last.endLine, endColumn := last.endColumn, focus := none }

/-- Goes on with a term as long as something stands behind it. -/
def chain (next : Term → Reader (Option Term)) : Nat → Term → Reader Term
  | 0, t => return t
  | n + 1, t => do
    match ← next t with
    | some t => chain next n t
    | none => return t

/-- Items with commas between them, up to a sign, which is taken. `refuse` fails where
something else stands behind an item. -/
def items {α : Type} (close : String) (item : Reader α) (refuse : Reader Unit) :
    Reader (List α) :=
  go many
where
  go : Nat → Reader (List α)
    | 0 => return []
    | n + 1 => do
      if ← sign? close then return []
      let first ← item
      if ← sign? "," then return first :: (← go n)
      if !(← sign? close) then
        refuse
        fail
      return [first]

/-- Whether nothing stands here that a term begins with. -/
def isOver : Reader Bool := do
  match ← peek with
  | ⟨.sign, word, _⟩ =>
    return word ∉ ["(", "[", "\x7b", "-", "+", "~", "...", "*"]
  | ⟨.name, word, _⟩ =>
    let canBegin := ["None", "True", "False", "not", "lambda", "yield"].contains word
    return reserved.contains word && !canBegin
  | ⟨.newline, _, _⟩ => return true
  | ⟨.indent, _, _⟩ => return true
  | ⟨.dedent, _, _⟩ => return true
  | ⟨.ending, _, _⟩ => return true
  | _ => return false

end Reader

end Weave.Recipe
