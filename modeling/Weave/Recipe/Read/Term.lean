import Weave.Recipe.Read.Quotation

/-!
# Reading terms of recipes

Terms are read level by level: what binds least comes first. Each level is given the
reader for all of them.
-/
namespace Weave.Recipe.Reader

/-- How much binds what is to be read. -/
inductive Level where
  /-- A term that may get a name. -/
  | named
  | test
  | either
  /-- Operations on numbers. -/
  | sum
  /-- What has a sign before it. -/
  | factor

abbrev Terms := Level → Reader Term

/-- A term, or all items of one. -/
def item (terms : Terms) : Reader Term := do
  if ← sign? "*" then return .spread (← terms .sum)
  terms .named

/-- Terms with commas between them are one tuple. -/
def tupleOf (one : Reader Term) : Reader Term := do
  let first ← one
  if !(← isSign ",") then
    match first with
    | .spread _ => fail "can't use starred expression here"
    | t => return t
  else return .tuple (first :: (← rest many))
where
  rest : Nat → Reader (List Term)
    | 0 => return []
    | n + 1 => do
      if !(← sign? ",") then return []
      if ← isOver then return []
      let t ← one
      return t :: (← rest n)

def wholeTerm (terms : Terms) : Reader Term := tupleOf (item terms)

/-- What is handed out of a function, behind its word. -/
def yielded (terms : Terms) (start : Span) : Reader Term := do
  modify fun r => { r with yields := true }
  let t ← if ← word? "from" then pure (.yieldAll (← terms .test))
    else if ← isOver then pure (.yield .none)
    else pure (.yield (← wholeTerm terms))
  if !(← get).inFunction then note (← spanFrom start) "'yield' outside function"
  return t

/-- Fails where a term stands behind another one without a comma. -/
def lacksComma (terms : Terms) : Reader Unit := do
  let next ← peek
  match (← get).lastTerm with
  | none => fail
  | some start =>
    let isText := match next.kind with
      | .text _ _ _ => true
      | _ => false
    if (← isOver) || isText && (← get).lastIsName then fail
    let _ ← terms .test
    failAt (← spanFrom start) "invalid syntax. Perhaps you forgot a comma?"

/-- Names that get the items of something. -/
def targets (terms : Terms) : Reader Term :=
  tupleOf do
    if ← sign? "*" then return .spread (← terms .sum)
    terms .sum

/-- The clauses that say what items are made of. -/
def clauses (terms : Terms) : Nat → Reader (List (Option Term × Term))
  | 0 => return []
  | n + 1 => do
    modify fun r => { r with lastTerm := none }
    if ← word? "for" then
      let target ← targets terms
      word "in"
      let source ← terms .either
      return (some target, source) :: (← clauses terms n)
    else if ← word? "if" then
      let test ← terms .either
      return (none, test) :: (← clauses terms n)
    else return []

/-- The parameters of a function, up to a sign, which is taken. -/
def parameters (terms : Terms) (close : String) (typed : Bool) :
    Nat → Bool → Reader (List Parameter)
  | 0, _ => return []
  | n + 1, onlyNamed => do
    if ← sign? close then return []
    let rest (onlyNamed : Bool) : Reader (List Parameter) := do
      if ← sign? "," then parameters terms close typed n onlyNamed
      else
        sign close
        return []
    let typePart : Reader Unit := do
      if typed then
        if ← sign? ":" then
          let _ ← terms .test
    if ← sign? "/" then rest onlyNamed
    else if ← sign? "**" then
      let p ← name
      typePart
      return (p, .namedRest, none) :: (← rest onlyNamed)
    else if ← sign? "*" then
      if ← isSign "," then rest true
      else
        let p ← name
        typePart
        return (p, .rest, none) :: (← rest true)
    else
      let p ← name
      typePart
      let value ← if ← sign? "=" then pure (some (← terms .test)) else pure none
      return (p, if onlyNamed then .named else .one, value) :: (← rest onlyNamed)

/-- What a call is given, one of them. -/
def argument (terms : Terms) : Reader Term := do
  if ← sign? "*" then return .spread (← terms .test)
  if ← sign? "**" then return .spreadNamed (← terms .test)
  match ← peek, ← peekSecond with
  | ⟨.name, _, _⟩, ⟨.sign, "=", _⟩ =>
    let n ← name
    take
    return .named n (← terms .test)
  | _, _ =>
    let start := (← peek).span
    let t ← terms .named
    if (← isWord "for") then
      return .build .stream t .none (← clauses terms many)
    if ← isSign "=" then
      take
      failAt (← spanFrom start)
        "expression cannot contain assignment, perhaps you meant \"==\"?"
    return t

/-- One of the places between brackets. -/
def place (terms : Terms) : Reader Term := do
  let bound : Reader Term := do
    if (← isSign ":") || (← isSign "]") || (← isSign ",") then return .none
    terms .test
  if ← sign? "*" then return .spread (← terms .sum)
  let first ← if ← isSign ":" then pure .none else terms .named
  if !(← isSign ":") then return first
  take
  let last ← bound
  let step ← if ← sign? ":" then bound else pure .none
  return .slice first last step

/-- The entries of a dictionary, or the items of a set. -/
def braces (terms : Terms) (start : Span) : Reader Term := do
  if ← sign? "\x7d" then return .dict (← spanFrom start) []
  let entry : Reader (Term × Term) := do
    if ← sign? "**" then return (.spreadNamed (← terms .sum), .none)
    let k ← terms .test
    sign ":"
    return (k, ← terms .test)
  if ← isSign "**" then
    let all ← items "\x7d" entry (lacksComma terms)
    return .dict (← spanFrom start) all
  let first ← item terms
  if ← sign? ":" then
    let value ← terms .test
    if ← isWord "for" then
      let cs ← clauses terms many
      sign "\x7d"
      return .build .dict first value cs
    let more ← if ← sign? "," then items "\x7d" entry (lacksComma terms) else do
      if !(← sign? "\x7d") then lacksComma terms
      pure []
    return .dict (← spanFrom start) ((first, value) :: more)
  if ← isWord "for" then
    let cs ← clauses terms many
    sign "\x7d"
    return .build .set first .none cs
  let more ← if ← sign? "," then items "\x7d" (item terms) (lacksComma terms) else do
    if !(← sign? "\x7d") then lacksComma terms
    pure []
  return .set (first :: more)

/-- What stands in parentheses, behind the first of them. -/
def parentheses (terms : Terms) : Reader Term := do
  if ← sign? ")" then return .tuple []
  let start := (← peek).span
  if ← word? "yield" then
    let t ← yielded terms start
    sign ")"
    return t
  let first ← item terms
  if ← isWord "for" then
    let cs ← clauses terms many
    sign ")"
    return .build .stream first .none cs
  if ← sign? "," then return .tuple (first :: (← items ")" (item terms) (lacksComma terms)))
  if !(← sign? ")") then lacksComma terms
  return first

def brackets (terms : Terms) (start : Span) : Reader Term := do
  if ← sign? "]" then return .list (← spanFrom start) []
  let first ← item terms
  if ← isWord "for" then
    let cs ← clauses terms many
    sign "]"
    return .build .list first .none cs
  let more ← if ← sign? "," then items "]" (item terms) (lacksComma terms) else do
    if !(← sign? "]") then lacksComma terms
    pure []
  return .list (← spanFrom start) (first :: more)

def atom (terms : Terms) : Reader Term := do
  let token ← peek
  match token.kind with
  | .int n =>
    take
    return .int n
  | .float x =>
    take
    return .float x
  | .text _ _ _ => Quotation.read (wholeTerm terms) many none
  | .name =>
    match token.word with
    | "None" => take; return .none
    | "True" => take; return .bool true
    | "False" => take; return .bool false
    | _ =>
      let n ← name
      return .name token.span n
  | .sign =>
    match token.word with
    | "(" => take; parentheses terms
    | "[" => take; brackets terms token.span
    | "\x7b" => take; braces terms token.span
    | "..." => take; return .dots
    | _ => fail
  | _ => fail

/-- Refuses arguments by position behind those by name. -/
def checkOrder : List Term → Bool → Bool → Reader Unit
  | [], _, _ => return ()
  | .named _ _ :: rest, _, unpacks => checkOrder rest true unpacks
  | .spreadNamed _ :: rest, named, _ => checkOrder rest named true
  | .spread _ :: rest, named, unpacks => checkOrder rest named unpacks
  | _ :: rest, named, unpacks => do
    let last := (← get).last
    if unpacks then failAt last "positional argument follows keyword argument unpacking"
    if named then failAt last "positional argument follows keyword argument"
    checkOrder rest named unpacks

/-- A term with its calls, indices and attributes. -/
def primary (terms : Terms) : Reader Term := do
  let start := (← peek).span
  let first ← atom terms
  chain (next start) many first
where
  next (start : Span) (t : Term) : Reader (Option Term) := do
    let here := (← peek).span
    if ← sign? "." then
      let n ← name
      return some (.attribute (← spanFrom start) t n)
    else if ← sign? "(" then
      let arguments ← items ")" (argument terms) (lacksComma terms)
      checkOrder arguments false false
      return some (.call (← spanFrom start) t arguments)
    else if ← sign? "[" then
      let first ← place terms
      let i ← if ← isSign "," then do
          take
          pure (.tuple (first :: (← items "]" (place terms) (lacksComma terms))))
        else do
          if !(← sign? "]") then lacksComma terms
          pure first
      let span ← spanFrom start
      return some (.index { span with focus := some (here.column, span.endColumn) } t i)
    else return none

def power (terms : Terms) : Reader Term := do
  let start := (← peek).span
  let base ← primary terms
  let here := (← peek).span
  if ← sign? "**" then
    let e ← terms .factor
    let span ← spanFrom start
    return .binary { span with focus := some (here.column, here.endColumn) } "**" base e
  return base

def factor (terms : Terms) : Reader Term := do
  let token ← peek
  match token with
  | ⟨.sign, op, start⟩ =>
    if op = "-" || op = "+" || op = "~" then
      take
      let t ← terms .factor
      return .unary (← spanFrom start) op t
    power terms
  | _ => power terms

/-- The operations on numbers, those that bind least first. -/
def operations : List (List String) :=
  [["|"], ["^"], ["&"], ["<<", ">>"], ["+", "-"], ["*", "/", "//", "%", "@"]]

def sum (terms : Terms) : List (List String) → Reader Term
  | [] => factor terms
  | level :: levels => do
    let start := (← peek).span
    let first ← sum terms levels
    let next (a : Term) : Reader (Option Term) := do
      match ← peek with
      | ⟨.sign, op, here⟩ =>
        if level.contains op then
          take
          let b ← sum terms levels
          let span ← spanFrom start
          return some (.binary { span with focus := some (here.column, here.endColumn) } op a b)
        return none
      | _ => return none
    chain next many first

/-- The sign or the words of a comparison, if there is one. -/
def comparison? : Reader (Option String) := do
  match ← peek with
  | ⟨.sign, op, _⟩ =>
    if ["==", "!=", "<", ">", "<=", ">="].contains op then
      take
      return some op
    return none
  | ⟨.name, "in", _⟩ => take; return some "in"
  | ⟨.name, "not", _⟩ =>
    match ← peekSecond with
    | ⟨.name, "in", _⟩ =>
      take
      take
      return some "not in"
    | _ => return none
  | ⟨.name, "is", _⟩ =>
    take
    if ← word? "not" then return some "is not"
    return some "is"
  | _ => return none

def comparison (terms : Terms) : Reader Term := do
  let start := (← peek).span
  let first ← sum terms operations
  match ← rest many with
  | [] => return first
  | more => return .compare (← spanFrom start) first more
where
  rest : Nat → Reader (List (String × Term))
    | 0 => return []
    | n + 1 => do
      match ← comparison? with
      | none => return []
      | some op =>
        let t ← sum terms operations
        return (op, t) :: (← rest n)

/-- A comparison, with the words before it that turn it around. -/
def negation (terms : Terms) : Nat → Reader Term
  | 0 => fail
  | n + 1 => do
    if ← word? "not" then return .not (← negation terms n)
    comparison terms

def conjunction (terms : Terms) : Reader Term := do
  let first ← negation terms many
  let next (a : Term) : Reader (Option Term) := do
    if ← word? "and" then return some (.both a (← negation terms many))
    return none
  chain next many first

def disjunction (terms : Terms) : Reader Term := do
  let first ← conjunction terms
  let next (a : Term) : Reader (Option Term) := do
    if ← word? "or" then return some (.either a (← conjunction terms))
    return none
  chain next many first

def test (terms : Terms) : Reader Term := do
  if ← word? "lambda" then
    let ps ← parameters terms ":" false many false
    return .function ps (← terms .test)
  let start := (← peek).span
  let first ← terms .either
  let t ← if ← word? "if" then do
      let condition ← terms .either
      if !(← isWord "else") then
        failAt (← spanFrom start) "expected 'else' after 'if' expression"
      take
      pure (Term.choice condition first (← terms .test))
    else pure first
  let isName := match t with
    | .name _ _ => true
    | _ => false
  modify fun r => { r with lastTerm := some start, lastIsName := isName }
  return t

def named (terms : Terms) : Reader Term := do
  match ← peek, ← peekSecond with
  | ⟨.name, _, _⟩, ⟨.sign, ":=", _⟩ =>
    let n ← name
    take
    return .bind n (← terms .test)
  | _, _ => terms .test

/-- Reads a term. The number bounds how deep terms stand in one another. -/
def term : Nat → Terms
  | 0, _ => fail "too many nested parentheses"
  | fuel + 1, level =>
    let terms := term fuel
    match level with
    | .named => named terms
    | .test => test terms
    | .either => disjunction terms
    | .sum => sum terms operations
    | .factor => factor terms

/-- More than terms stand in one another. -/
def maxDepth : Nat := 2000

def terms : Terms := term maxDepth

end Weave.Recipe.Reader
