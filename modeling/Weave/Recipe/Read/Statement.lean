import Weave.Recipe.Read.Term

/-!
# Reading statements of recipes

A statement that has a body ends with a colon. The body follows in the same line, or as
a block of lines that are deeper.
-/
namespace Weave.Recipe.Reader

/-- The signs that change the value of a name. -/
def updates : List String :=
  ["+=", "-=", "*=", "/=", "//=", "%=", "**=", ">>=", "<<=", "&=", "|=", "^=", "@="]

/-- What a term is called where it cannot be given a value. -/
def fixedName : Term → String
  | .none => "None"
  | .bool true => "True"
  | .bool false => "False"
  | .dots => "ellipsis"
  | .int _ => "literal"
  | .float _ => "literal"
  | .text _ => "literal"
  | .bytes _ => "literal"
  | .joined _ => "f-string expression"
  | .call _ _ _ => "function call"
  | .compare _ _ _ => "comparison"
  | .function _ _ => "lambda"
  | .choice _ _ _ => "conditional expression"
  | .build .list _ _ _ => "list comprehension"
  | .build .stream _ _ _ => "generator expression"
  | .dict _ _ => "dict literal"
  | .set _ => "set display"
  | .tuple _ => "tuple"
  | .list _ _ => "list"
  | _ => "expression"

def canBeGiven : Term → Bool
  | .name _ _ => true
  | .attribute _ _ _ => true
  | .index _ _ _ => true
  | .tuple _ => true
  | .list _ _ => true
  | .spread _ => true
  | _ => false

/-- Whether a term stands for one place, whose value can be updated. -/
def isOnePlace : Term → Bool
  | .name _ _ => true
  | .attribute _ _ _ => true
  | .index _ _ _ => true
  | _ => false

/-- Refuses a term that cannot be given a value. -/
def checkTarget (start : Span) (t : Term) : Reader Unit := do
  if !canBeGiven t then
    let hint := match t with
      | .none => ""
      | .bool _ => ""
      | _ => " here. Maybe you meant '==' instead of '='?"
    failAt (← spanFrom start) ("cannot assign to " ++ fixedName t ++ hint)

/-- A term, or what is handed out of a function. -/
def valueTerm : Reader Term := do
  let start := (← peek).span
  if ← word? "yield" then yielded terms start else wholeTerm terms

/-- The values behind equals signs; the last one is given to all before. -/
def given : Nat → Reader (List Term)
  | 0 => return []
  | n + 1 => do
    let start := (← peek).span
    let t ← valueTerm
    if ← isSign "=" then
      checkTarget start t
      take
      return t :: (← given n)
    return [t]

/-- A statement that begins with a term. -/
def termStatement : Reader Statement := do
  let start := (← peek).span
  if let (⟨.name, _, _⟩, ⟨.sign, ":=", span⟩) := (← peek, ← peekSecond) then
    failAt span "invalid syntax"
  let first ← valueTerm
  match ← peek with
  | ⟨.sign, op, _⟩ =>
    if op = "=" then
      checkTarget start first
      take
      let all := first :: (← given many)
      return .give (← spanFrom start) all.dropLast (all.getLast?.getD .none)
    else if op = ":" && canBeGiven first then
      take
      let _ ← terms .test
      if ← sign? "=" then
        let t ← valueTerm
        return .give (← spanFrom start) [first] t
      return .pass
    else if updates.contains op then
      if !isOnePlace first then
        failAt (← spanFrom start)
          ("'" ++ fixedName first ++ "' is an illegal expression for augmented assignment")
      take
      let t ← valueTerm
      return .update (← spanFrom start) first (String.ofList (op.toList.dropLast)) t
    else return .term first
  | ⟨.name, _, _⟩ =>
    match first with
    | .name _ n => lacksParentheses start n (.term first)
    | _ => return .term first
  | ⟨.int _, _, _⟩ =>
    match first with
    | .name _ n => lacksParentheses start n (.term first)
    | _ => return .term first
  | ⟨.text _ _ _, _, _⟩ =>
    match first with
    | .name _ n => lacksParentheses start n (.term first)
    | _ => return .term first
  | _ => return .term first
where
  lacksParentheses (start : Span) (n : String) (s : Statement) : Reader Statement := do
    if (n = "print" || n = "exec") && !(← isOver) then
      let _ ← wholeTerm terms
      failAt (← spanFrom start)
        ("Missing parentheses in call to '" ++ n ++ "'. Did you mean " ++ n ++ "(...)?")
    return s

/-- A name and the one that it gets instead. -/
def renamed (one : Reader String) : Reader (String × Option String) := do
  let n ← one
  if ← word? "as" then return (n, some (← name))
  return (n, none)

/-- Some things with commas between them, and at least one. -/
def separated {α : Type} (one : Reader α) : Nat → Reader (List α)
  | 0 => return []
  | n + 1 => do
    let first ← one
    if ← sign? "," then return first :: (← separated one n)
    return [first]

def importFrom (start : Span) : Reader Statement := do
  let isNear ← sign? "."
  let module ← if isNear && (← isWord "import") then pure "." else dottedName
  word "import"
  if ← sign? "*" then return .importFrom (← spanFrom start) module [("*", none)]
  let names ← if ← sign? "(" then items ")" (renamed name) fail else separated (renamed name) many
  return .importFrom (← spanFrom start) module names

/-- What is taken away: names, attributes and items. -/
def deletions : Nat → Reader (List Term)
  | 0 => return []
  | n + 1 => do
    let start := (← peek).span
    let t ← terms .sum
    if !canBeGiven t then failAt (← spanFrom start) ("cannot delete " ++ fixedName t)
    let first := match t with
      | .tuple ts => ts
      | t => [t]
    if (← sign? ",") && !(← isOver) then return first ++ (← deletions n)
    return first

/-- A statement that fits into a line with others. -/
def simple : Reader Statement := do
  let token ← peek
  let start := token.span
  match token.kind with
  | .name =>
    match token.word with
    | "pass" => take; return .pass
    | "break" =>
      take
      if !(← get).inLoop then note start "'break' outside loop"
      return .break'
    | "continue" =>
      take
      if !(← get).inLoop then note start "'continue' not properly in loop"
      return .continue'
    | "return" =>
      take
      let t ← if ← isOver then pure .none else wholeTerm terms
      if !(← get).inFunction then note (← spanFrom start) "'return' outside function"
      return .return' t
    | "raise" =>
      take
      if ← isOver then return .raise (← spanFrom start) none none
      let what ← terms .test
      let cause ← if ← word? "from" then pure (some (← terms .test)) else pure none
      return .raise (← spanFrom start) (some what) cause
    | "global" => take; return .outer true (← separated name many)
    | "nonlocal" => take; return .outer false (← separated name many)
    | "import" =>
      take
      let modules ← separated (renamed dottedName) many
      return .import' (← spanFrom start) modules
    | "from" => take; importFrom start
    | "assert" =>
      take
      let t ← terms .test
      let message ← if ← sign? "," then pure (some (← terms .test)) else pure none
      return .assert (← spanFrom start) t message
    | "del" =>
      take
      let ts ← deletions many
      return .delete (← spanFrom start) ts
    | _ => termStatement
  | _ => termStatement

/-- The statements of one line. -/
def line : Nat → Reader (List Statement)
  | 0 => return []
  | n + 1 => do
    let s ← simple
    let isMore ← sign? ";"
    match ← peek with
    | ⟨.newline, _, _⟩ =>
      take
      return [s]
    | ⟨.ending, _, _⟩ => return [s]
    | _ => if isMore then return s :: (← line n) else fail

/-- The statements of a block, which a kind of statement begins. -/
def block (statements : Reader (List Statement)) (opener : String) (start : Nat) :
    Reader (List Statement) := do
  sign ":"
  match ← peek with
  | ⟨.newline, _, _⟩ =>
    take
    match ← peek with
    | ⟨.indent, _, _⟩ =>
      take
      blockLines many
    | ⟨_, _, span⟩ =>
      throw ⟨"IndentationError", ("expected an indented block after " ++ opener ++ " on line "
        ++ toString start).toList, span⟩
  | _ => line many
where
  blockLines : Nat → Reader (List Statement)
    | 0 => return []
    | n + 1 => do
      match ← peek with
      | ⟨.dedent, _, _⟩ =>
        take
        return []
      | ⟨.ending, _, _⟩ => return []
      | _ =>
        let first ← statements
        return first ++ (← blockLines n)

abbrev Blocks := String → Nat → Reader (List Statement)

/-- A block that may stand behind another one, with its own word. -/
def otherBlock (blocks : Blocks) (w : String) : Reader (List Statement) := do
  let start := (← peek).span.line
  if ← word? w then blocks ("'" ++ w ++ "' statement") start else return []

/-- A test, which gives no values to names. -/
def condition : Reader Term := do
  let start := (← peek).span
  let t ← terms .named
  if ← isSign "=" then
    match t with
    | .name _ _ =>
      take
      let _ ← terms .sum
      failAt (← spanFrom start) "invalid syntax. Maybe you meant '==' or ':=' instead of '='?"
    | t => checkTarget start t
  return t

/-- Reads the body of a loop. -/
def loopBody (body : Reader (List Statement)) : Reader (List Statement) := do
  let outside := (← get).inLoop
  modify fun r => { r with inLoop := true }
  let b ← body
  modify fun r => { r with inLoop := outside }
  return b

/-- Reads the body of a function, or of a kind of objects. -/
def ownBody (isFunction : Bool) (body : Reader (List Statement)) : Reader (List Statement) := do
  let outside ← get
  modify fun r => { r with inLoop := false, inFunction := isFunction }
  let b ← body
  modify fun r => { r with inLoop := outside.inLoop, inFunction := outside.inFunction }
  return b

/-- A choice, behind its word. -/
def choice (blocks : Blocks) : Nat → String → Nat → Reader Statement
  | 0, _, _ => fail
  | n + 1, w, start => do
    let test ← condition
    let body ← blocks ("'" ++ w ++ "' statement") start
    let here := (← peek).span.line
    if ← word? "elif" then return .if' test body [← choice blocks n "elif" here]
    return .if' test body (← otherBlock blocks "else")

/-- What is done where something goes wrong. -/
def handlers (blocks : Blocks) :
    Nat → Reader (List (Span × Option Term × Option String × List Statement))
  | 0 => return []
  | n + 1 => do
    let start := (← peek).span
    if !(← word? "except") then return []
    let what ← if ← isSign ":" then pure none else pure (some (← wholeTerm terms))
    let bound ← if ← word? "as" then pure (some (← name)) else pure none
    let span ← spanFrom start
    let body ← blocks "'except' statement" start.line
    return (span, what, bound, body) :: (← handlers blocks n)

/-- A function, behind its word. -/
def definition (blocks : Blocks) (start : Span) (decorators : List Term) : Reader Statement := do
  let n ← name
  if !(← sign? "(") then fail "expected '('"
  let ps ← parameters terms ")" true many false
  if ← sign? "->" then
    let _ ← terms .test
  let span ← spanFrom start
  let outside ← modifyGet fun r => (r.yields, { r with yields := false })
  let body ← ownBody true (blocks "function definition" start.line)
  let yields ← modifyGet fun r => (r.yields, { r with yields := outside })
  return .define span n ps body yields decorators

def kindDefinition (blocks : Blocks) (start : Span) (decorators : List Term) :
    Reader Statement := do
  let n ← name
  let bases ← if ← sign? "(" then items ")" (argument terms) (lacksComma terms) else pure []
  let span ← spanFrom start
  let body ← ownBody false (blocks "class definition" start.line)
  return .kind span n bases body decorators

/-- What is opened for a body, and the name that it gets. -/
def opened : Reader (Term × Option Term) := do
  let t ← terms .test
  if ← word? "as" then return (t, some (← terms .sum))
  return (t, none)

/-- Terms that change what is defined behind them. -/
def decorators : Nat → Reader (List Term)
  | 0 => return []
  | n + 1 => do
    if !(← sign? "@") then return []
    let t ← terms .named
    match ← peek with
    | ⟨.newline, _, _⟩ => take
    | _ => fail
    return t :: (← decorators n)

/-- A statement with a body, or the statements of a line. -/
def compound (blocks : Blocks) : Reader (List Statement) := do
  let token ← peek
  let start := token.span
  match token.kind with
  | .indent => throw ⟨"IndentationError", "unexpected indent".toList, (← peekSecond).span⟩
  | .newline =>
    take
    return []
  | .sign =>
    if token.word != "@" then line many
    else
      let ds ← decorators many
      let start := (← peek).span
      if ← word? "class" then return [← kindDefinition blocks start ds]
      let _ ← word? "async"
      word "def"
      return [← definition blocks start ds]
  | .name =>
    match token.word with
    | "if" => take; return [← choice blocks many "if" start.line]
    | "while" =>
      take
      let test ← condition
      let body ← loopBody (blocks "'while' statement" start.line)
      return [.while' test body (← otherBlock blocks "else")]
    | "for" =>
      take
      let target ← targets terms
      word "in"
      let source ← wholeTerm terms
      let span := { start with endLine := start.line + 1 }
      let body ← loopBody (blocks "'for' statement" start.line)
      return [.for' span target source body (← otherBlock blocks "else")]
    | "try" =>
      take
      let body ← blocks "'try' statement" start.line
      let hs ← handlers blocks many
      let other ← otherBlock blocks "else"
      let isFinal ← isWord "finally"
      let final ← otherBlock blocks "finally"
      if hs.isEmpty && !isFinal then fail "expected 'except' or 'finally' block"
      return [.try' body hs other final]
    | "with" =>
      take
      let isGrouped ← isSign "("
      let before ← get
      let opening ← if isGrouped then grouped before else separated opened many
      let span ← spanFrom start
      return [.with' span opening (← blocks "'with' statement" start.line)]
    | "def" => take; return [← definition blocks start []]
    | "class" => take; return [← kindDefinition blocks start []]
    | _ => line many
  | _ => line many
where
  /-- What is opened in parentheses, unless these belong to a term. -/
  grouped (before : Rest) : Reader (List (Term × Option Term)) :=
    tryCatch (do
      take
      let all ← items ")" opened fail
      if ← isSign ":" then return all else fail) fun _ => do
        set before
        separated opened many

/-- Reads statements. The number bounds how deep blocks stand in one another. -/
def statements : Nat → Reader (List Statement)
  | 0 => fail "too many statically nested blocks"
  | fuel + 1 => compound (block (statements fuel))

/-- Reads all statements. -/
def all : Nat → Reader (List Statement)
  | 0 => return []
  | n + 1 => do
    match ← peek with
    | ⟨.ending, _, _⟩ => return []
    | ⟨.dedent, _, _⟩ =>
      take
      all n
    | _ =>
      let first ← statements 100
      return first ++ (← all n)

end Reader

/-- The statements of a recipe, with the lines in which a backslash stands for itself, or
why a text is none. -/
def ofText (t : Text) : Except Fault (List Statement × List (Nat × Char)) := do
  let tokens ← Token.ofText t
  let (statements, rest) ← (Reader.all Reader.many).run { tokens := tokens }
  match rest.late with
  | some f => throw f
  | none => return (statements, rest.warnings)

end Weave.Recipe
