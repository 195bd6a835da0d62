import Weave.Record.Read.Term

/-!
# Reading programs for records

A program holds rules and functions. What is wrong with it is told with its line.
-/
namespace Weave.Record

namespace Reading

/-- Where something is printed to, if that is told. -/
def goal? (fuel : Nat) : Reading (Option (Sink × Term)) := do
  let go (sink : Sink) : Reading (Option (Sink × Term)) := do
    take
    return some (sink, ← level fuel 5 { prints := true })
  match ← peek? with
  | some (.sign ">") => go .file
  | some (.sign ">>") => go .end'
  | some (.sign "|") => go .command
  | _ => return none

/-- The values that are printed, and where to. -/
def printed (fuel : Nat) : Reading (List Term × Option (Sink × Term)) := do
  let endsList : Reading Bool := do
    return (← isEnd) || (← isSign ">") || (← isSign ">>") || (← isSign "|")
  let start ← get
  let whole : Reading (Option (List Term)) := do
    if ← endsList then return some []
    if !(← isSign "(") then return none
    let all ← arguments fuel
    return if ← endsList then some all else none
  match whole.run start with
  | .ok (some all, rest) =>
    set rest
    return (all, ← goal? fuel)
  | _ =>
    let all ← list fuel { prints := true }
    return (all, ← goal? fuel)

/-- A statement that holds no others. -/
def simpleStatement (fuel : Nat) : Reading Statement := do
  match ← word? with
  | none => return .term (← term fuel {})
  | some word =>
    match String.ofList word with
    | "print" => do
      take
      let (values, goal) ← printed fuel
      return .print values goal
    | "printf" => do
      take
      let (values, goal) ← printed fuel
      if values.isEmpty then unexpected
      return .printf values goal
    | "delete" => do
      take
      let table ← name
      if ← sign? "[" then
        let key ← list fuel {}
        sign "]"
        return .delete table (some key)
      return .delete table none
    | "next" => do
      take
      return .next
    | "nextfile" => do
      take
      return .nextFile
    | "break" => do
      take
      return .break'
    | "continue" => do
      take
      return .continue'
    | "exit" => do
      take
      if ← isEnd then return .exit none
      return .exit (some (← term fuel {}))
    | "return" => do
      take
      if ← isEnd then return .return' none
      return .return' (some (← term fuel {}))
    | _ => return .term (← term fuel {})

/-- What stands in the parentheses of a loop that goes over the keys of a table, if they
hold that. -/
def keysOf? : Reading (Option (Bytes × Bytes)) := do
  match (← get).take 5 with
  | [⟨.sign "(", _⟩, ⟨.name n, _⟩, ⟨.name ['i', 'n'], _⟩, ⟨.name table, _⟩, ⟨.sign ")", _⟩] =>
    modify (List.drop 5)
    return some (n, table)
  | _ => return none

mutual

/-- A statement with what ends it. -/
def statement : Nat → Reading Statement
  | 0 => unexpected
  | fuel + 1 => do
    if ← sign? "\x7b" then return .block (← block fuel)
    if ← sign? ";" then return .nothing
    if ← wordIs? "if" then
      let condition ← condition fuel
      let yes ← statement fuel
      let start ← get
      skipEnds
      if ← wordIs? "else" then
        skipLines
        return .choice condition yes (← statement fuel)
      else
        set start
        return .choice condition yes .nothing
    if ← wordIs? "while" then
      let condition ← condition fuel
      return .whilst condition (← statement fuel)
    if ← wordIs? "do" then
      skipLines
      let inner ← statement fuel
      skipEnds
      if !(← wordIs? "while") then unexpected
      sign "("
      let condition ← term fuel {}
      sign ")"
      statementEnd
      return .until' inner condition
    if ← wordIs? "for" then
      if let some (n, table) ← keysOf? then
        skipLines
        return .each n table (← statement fuel)
      sign "("
      let part (close : String) : Reading Statement := do
        if ← sign? close then return .nothing
        let s ← simpleStatement fuel
        sign close
        return s
      let first ← part ";"
      skipLines
      let test ← if ← sign? ";" then pure none
        else do
          let t ← term fuel {}
          sign ";"
          pure (some t)
      skipLines
      let step ← part ")"
      skipLines
      return .loop first test step (← statement fuel)
    let s ← simpleStatement fuel
    statementEnd
    return s

/-- A condition in its parentheses. -/
def condition : Nat → Reading Term
  | 0 => unexpected
  | fuel + 1 => do
    sign "("
    skipLines
    let t ← term fuel {}
    skipLines
    sign ")"
    skipLines
    return t

/-- The statements up to the closing brace. -/
def block : Nat → Reading (List Statement)
  | 0 => unexpected
  | fuel + 1 => do
    skipEnds
    if ← sign? "\x7d" then return []
    if (← peek?).isNone then fail fun _ => .lacksBrace
    let s ← statement fuel
    return s :: (← block fuel)

end

/-- The statements of a rule, if it has any. -/
def act? (fuel : Nat) : Reading (Option Statement) := do
  if ← sign? "\x7b" then return some (.block (← block fuel)) else return none

def rule (fuel : Nat) : Reading Rule := do
  let required : Reading (Option Statement) := do
    let start ← get
    match ← act? fuel with
    | some s =>
      let used := start.take (start.length - (← get).length)
      let misplaced := used.find? fun p => match p.token with
        | .name t => t = "next".toList || t = "nextfile".toList
        | _ => false
      match misplaced with
      | some p => throw (.improper p.token.shown, p.line)
      | none => return some s
    | none => unexpected
  if ← wordIs? "BEGIN" then return ⟨.first, ← required⟩
  if ← wordIs? "END" then return ⟨.last, ← required⟩
  if ← isSign "\x7b" then return ⟨.every, ← act? fuel⟩
  if ← isSign "\x7d" then fail fun _ => .extraBrace
  let first ← term fuel {}
  if ← sign? "," then
    skipLines
    let last ← term fuel {}
    return ⟨.range first last, ← act? fuel⟩
  return ⟨.those first, ← act? fuel⟩

/-- The names of parameters up to the closing parenthesis. -/
def parameters : Nat → Reading (List Bytes)
  | 0 => unexpected
  | fuel + 1 => do
    let n ← name
    skipLines
    if ← sign? "," then
      skipLines
      return n :: (← parameters fuel)
    sign ")"
    return [n]

def function (fuel : Nat) : Reading Function := do
  let some n ← word? | unexpected
  take
  sign "("
  skipLines
  let parameters ← if ← sign? ")" then pure [] else parameters fuel
  skipLines
  sign "\x7b"
  return ⟨n, parameters, .block (← block fuel)⟩

/-- The rules and functions of a program. -/
def items (deep : Nat) : Nat → Program → Reading Program
  | 0, p => return p
  | fuel + 1, p => do
    skipEnds
    if (← peek?).isNone then return p
    if (← wordIs? "function") || (← wordIs? "func") then
      let f ← function deep
      items deep fuel { p with functions := p.functions ++ [f] }
    else
      let r ← rule deep
      items deep fuel { p with rules := p.rules ++ [r] }

end Reading

/-- The line that is told for what is wrong at the end. -/
def lastLine (t : Bytes) : Nat := t.count '\n' + 1

/-- Reads a program, or tells what is wrong with it and where. -/
def Program.read (t : Bytes) : Except (Fault × Nat) Program := do
  let tokens ← Token.ofText t
  match (Reading.items (20 * tokens.length + 100) (tokens.length + 1) ⟨[], []⟩).run tokens with
  | .ok (p, _) =>
    let isMissing (n : Bytes) : Bool :=
      !Reading.isReserved n && (Reading.knownFunctions.lookup (String.ofList n)).isNone
        && !p.functions.any fun f => f.name = n
    let missing := tokens.filterMap fun t => match t.token with
      | .call n => if isMissing n then some (n, t.line) else none
      | _ => none
    match missing with
    | (n, _) :: _ => throw (.unknownFunction n, lastLine t + 1)
    | [] => return p
  | .error (f, 0) => throw (f, lastLine t + if f = .lacksBrace then 1 else 0)
  | .error e => throw e

end Weave.Record
