import Weave.Recipe.Call

/-!
# Statements

A statement changes what is there or says which statement comes next. A fault goes
through all that is open until something handles it.
-/
namespace Weave.Recipe

/-- Runs the inside of a loop, and tells whether the loop goes on. -/
def turn (act : Step Unit) : Step Bool :=
  tryCatch (do
    act
    return true) fun stop => do
      match stop with
      | .break' => return false
      | .continue' => return true
      | stop => throw stop

/-- Runs a body as long as a test holds; the answer is whether the test ended that. -/
def whileTrue (test : Step Bool) (body : Step Unit) : Nat → Step Bool
  | 0 => return true
  | n + 1 => do
    if ← test then
      if ← turn body then whileTrue test body n else return false
    else return true

/-- Goes over to the handling of a fault that a value stands for: an object, or a kind of
which one is made. -/
def raiseValue (again : Again) (v : Value) : Step Nat := do
  let s ← get
  let refuse : Step Nat := typeFault "exceptions must derive from BaseException"
  match v with
  | .object n =>
    match s.object? n with
    | some (.instance' k _) =>
      if s.isKindOf k (faultNumber "BaseException") then return n else refuse
    | some (.kind _) =>
      if s.isKindOf n (faultNumber "BaseException") then
        match ← again (.call v [] []) with
        | .object m => return m
        | _ => refuse
      else refuse
    | _ => refuse
  | _ => refuse

/-- Whether a fault is of one of some kinds. -/
def fits (kinds : Value) (n : Nat) : Step Bool := do
  let s ← get
  return (Known.kindsOf 20 kinds).any fun k => Known.isOfKind s (.object n) k

/-- Runs the first handler that fits a fault, if one does. -/
def handle (again : Again) (n : Nat) :
    List (Span × Option Term × Option String × List Statement) → Step Unit
  | [] => throw (.fault n)
  | (_, what, bound, body) :: rest => do
    let isOurs ← match what with
      | none => pure true
      | some t => do fits (← again (.term t)) n
    if isOurs then
      if let some name := bound then bindName name (.object n)
      let before := (← get).handling
      modify fun s => { s with handling := n :: s.handling }
      let clean : Step Unit := do
        modify fun s => { s with handling := before }
        if let some name := bound then
          let s ← get
          if ((s.scope s.frame.scope).names.lookup name).isSome then unbindName name
      tryCatch (do
        let _ ← again (.body body)) fun stop => do
          clean
          throw stop
      clean
    else handle again n rest

/-- Runs something, and another thing behind it in any case. -/
def finally' (act final : Step Unit) : Step Unit := do
  let stop ← tryCatch (do
    act
    return none) fun stop => return some stop
  let before := (← get).handling
  match stop with
  | some (.fault n) =>
    modify fun s => { s with handling := n :: s.handling }
    final
    modify fun s => { s with handling := before }
  | _ => final
  match stop with
  | some stop => throw stop
  | none => return ()

/-- Runs a body with things that are opened before and closed behind it. -/
def withOpened (again : Again) (span : Span) (body : Step Unit) :
    List (Term × Option Term) → Step Unit
  | [] => body
  | (t, target) :: rest => do
    let v ← again (.term t)
    reachTerm t
    let s ← get
    let (enter, leave) ← match ← attribute? v "__enter__", ← attribute? v "__exit__" with
      | some a, some b => pure (a, b)
      | _, _ =>
        typeFault ("'" ++ s.kindName v ++ "' object does not support the context manager protocol")
    let inner ← again (.call enter [] [])
    if let some target := target then assign again 20 target inner
    let stop ← tryCatch (do
      withOpened again span body rest
      return none) fun stop => return some stop
    match stop with
    | some (.fault n) =>
      let kind := Known.kindValue (← get) (.object n)
      let before := (← get).handling
      modify fun s => { s with handling := n :: s.handling }
      let r ← again (.call leave [kind, .object n, .none] [])
      modify fun s => { s with handling := before }
      if !(← truth again r) then throw (.fault n)
    | some stop =>
      let _ ← again (.call leave [.none, .none, .none] [])
      throw stop
    | none =>
      let _ ← again (.call leave [.none, .none, .none] [])

/-- Modules that give names alone. -/
def emptyModules : List String := ["typing", "__future__"]

def missingModule {α : Type} (name : String) : Step α := do
  raise (← makeFault "ModuleNotFoundError" [.text ("No module named '" ++ name ++ "'").toList]
    [("name", .text name.toList)])

/-- A module by its name. -/
def moduleOf (name : String) : Step Value := do
  if Known.modules.contains name then return .module name
  let parts := name.splitOn "."
  match parts with
  | first :: _ :: _ =>
    if Known.modules.contains first then
      missingModule (name ++ "'; '" ++ first ++ "' is not a package")
    missingModule first
  | _ => missingModule name

/-- Wraps what has been defined by the values of terms, the nearest first. -/
def decorated (again : Again) (v : Value) : List Value → Step Value
  | [] => return v
  | f :: fs => do decorated again (← again (.call f [v] [])) fs

/-- Runs a statement. -/
def execute (again : Again) (statement : Statement) : Step Unit := do
  let body (statements : List Statement) : Step Unit := do
    let _ ← again (.body statements)
  match statement with
  | .term t =>
    let _ ← again (.term t)
  | .give span targets t =>
    let v ← again (.term t)
    for target in targets do
      reach span
      assign again 20 target v
  | .update span target op t =>
    match target with
    | .attribute place o n =>
      let object ← again (.term o)
      reach place
      let old ← attributeOf object n
      let x ← again (.term t)
      reach span
      setAttribute object n (← update again op old x)
    | .index place o i =>
      let object ← again (.term o)
      let k ← again (.term i)
      reach place
      let old ← indexed again object k
      let x ← again (.term t)
      reach span
      setIndexed again object k (← update again op old x)
    | target =>
      let old ← again (.term target)
      let x ← again (.term t)
      reach span
      assign again 20 target (← update again op old x)
  | .delete _ targets =>
    for target in targets do
      match target with
      | .name span n =>
        reach span
        unbindName n
      | .attribute span t n =>
        let v ← again (.term t)
        reach span
        removeAttribute v n
      | .index span t i =>
        let v ← again (.term t)
        let k ← again (.term i)
        reach span
        removeIndexed again v k
      | _ => return ()
  | .pass => return ()
  | .break' => throw .break'
  | .continue' => throw .continue'
  | .return' t => throw (.return' (← again (.term t)))
  | .raise span what cause =>
    match what with
    | none =>
      reach span
      match (← get).handling.head? with
      | some n => throw (.fault n)
      | none => fail "RuntimeError" "No active exception to reraise"
    | some t =>
      let v ← again (.term t)
      let n ← raiseValue again v
      if let some c := cause then
        match ← again (.term c) with
        | .none => modify fun s => { s with causes := (n, n, false) :: s.causes }
        | w =>
          let m ← raiseValue again w
          modify fun s => { s with causes := (n, m, true) :: s.causes }
      reach span
      raise n
  | .outer isGlobal names =>
    modify fun s =>
      let c := s.scope s.frame.scope
      let goal (name : String) : Nat :=
        if isGlobal then topScope else holder s 100 (c.outer.getD topScope) name
      s.put s.frame.scope (.scope { c with
        elsewhere := names.map (fun n => (n, goal n)) ++ c.elsewhere })
  | .import' span modules =>
    for (name, rename) in modules do
      reach span
      let v ← moduleOf name
      match rename with
      | some n => bindName n v
      | none =>
        let first := (name.splitOn ".").headD name
        bindName first (.module first)
  | .importFrom span module names =>
    reach span
    let _ ← moduleOf module
    for (name, rename) in names do
      if !emptyModules.contains module then
        match moduleMember? (← get) module name with
        | some v => bindName (rename.getD name) v
        | none =>
          fail "ImportError" ("cannot import name '" ++ name ++ "' from '" ++ module ++ "'")
      else bindName (rename.getD name) .none
  | .assert span test message =>
    if !(← truth again (← again (.term test))) then
      let arguments ← match message with
        | some t => do
          let v ← again (.term t)
          pure [v]
        | none => pure []
      match spanOf? test with
      | some place => reach place
      | none => reach span
      raise (← makeFault "AssertionError" arguments [])
  | .if' test yes no =>
    if ← truth again (← again (.term test)) then body yes else body no
  | .while' test inside other =>
    let ended ← whileTrue (do truth again (← again (.term test))) (body inside) maxItems
    if ended then body other
  | .for' span target source inside other =>
    let v ← again (.term source)
    reach span
    let ended ← eachItem again v fun x => do
      assign again 20 target x
      turn (body inside)
    if ended then body other
  | .try' inside handlers other final =>
    let main : Step Unit := do
      let stop ← tryCatch (do
        body inside
        return none) fun stop => return some stop
      match stop with
      | some (.fault n) => handle again n handlers
      | some stop => throw stop
      | none => body other
    if final.isEmpty then main else finally' main (body final)
  | .with' span opening inside => withOpened again span (body inside) opening
  | .define _ name ps statements yields decorators =>
    let wrappers ← valuesOf again decorators
    let parameters ← parametersOf again ps
    let full ← fullName name
    let v ← make (.function ⟨name, full, parameters, .body statements yields, (← get).keptScope⟩)
    bindName name (← decorated again v wrappers.reverse)
  | .kind _ name bases statements decorators =>
    let wrappers ← valuesOf again decorators
    let (above, _) ← givenValues again bases
    let numbers := above.filterMap fun v => match v with
      | .object n => some n
      | _ => none
    let scope ← make (.scope { outer := some (← get).keptScope, isKind := true })
    let inner := match scope with
      | .object n => n
      | _ => topScope
    let outside := (← get).frame
    modify fun s => { s with frame := { name := name, scope := inner } }
    let back : Step Unit := modify fun s => { s with frame := outside }
    tryCatch (body statements) fun stop => do
      back
      throw stop
    back
    let members := ((← get).scope inner).names
    let v ← make (.kind ⟨name, numbers, members⟩)
    bindName name (← decorated again v wrappers.reverse)
where
  /-- The nearest scope outside that has a name. -/
  holder (s : State) : Nat → Nat → String → Nat
    | 0, scope, _ => scope
    | fuel + 1, scope, name =>
      let c := s.scope scope
      if (c.names.lookup name).isSome then scope
      else
        match c.outer with
        | some outer => holder s fuel outer name
        | none => scope

/-!
## Running recipes

Every step of a run is given the run as a whole, which it asks for what lies deeper.
-/

/-- How deep a run can go. -/
def maxRun : Nat := 1000000

/-- A run as a whole. The number bounds how deep it goes. -/
def run : Nat → Again
  | 0, _ => fail "RecursionError" "maximum recursion depth exceeded"
  | fuel + 1, request =>
    let again := run fuel
    match request with
    | .term t => evaluate again t
    | .body statements => do
      for statement in statements do execute again statement
      return .none
    | .call f plain named => call again f plain named
    | .attribute v name => attributeOf v name
    | .index v i => indexed again v i

end Weave.Recipe
