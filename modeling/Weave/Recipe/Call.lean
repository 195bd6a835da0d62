import Weave.Recipe.Evaluate

/-!
# Calls

A call binds what a function is given to its parameters and runs its statements with
names of their own. A kind that is called makes an object.
-/
namespace Weave.Recipe

/-- Names in quotes, with commas and a last "and". -/
def enumerated (names : List String) : String :=
  let quoted := names.map fun n => "'" ++ n ++ "'"
  match quoted with
  | [] => ""
  | [a] => a
  | [a, b] => a ++ " and " ++ b
  | all => String.intercalate ", " all.dropLast ++ ", and " ++ (all.getLast?.getD "")

def plural (n : Nat) (word : String) : String :=
  toString n ++ " " ++ word ++ (if n = 1 then "" else "s")

/-- Gives the parameters of a function the values of a call. -/
def bindParameters (f : Function) (plain : List Value) (named : List (String × Value)) :
    Step (List (String × Value)) := do
  let ones := f.parameters.filter fun p => p.2.1 = .one
  let hasRest := f.parameters.any fun p => p.2.1 = .rest
  let hasNamedRest := f.parameters.any fun p => p.2.1 = .namedRest
  let byPosition := (ones.map Prod.fst).zip plain
  for (n, _) in named do
    let isKnown := f.parameters.any fun p => p.1 = n && (p.2.1 = .one || p.2.1 = .named)
    if (byPosition.lookup n).isSome then
      typeFault (f.fullName ++ "() got multiple values for argument '" ++ n ++ "'")
    if !isKnown && !hasNamedRest then
      typeFault (f.fullName ++ "() got an unexpected keyword argument '" ++ n ++ "'")
  if ones.length < plain.length && !hasRest then
    let standards := (ones.filter fun p => p.2.2.isSome).length
    let takes := if standards = 0 then plural ones.length "positional argument"
      else "from " ++ toString (ones.length - standards) ++ " to "
        ++ plural ones.length "positional argument"
    typeFault (f.fullName ++ "() takes " ++ takes ++ " but " ++ toString plain.length
      ++ (if plain.length = 1 then " was given" else " were given"))
  let missing (taking : Taking) : List String := f.parameters.filterMap fun (n, t, standard) =>
    if t = taking && standard.isNone && (byPosition.lookup n).isNone && (named.lookup n).isNone
    then some n else none
  match missing .one, missing .named with
  | [], [] => pure ()
  | [], names =>
    typeFault (f.fullName ++ "() missing " ++ toString names.length
      ++ " required keyword-only argument"
      ++ (if names.length = 1 then "" else "s") ++ ": " ++ enumerated names)
  | names, _ =>
    typeFault (f.fullName ++ "() missing " ++ toString names.length
      ++ " required positional argument"
      ++ (if names.length = 1 then "" else "s") ++ ": " ++ enumerated names)
  f.parameters.mapM fun (n, taking, standard) => do
    match taking with
    | .rest => return (n, .tuple (plain.drop ones.length))
    | .namedRest =>
      let others := named.filter fun e => !f.parameters.any fun p => p.1 = e.1
      return (n, ← makeDict others)
    | _ =>
      return (n, ((byPosition.lookup n).or (named.lookup n)).getD (standard.getD .none))

/-- How many functions can be at work at once. -/
def maxDepth : Nat := 1000

/-- Runs a function, and gives back what it returns. -/
def callFunction (again : Again) (number : Nat) (f : Function) (plain : List Value)
    (named : List (String × Value)) : Step Value := do
  let names ← bindParameters f plain named
  let outside ← get
  if maxDepth ≤ outside.depth then fail "RecursionError" "maximum recursion depth exceeded"
  let scope ← make (.scope { names := names, outer := some f.scope })
  let inner := match scope with
    | .object n => n
    | _ => f.scope
  modify fun s => { s with
    depth := s.depth + 1
    frame := { name := f.name, scope := inner, self := plain.head?.map fun v => (number, v) } }
  let back : Step (List Value) := modifyGet fun s =>
    (s.frame.handedOut, { s with depth := outside.depth, frame := outside.frame })
  let result ← tryCatch (do
    match f.deed with
    | .value t => again (.term t)
    | .body statements _ =>
      let _ ← again (.body statements)
      return .none) fun stop => do
    match stop with
    | .return' v => return v
    | .fault n =>
      let _ ← back
      modify fun s =>
        let before := (s.traces.lookup n).getD []
        { s with traces := (n, .own s.frame.name s.frame.place :: before)
          :: s.traces.filter fun e => e.1 != n }
      throw stop
    | stop => throw stop
  let handedOut ← back
  match f.deed with
  | .body _ true => make (.stream handedOut.reverse)
  | _ => return result

/-- The fields of a fault that a recipe makes. -/
def faultFields (s : State) (k : Nat) (plain : List Value) : List (String × Value) :=
  let args := [("args", Value.tuple plain)]
  if s.isKindOf k (faultNumber "OSError") then
    match plain with
    | number :: reason :: rest =>
      args ++ [("errno", number), ("strerror", reason), ("filename", rest.headD .none)]
    | _ => args
  else if s.isKindOf k (faultNumber "SystemExit") then
    args ++ [("code", match plain with
      | [] => .none
      | [v] => v
      | vs => .tuple vs)]
  else args

/-- Makes an object of a kind. -/
def makeOf (again : Again) (k : Nat) (plain : List Value) (named : List (String × Value)) :
    Step Value := do
  let s ← get
  let isFault := s.isKindOf k (faultNumber "BaseException")
  let fields := if isFault then faultFields s k plain else []
  let v ← make (.instance' k fields)
  match s.member? k "__init__" with
  | some f =>
    let _ ← again (.call (.bound v f) plain named)
    return v
  | none =>
    if !isFault && !(plain.isEmpty && named.isEmpty) then
      typeFault (Shown.lastName (s.kind k).name ++ "() takes no arguments")
    return v

/-- Calls a value. -/
def call (again : Again) (f : Value) (plain : List Value) (named : List (String × Value)) :
    Step Value := do
  let s ← get
  let refuse : Step Value := typeFault ("'" ++ s.kindName f ++ "' object is not callable")
  match f with
  | .known n =>
    match Known.table.lookup n with
    | some known => known ⟨again, plain, named⟩
    | none => refuse
  | .bound self g => again (.call g (self :: plain) named)
  | .object n =>
    match s.object? n with
    | some (.function g) => callFunction again n g plain named
    | some (.kind _) => makeOf again n plain named
    | _ =>
      match ← ownMethod? f "__call__" with
      | some g => again (.call g plain named)
      | none => refuse
  | _ => refuse

/-!
## Statements
-/

end Weave.Recipe
