import Weave.Recipe.Giving

/-!
# The values of terms

The value of a term is worked out from those of its parts, from left to right.
-/
namespace Weave.Recipe

/-- Compares values one after the other, as long as all fit. -/
def compareAll (again : Again) (span : Span) (a : Value) : List (String × Term) → Step Value
  | [] => return .bool true
  | (op, t) :: rest => do
    let b ← again (.term t)
    reach span
    let fits ← compare again op a b
    if fits && !rest.isEmpty then compareAll again span b rest else return .bool fits

/-- The object that a function works on, behind which methods of other kinds are found. -/
def innerView : Step Value := do
  match (← get).frame.self with
  | some (f, self) => return .bound (.tuple [self, .int f]) (.known "super")
  | none => fail "RuntimeError" "super(): no arguments"

/-- The names of a scope as a dictionary. -/
def namesOf (scope : Nat) : Step Value := do
  makeDict ((← get).scope scope).names

/-- The parameters of a function with the values that they have where none is given. -/
def parametersOf (again : Again) :
    List (String × Taking × Option Term) → Step (List (String × Taking × Option Value))
  | [] => return []
  | (n, taking, standard) :: ps => do
    let v ← match standard with
      | some t => pure (some (← again (.term t)))
      | none => pure none
    return (n, taking, v) :: (← parametersOf again ps)

/-- The name of something that is defined here, with those of what it is defined in. -/
def fullName (name : String) : Step String := do
  let s ← get
  let c := s.scope s.frame.scope
  if s.frame.scope = topScope then return name
  if c.isKind then return s.frame.name ++ "." ++ name
  return s.frame.name ++ ".<locals>." ++ name

/-- The value of a term. -/
def evaluate (again : Again) (t : Term) : Step Value := do
  match t with
  | .none => return .none
  | .bool b => return .bool b
  | .int n => return .int n
  | .float x => return .float x
  | .text t => return .text t
  | .bytes t => return .bytes t
  | .dots => return .dots
  | .name span n =>
    reach span
    lookUp n
  | .joined parts =>
    let shown ← parts.mapM fun part => do
      match ← again (.term part) with
      | .text t => return t
      | _ => return []
    return .text shown.flatten
  | .shown span t conversion format =>
    let v ← again (.term t)
    let l ← match ← again (.term format) with
      | .text l => pure l
      | _ => pure []
    let w ← Known.converted again v conversion
    reach span
    return .text (← laidOut again w l)
  | .tuple ts => return .tuple (← valuesOf again ts)
  | .list _ ts => makeList (← valuesOf again ts)
  | .set ts =>
    let items ← valuesOf again ts
    for x in items do checkKey x
    make (.set ((← get).distinct items) false)
  | .dict span entries =>
    let v ← make (.dict #[])
    if let .object n := v then
      for (k, x) in entries do
        match k with
        | .spreadNamed t =>
          let _ ← again (.call (.known "dict.update") [v, ← again (.term t)] [])
        | k =>
          let key ← again (.term k)
          let value ← again (.term x)
          reach span
          setEntry n key value
    return v
  | .spread _ => typeFault "can't use starred expression here"
  | .spreadNamed _ => typeFault "can't use starred expression here"
  | .named _ t => again (.term t)
  | .unary span op t =>
    let v ← again (.term t)
    reach span
    unary again op v
  | .binary span op a b =>
    let x ← again (.term a)
    let y ← again (.term b)
    reach span
    combine again op (if op = "**" then "** or pow()" else op) x y
  | .both a b =>
    let x ← again (.term a)
    if ← truth again x then again (.term b) else return x
  | .either a b =>
    let x ← again (.term a)
    if ← truth again x then return x else again (.term b)
  | .not t => return .bool (!(← truth again (← again (.term t))))
  | .compare span first rest => compareAll again span (← again (.term first)) rest
  | .choice test a b =>
    if ← truth again (← again (.term test)) then again (.term a) else again (.term b)
  | .call span f arguments =>
    let v ← again (.term f)
    let (plain, named) ← givenValues again arguments
    reach span
    match v with
    | .known "super" => innerView
    | .known "globals" => namesOf topScope
    | .known "locals" => namesOf (← get).frame.scope
    | v => again (.call v plain named)
  | .attribute span t n =>
    let v ← again (.term t)
    reach span
    attributeOf v n
  | .index span t i =>
    let v ← again (.term t)
    let k ← again (.term i)
    reach span
    indexed again v k
  | .slice a b c =>
    return .slice (← again (.term a)) (← again (.term b)) (← again (.term c))
  | .function ps body =>
    let parameters ← parametersOf again ps
    make (.function ⟨"<lambda>", ← fullName "<lambda>", parameters, .value body, (← get).keptScope⟩)
  | .build how item value clauses => build again how item value clauses
  | .bind n t =>
    let v ← again (.term t)
    bindName n v
    return v
  | .yield t =>
    let v ← again (.term t)
    modify fun s => { s with frame := { s.frame with handedOut := v :: s.frame.handedOut } }
    return .none
  | .yieldAll t =>
    let xs ← itemsOf again (← again (.term t))
    modify fun s =>
      { s with frame := { s.frame with handedOut := xs.reverse ++ s.frame.handedOut } }
    return .none

/-!
## Calls
-/

end Weave.Recipe
