import Weave.Recipe.Operation

/-!
# Giving values to terms

A value is given to a name, an attribute or an item, or the items of one value are given
to several terms. What is made of the items of a value gives each of them to a term.
-/
namespace Weave.Recipe

/-- The terms that stand for places, with where they stand. -/
def spanOf? : Term → Option Span
  | .name span _ => some span
  | .attribute span _ _ => some span
  | .index span _ _ => some span
  | .call span _ _ => some span
  | .binary span _ _ _ => some span
  | .compare span _ _ => some span
  | .unary span _ _ => some span
  | .list span _ => some span
  | .dict span _ => some span
  | _ => none

/-- The place from the first of some terms to the last one. -/
def spanOfAll (ts : List Term) : Option Span :=
  match ts.head?.bind spanOf?, ts.getLast?.bind spanOf? with
  | some a, some b => some { a with endLine := b.endLine, endColumn := b.endColumn, focus := none }
  | _, _ => none

def reachTerm (t : Term) : Step Unit := do
  match spanOf? t with
  | some span => reach span
  | none => return ()

/-- The values of terms, where a term can stand for many of them. -/
def valuesOf (again : Again) : List Term → Step (List Value)
  | [] => return []
  | .spread t :: ts => do
    let v ← again (.term t)
    let xs ← itemsOf again v
    return xs ++ (← valuesOf again ts)
  | t :: ts => do
    let v ← again (.term t)
    return v :: (← valuesOf again ts)

/-- The values that a call is given by position and by name. -/
def givenValues (again : Again) : List Term → Step (List Value × List (String × Value))
  | [] => return ([], [])
  | t :: ts => do
    match t with
    | .spread t =>
      let xs ← itemsOf again (← again (.term t))
      let (plain, named) ← givenValues again ts
      return (xs ++ plain, named)
    | .spreadNamed t =>
      let v ← again (.term t)
      let entries ← match v with
        | .object n => entriesOf n
        | _ => typeFault "argument after ** must be a mapping"
      let own := entries.toList.filterMap fun e => match e.1 with
        | .text k => some (String.ofList k, e.2)
        | _ => none
      let (plain, named) ← givenValues again ts
      return (plain, own ++ named)
    | .named n t =>
      let v ← again (.term t)
      let (plain, named) ← givenValues again ts
      return (plain, (n, v) :: named)
    | t =>
      let v ← again (.term t)
      let (plain, named) ← givenValues again ts
      return (v :: plain, named)

/-- Gives the items of a value to terms, one by one, in a way that is given. -/
def assignAll (again : Again) (assign : Term → Value → Step Unit) (ts : List Term) (v : Value) :
    Step Unit := do
  if let some span := spanOfAll ts then reach span
  let s ← get
  let refuse : Step Unit := typeFault ("cannot unpack non-iterable " ++ s.kindName v ++ " object")
  let xs ← tryCatch (itemsOf again v) fun stop => do
    match stop with
    | .fault n =>
      match ← fieldsOf (.object n) with
      | ("args", .tuple [.text m]) :: _ =>
        if Text.endsWith "object is not iterable".toList m then refuse
      | _ => pure ()
      throw stop
    | stop => throw stop
  let isSpread (t : Term) : Bool := match t with
    | .spread _ => true
    | _ => false
  match ts.findIdx? isSpread with
  | none =>
    if xs.length < ts.length then
      fail "ValueError" ("not enough values to unpack (expected " ++ toString ts.length ++ ", got "
        ++ toString xs.length ++ ")")
    if ts.length < xs.length then
      fail "ValueError" ("too many values to unpack (expected " ++ toString ts.length ++ ")")
    for (t, x) in ts.zip xs do assign t x
  | some i =>
    let behind := ts.length - i - 1
    if xs.length < ts.length - 1 then
      fail "ValueError" ("not enough values to unpack (expected at least "
        ++ toString (ts.length - 1) ++ ", got " ++ toString xs.length ++ ")")
    for (t, x) in (ts.take i).zip xs do assign t x
    let middle ← makeList ((xs.drop i).take (xs.length - i - behind))
    if let some (.spread t) := ts[i]? then assign t middle
    for (t, x) in (ts.drop (i + 1)).zip (xs.drop (xs.length - behind)) do assign t x

/-- Gives a value to what a term stands for. The number bounds how deep targets stand in
one another. -/
def assign (again : Again) : Nat → Term → Value → Step Unit
  | 0, _, _ => return ()
  | fuel + 1, target, v => do
    match target with
    | .name _ n => bindName n v
    | .attribute span t n =>
      let o ← again (.term t)
      reach span
      setAttribute o n v
    | .index span t i =>
      let o ← again (.term t)
      let k ← again (.term i)
      reach span
      setIndexed again o k v
    | .tuple ts => assignAll again (assign again fuel) ts v
    | .list _ ts => assignAll again (assign again fuel) ts v
    | .spread t => assign again fuel t v
    | _ => return ()

/-- Runs something among names of its own. -/
def inScope {α : Type} (c : Scope) (act : Step α) : Step α := do
  let v ← make (.scope c)
  let outside := (← get).frame.scope
  let inside := match v with
    | .object n => n
    | _ => outside
  modify fun s => { s with frame := { s.frame with scope := inside } }
  let back : Step Unit := modify fun s => { s with frame := { s.frame with scope := outside } }
  let r ← tryCatch act fun stop => do
    back
    throw stop
  back
  return r

/-- Does something for all items that clauses tell of. -/
def forClauses (again : Again) (act : Step Unit) : List (Option Term × Term) → Step Unit
  | [] => act
  | (none, test) :: rest => do
    if ← truth again (← again (.term test)) then forClauses again act rest
  | (some target, source) :: rest => do
    let v ← again (.term source)
    let _ ← eachItem again v fun x => do
      assign again 20 target x
      forClauses again act rest
      return true

/-- What a term makes of the items that clauses tell of. -/
def build (again : Again) (how : Build) (item value : Term)
    (clauses : List (Option Term × Term)) : Step Value := do
  let goal ← make (if how = .dict then .dict #[] else .list #[])
  let n := match goal with
    | .object n => n
    | _ => 0
  inScope { outer := some (← get).keptScope } (forClauses again (do
    let k ← again (.term item)
    match how with
    | .dict =>
      let v ← again (.term value)
      setEntry n k v
    | _ => modify fun s => match s.object? n with
      | some (.list xs) => s.put n (.list (xs.push k))
      | _ => s) clauses)
  match how with
  | .dict => return goal
  | .list => return goal
  | .stream => make (.stream (← listOf n).toList)
  | .set =>
    let items := (← listOf n).toList
    for x in items do checkKey x
    make (.set ((← get).distinct items) false)

end Weave.Recipe
