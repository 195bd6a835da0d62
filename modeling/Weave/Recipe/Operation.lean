import Weave.Recipe.Attribute

/-!
# Operations of recipes

What an operation does depends on the values that it is applied to: numbers are counted
with, and collections are put together.
-/
namespace Weave.Recipe

/-- The methods that kinds of objects can have for operations. -/
def operationMethods : List (String × String) :=
  [("+", "add"), ("-", "sub"), ("*", "mul"), ("/", "truediv"), ("//", "floordiv"), ("%", "mod"),
   ("**", "pow"), ("&", "and"), ("|", "or"), ("^", "xor"), ("<<", "lshift"), (">>", "rshift"),
   ("@", "matmul")]

def repeated (again : Again) (v : Value) (n : Int) : Step (Option Value) := do
  let times {α : Type} (xs : List α) : List α := (List.replicate n.toNat xs).flatten
  match v with
  | .text t => return some (.text (times t))
  | .bytes t => return some (.bytes (times t))
  | .tuple xs => return some (.tuple (times xs))
  | .object m =>
    match (← get).object? m with
    | some (.list xs) => return some (← makeList (times xs.toList))
    | _ => return none
  | _ =>
    let _ := again
    return none

/-- The result of an operation on two objects, if they have it. -/
def onObjects (op : String) (n m : Nat) : Step (Option Value) := do
  let s ← get
  match s.object? n, s.object? m with
  | some (.list xs), some (.list ys) =>
    if op = "+" then return some (← make (.list (xs ++ ys))) else return none
  | some (.set xs isFixed), some (.set ys _) =>
    if ["|", "&", "-", "^"].contains op then
      return some (← make (.set (Known.combineSets s op xs ys) isFixed))
    return none
  | some (.dict es), some (.dict fs) =>
    if op = "|" then
      return some (← make (.dict (fs.foldl (fun es f => s.withEntry es f.1 f.2) es)))
    return none
  | _, _ => return none

/-- Puts values into a text with percent signs. -/
def formatted (again : Again) (t : Text) (v : Value) : Step Text := do
  match v with
  | .tuple vs => Known.percent again (t.length + 1) t vs none
  | .object n =>
    match (← get).object? n with
    | some (.dict _) => Known.percent again (t.length + 1) t [] (some n)
    | _ => Known.percent again (t.length + 1) t [v] none
  | v => Known.percent again (t.length + 1) t [v] none

/-- The result of an operation, if the values have it. -/
def combined? (again : Again) (op : String) (a b : Value) : Step (Option Value) := do
  match Number.ofValue? a, Number.ofValue? b with
  | some x, some y =>
    match a, b, Known.isBoolean op with
    | .bool p, .bool q, true =>
      return some (.bool (if op = "&" then p && q else if op = "|" then p || q else p != q))
    | _, _, _ =>
      match Number.combine op x y with
      | .ok n => return some n.toValue
      | .error (.fault kind message) => fail kind message
      | .error .none => return none
  | _, _ =>
    match op, a, b with
    | "+", .text t, .text u => return some (.text (t ++ u))
    | "+", .bytes t, .bytes u => return some (.bytes (t ++ u))
    | "+", .tuple xs, .tuple ys => return some (.tuple (xs ++ ys))
    | "%", .text t, v => return some (.text (← formatted again t v))
    | "%", .bytes t, v => return some (.bytes (← formatted again t v))
    | "*", v, .int n => repeated again v n
    | "*", .int n, v => repeated again v n
    | "*", v, .bool p => repeated again v (if p then 1 else 0)
    | "/", .path p, .path q => return some (Known.pathValue (Known.joinPaths p q))
    | "/", .path p, .text q => return some (Known.pathValue (Known.joinPaths p q))
    | "/", .text p, .path q => return some (Known.pathValue (Known.joinPaths p q))
    | op, .object n, .object m => onObjects op n m
    | op, .facet .keys _, b => do
      let xs ← itemsOf again a
      let ys ← itemsOf again b
      let s ← get
      return some (← make (.set (Known.combineSets s op xs.toArray ys.toArray) false))
    | _, _, _ => return none

/-- The result of an operation. `shownOp` is what it is called where there is none. -/
def combine (again : Again) (op shownOp : String) (a b : Value) : Step Value := do
  if let some r ← combined? again op a b then return r
  let method := (operationMethods.lookup op).getD ""
  if let some f ← ownMethod? a ("__" ++ method ++ "__") then return ← again (.call f [b] [])
  if let some f ← ownMethod? b ("__r" ++ method ++ "__") then return ← again (.call f [a] [])
  let s ← get
  let kinds := "'" ++ s.kindName a ++ "' and '" ++ s.kindName b ++ "'"
  match op, a with
  | "+", .text _ =>
    typeFault ("can only concatenate str (not \"" ++ s.kindName b ++ "\") to str")
  | "+", .tuple _ =>
    typeFault ("can only concatenate tuple (not \"" ++ s.kindName b ++ "\") to tuple")
  | "+", .bytes _ => typeFault ("can't concat " ++ s.kindName b ++ " to bytes")
  | _, _ =>
    let isSequence (v : Value) : Bool := ["list", "str", "tuple", "bytes"].contains (s.kindName v)
    if op = "+" && s.kindName a = "list" then
      typeFault ("can only concatenate list (not \"" ++ s.kindName b ++ "\") to list")
    if op = "*" && (isSequence a || isSequence b) then
      let other := if isSequence a then b else a
      typeFault ("can't multiply sequence by non-int of type '" ++ s.kindName other ++ "'")
    typeFault ("unsupported operand type(s) for " ++ shownOp ++ ": " ++ kinds)

/-- The new value of something that an operation changes; some objects are changed
themselves. -/
def update (again : Again) (op : String) (a b : Value) : Step Value := do
  let s ← get
  match op, a with
  | "+", .object n =>
    match s.object? n with
    | some (.list xs) =>
      let more ← itemsOf again b
      modify fun s => s.put n (.list (xs ++ more.toArray))
      return a
    | _ =>
      match ← ownMethod? a "__iadd__" with
      | some f => again (.call f [b] [])
      | none => combine again op (op ++ "=") a b
  | "|", .object n =>
    match s.object? n, ← combined? again op a b with
    | some (.dict _), some (.object m) =>
      modify fun s => s.put n ((s.object? m).getD (.dict #[]))
      return a
    | some (.set _ false), some (.object m) =>
      modify fun s => s.put n ((s.object? m).getD (.dict #[]))
      return a
    | _, some v => return v
    | _, none => combine again op (op ++ "=") a b
  | _, _ => combine again op (op ++ "=") a b

/-- Whether values are the same one. -/
def areSame (s : State) (a b : Value) : Bool :=
  match a, b with
  | .object n, .object m => n = m
  | .none, .none => true
  | .bool p, .bool q => p = q
  | .int n, .int m => n = m
  | .text t, .text u => t = u
  | .known n, .known m => n = m
  | .module n, .module m => n = m
  | .dots, .dots => true
  | .tuple [], .tuple [] => true
  | .bytes t, .bytes u => t = u
  | .bound _ _, .bound _ _ => s.isEqual a b
  | _, _ => false

/-- Whether a value is in another one. -/
def isIn (again : Again) (x v : Value) : Step Bool := do
  let s ← get
  let among (xs : List Value) : Step Bool := xs.anyM fun y => Known.sameOrEqual again y x
  match v with
  | .text t =>
    match x with
    | .text p => return (Known.find? p 0 t).isSome
    | x =>
      typeFault ("'in <string>' requires string as left operand, not " ++ s.kindName x)
  | .bytes t =>
    match x with
    | .bytes p => return (Known.find? p 0 t).isSome
    | .int n => return t.any fun c => (c.toNat : Int) = n
    | x => typeFault ("a bytes-like object is required, not '" ++ s.kindName x ++ "'")
  | .tuple xs => among xs
  | .range a b c =>
    match x with
    | .int n =>
      return (n - a) % c = 0 && (if 0 < c then a ≤ n && n < b else b < n && n ≤ a)
    | _ => return false
  | .facet .keys n => return (s.valueFor? (← entriesOf n) x).isSome
  | .object n =>
    match s.object? n with
    | some (.list xs) => among xs.toList
    | some (.dict es) =>
      checkKey x
      return (s.valueFor? es x).isSome
    | some (.set xs _) => return xs.any (s.isEqual x)
    | _ =>
      match ← ownMethod? v "__contains__" with
      | some f =>
        let r ← again (.call f [x] [])
        return (← get).isTrue r
      | none =>
        let isIterable := (← ownMethod? v "__iter__").isSome || (match s.object? n with
          | some (.stream _) => true
          | some (.file _) => true
          | _ => false)
        if isIterable then among (← itemsOf again v)
        else typeFault ("argument of type '" ++ s.kindName v ++ "' is not iterable")
  | .facet _ _ => among (← itemsOf again v)
  | v => typeFault ("argument of type '" ++ s.kindName v ++ "' is not iterable")

/-- The answer of a comparison. -/
def compare (again : Again) (op : String) (a b : Value) : Step Bool := do
  match op with
  | "in" => isIn again a b
  | "not in" => return !(← isIn again a b)
  | "is" => return areSame (← get) a b
  | "is not" => return !(areSame (← get) a b)
  | op => compared again op a b

/-- The result of an operation on one value. -/
def unary (again : Again) (op : String) (v : Value) : Step Value := do
  match Number.ofValue? v, op with
  | some (.int n), "-" => return .int (-n)
  | some (.int n), "+" => return .int n
  | some (.int n), "~" => return .int (-n - 1)
  | some (.float x), "-" => return .float (-x)
  | some (.float x), "+" => return .float x
  | _, _ =>
    let method := if op = "-" then "__neg__" else if op = "+" then "__pos__" else "__invert__"
    match ← ownMethod? v method with
    | some f => again (.call f [] [])
    | none =>
      typeFault ("bad operand type for unary " ++ op ++ ": '" ++ (← get).kindName v ++ "'")

/-- Whether a value counts as true, as its kind says. -/
def truth (again : Again) (v : Value) : Step Bool := do
  match v with
  | .object _ =>
    match ← ownMethod? v "__bool__" with
    | some f =>
      let r ← again (.call f [] [])
      return (← get).isTrue r
    | none =>
      match ← ownMethod? v "__len__" with
      | some f =>
        let r ← again (.call f [] [])
        return (← get).isTrue r
      | none => return (← get).isTrue v
  | v => return (← get).isTrue v

end Weave.Recipe
