import Weave.Recipe.Known.Nature

/-!
# What belongs to values of recipes

A value has attributes by name: fields, methods of its kind, and what modules hold.
-/
namespace Weave.Recipe

/-- The kind of a fault by its name. -/
def faultKind? (name : String) : Option Value :=
  let full := (faultNames.lookup name).getD name
  let n := faultNumber full
  if n < faultKinds.length then some (.object n) else none

/-- The names of modules that lie in others. -/
def innerModules : List String := ["os.path"]

/-- What a module holds by a name. -/
def moduleMember? (s : State) (module name : String) : Option Value :=
  let full := module ++ "." ++ name
  match s.constants.lookup full with
  | some v => some v
  | none =>
    if innerModules.contains full then some (.module full)
    else if (Known.table.lookup full).isSome then some (.known full)
    else faultKind? full

/-- The function of a kind of values that is always there. -/
def knownMethod? (kind name : String) : Option Value :=
  let full := kind ++ "." ++ name
  if (Known.table.lookup full).isSome then some (.known full) else none

/-- Other names of attributes of faults, as their kinds have them. -/
def faultAttribute? (s : State) (k : Nat) (fields : List (String × Value)) (name : String) :
    Option Value :=
  if (fields.lookup "args").isNone then none
  else if name = "__cause__" || name = "__context__" || name = "__traceback__" then some .none
  else if name = "value" && s.isKindOf k (faultNumber "StopIteration") then
    match fields.lookup "args" with
    | some (.tuple (v :: _)) => some v
    | _ => some .none
  else none

/-- What an object whose kind is its own has by a name. -/
def ownAttribute? (v : Value) (k : Nat) (fields : List (String × Value)) (name : String) :
    Step (Option Value) := do
  let s ← get
  match fields.lookup name with
  | some x => return some x
  | none =>
    match s.member? k name with
    | some (.object n) =>
      match s.object? n with
      | some (.function _) => return some (.bound v (.object n))
      | _ => return some (.object n)
    | some x => return some x
    | none =>
      let method := (s.lineage 50 k).findSome? fun j => knownMethod? (s.kind j).name name
      match method with
      | some f => return some (.bound v f)
      | none =>
        if name = "__class__" then return some (.object k)
        if name = "__dict__" then return some (← makeDict fields)
        return faultAttribute? s k fields name

/-- What a kind has by a name. -/
def kindAttribute? (s : State) (n : Nat) (name : String) : Option Value :=
  match s.member? n name with
  | some x => some x
  | none =>
    match name with
    | "__name__" => some (.text (Shown.lastName (s.kind n).name).toList)
    | "__qualname__" => some (.text (Shown.lastName (s.kind n).name).toList)
    | "__doc__" => some .none
    | "__mro__" => some (.tuple ((s.lineage 50 n).map .object))
    | _ => (s.lineage 50 n).findSome? fun j => knownMethod? (s.kind j).name name

/-- The method of the kinds behind that of a function, for the object that it works on. -/
def innerMethod? (s : State) (self : Value) (function : Nat) (name : String) : Option Value :=
  match s.kindOf? self with
  | none => none
  | some k =>
    let isHere (j : Nat) : Bool := (s.kind j).members.any fun e => match e.2 with
      | .object n => n = function
      | _ => false
    let behind := ((s.lineage 50 k).dropWhile fun j => !isHere j).drop 1
    let own := behind.findSome? fun j => (s.kind j).members.lookup name
    match own.or (behind.findSome? fun j => knownMethod? (s.kind j).name name) with
    | some f => some (.bound self f)
    | none => if name = "__init__" then some (.bound self (.known "object.__init__")) else none

/-- What a value has by a name, if it has that. -/
def attribute? (v : Value) (name : String) : Step (Option Value) := do
  let s ← get
  let method : Option Value := (knownMethod? (s.kindName v) name).map fun f => .bound v f
  if name = "__class__" then
    if (s.kindOf? v).isNone then return some (Known.kindValue s v)
  match v with
  | .module m =>
    if name = "__name__" then return some (.text m.toList)
    return moduleMember? s m name
  | .path p => return (← Known.pathAttribute? p name).or method
  | .slice a b c =>
    return match name with
      | "start" => some a
      | "stop" => some b
      | "step" => some c
      | _ => none
  | .range a b c =>
    return match name with
      | "start" => some (.int a)
      | "stop" => some (.int b)
      | "step" => some (.int c)
      | _ => none
  | .known n =>
    if name = "__name__" || name = "__qualname__" then
      return some (.text (Shown.lastName n).toList)
    return knownMethod? n name
  | .bound self (.known "super") =>
    match self with
    | .tuple [self, .int n] => return innerMethod? s self n.toNat name
    | _ => return none
  | .bound self f =>
    match name, f with
    | "__self__", _ => return some self
    | "__name__", .known n => return some (.text (Shown.lastName n).toList)
    | "__name__", .object n =>
      match s.object? n with
      | some (.function f) => return some (.text f.name.toList)
      | _ => return none
    | _, _ => return none
  | .object n =>
    match s.object? n with
    | some (.instance' k fields) => ownAttribute? v k fields name
    | some (.kind _) => return kindAttribute? s n name
    | some (.file f) => return (← Known.fileAttribute? f name).or method
    | some (.function f) =>
      match name with
      | "__name__" => return some (.text f.name.toList)
      | "__qualname__" => return some (.text f.fullName.toList)
      | "__doc__" => return some .none
      | _ => return none
    | _ => return method
  | .int n =>
    match name with
    | "real" => return some (.int n)
    | "numerator" => return some (.int n)
    | _ => return method
  | _ => return method

def attributeOf (v : Value) (name : String) : Step Value := do
  match ← attribute? v name with
  | some x => return x
  | none =>
    let s ← get
    match v with
    | .module m => fail "AttributeError" ("module '" ++ m ++ "' has no attribute '" ++ name ++ "'")
    | .object n =>
      match s.object? n with
      | some (.kind k) =>
        fail "AttributeError" ("type object '" ++ Shown.lastName k.name ++ "' has no attribute '"
          ++ name ++ "'")
      | _ =>
        fail "AttributeError" ("'" ++ s.kindName v ++ "' object has no attribute '" ++ name ++ "'")
    | .known n =>
      if s.kindName v = "type" then
        fail "AttributeError" ("type object '" ++ n ++ "' has no attribute '" ++ name ++ "'")
      fail "AttributeError" ("'" ++ s.kindName v ++ "' object has no attribute '" ++ name ++ "'")
    | _ =>
      fail "AttributeError" ("'" ++ s.kindName v ++ "' object has no attribute '" ++ name ++ "'")

/-- Gives a value something by a name. -/
def setAttribute (v : Value) (name : String) (x : Value) : Step Unit := do
  let s ← get
  let others {α : Type} (es : List (String × α)) : List (String × α) :=
    es.filter fun e => e.1 != name
  match v with
  | .module m =>
    set { s with constants := (m ++ "." ++ name, x)
      :: s.constants.filter fun e => e.1 != m ++ "." ++ name }
  | .object n =>
    match s.object? n with
    | some (.instance' k fields) =>
      let fields := if (fields.lookup name).isSome then
          fields.map fun e => if e.1 = name then (name, x) else e
        else fields ++ [(name, x)]
      set (s.put n (.instance' k fields))
    | some (.kind k) => set (s.put n (.kind { k with members := (name, x) :: others k.members }))
    | some (.function _) => return ()
    | _ =>
      fail "AttributeError" ("'" ++ s.kindName v ++ "' object has no attribute '" ++ name ++ "'")
  | _ => fail "AttributeError" ("'" ++ s.kindName v ++ "' object has no attribute '" ++ name ++ "'")

def removeAttribute (v : Value) (name : String) : Step Unit := do
  let s ← get
  match v with
  | .object n =>
    match s.object? n with
    | some (.instance' k fields) =>
      if (fields.lookup name).isNone then fail "AttributeError" name
      set (s.put n (.instance' k (fields.filter fun e => e.1 != name)))
    | _ => fail "AttributeError" name
  | _ => fail "AttributeError" name

/-!
## Names
-/

/-- The value of a name, seen from a scope. The number bounds how many scopes there
are. -/
def State.lookUp? (s : State) : Nat → Nat → String → Option Value
  | 0, _, _ => none
  | fuel + 1, scope, name =>
    let c := s.scope scope
    let here := match c.elsewhere.lookup name with
      | some other => (s.scope other).names.lookup name
      | none => c.names.lookup name
    match here, c.outer with
    | some v, _ => some v
    | none, some outer => State.lookUp? s fuel outer name
    | none, none => none

/-- Names of functions that are no functions of modules or methods. -/
def isBuiltIn (name : String) : Bool :=
  !name.toList.contains '.' && (Known.table.lookup name).isSome

/-- A name that is always there. -/
def builtIn? (name : String) : Option Value :=
  if isBuiltIn name || name = "super" || name = "globals" || name = "locals" then some (.known name)
  else if name = "NotImplemented" then some (.known name)
  else if name = "Ellipsis" then some .dots
  else if name.toList.contains '.' then none
  else faultKind? name

def lookUp (name : String) : Step Value := do
  let s ← get
  match (s.lookUp? 1000 s.frame.scope name).or (builtIn? name) with
  | some v => return v
  | none =>
    let hint :=
      if Known.modules.contains name then ". Did you forget to import '" ++ name ++ "'?" else ""
    let message := "name '" ++ name ++ "' is not defined"
    fail "NameError" (message ++ hint)

/-- Gives a name a value. -/
def State.bind (s : State) (scope : Nat) (name : String) (v : Value) : State :=
  let c := s.scope scope
  let goal := (c.elsewhere.lookup name).getD scope
  let c := s.scope goal
  let names := if (c.names.lookup name).isSome then
      c.names.map fun e => if e.1 = name then (name, v) else e
    else c.names ++ [(name, v)]
  s.put goal (.scope { c with names := names })

def bindName (name : String) (v : Value) : Step Unit :=
  modify fun s => s.bind s.frame.scope name v

def unbindName (name : String) : Step Unit := do
  let s ← get
  let c := s.scope s.frame.scope
  let goal := (c.elsewhere.lookup name).getD s.frame.scope
  let c := s.scope goal
  if (c.names.lookup name).isNone then fail "NameError" ("name '" ++ name ++ "' is not defined")
  set (s.put goal (.scope { c with names := c.names.filter fun e => e.1 != name }))

/-- The scope that a function keeps that is defined here. -/
def State.keptScope (s : State) : Nat :=
  let c := s.scope s.frame.scope
  if c.isKind then c.outer.getD topScope else s.frame.scope

end Weave.Recipe
