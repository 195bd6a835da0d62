import Weave.Recipe.Layout
import Weave.Recipe.Sequence

/-!
# Functions that are always there

A known function is a step on what it is given: values by their positions and others by
their names. A method is given its object first.
-/
namespace Weave.Recipe

/-- What a function is given. -/
structure Given where
  again : Again
  plain : List Value
  named : List (String × Value)

abbrev Known := Given → Step Value

namespace Given

/-- What stands at a position or has a name. -/
def value? (g : Given) (i : Nat) (name : String) : Option Value :=
  (g.plain[i]?).or (g.named.lookup name)

def value (g : Given) (i : Nat) (name : String) (standard : Value := .none) : Value :=
  (g.value? i name).getD standard

/-- What stands at a position, where it must not be missing. -/
def need (g : Given) (i : Nat) : Step Value := do
  match g.plain[i]? with
  | some v => return v
  | none =>
    typeFault ("expected at least " ++ toString (i + 1) ++ " argument"
      ++ (if i = 0 then "" else "s") ++ ", got " ++ toString g.plain.length)

def self (g : Given) : Step Value := g.need 0

/-- The text at a position. -/
def text (g : Given) (i : Nat) : Step Text := do
  match ← g.need i with
  | .text t => return t
  | .bytes t => return t
  | v => typeFault ("must be str, not " ++ (← get).kindName v)

def int (g : Given) (i : Nat) : Step Int := do
  let v ← g.need i
  match position? v with
  | some n => return n
  | none =>
    typeFault ("'" ++ (← get).kindName v ++ "' object cannot be interpreted as an integer")

/-- The path at a position. -/
def path (g : Given) (i : Nat) : Step Text := do
  match ← g.need i with
  | .text t => return t
  | .path t => return t
  | .bytes t => return Bytes.toText t
  | v =>
    typeFault ("expected str, bytes or os.PathLike object, not " ++ (← get).kindName v)

def isSet (g : Given) (i : Nat) (name : String) (standard : Bool) : Step Bool := do
  return ((g.value? i name).map (← get).isTrue).getD standard

def call (g : Given) (f : Value) (plain : List Value) : Step Value :=
  g.again (.call f plain [])

end Given

/-- The result of an operation on two values, or why there is none. -/
def compared (again : Again) (op : String) (a b : Value) : Step Bool := do
  let s ← get
  let own (name : String) : Step (Option Bool) := do
    match ← ownMethod? a name with
    | some f => return some ((← get).isTrue (← again (.call f [b] [])))
    | none => return none
  let less (a b : Value) (name : String) : Step Bool := do
    match s.isLess? a b with
    | some r => return r
    | none =>
      match ← own name with
      | some r => return r
      | none =>
        typeFault ("'" ++ op ++ "' not supported between instances of '" ++ s.kindName a
          ++ "' and '" ++ s.kindName b ++ "'")
  let isNan (v : Value) : Bool := match v with
    | .float x => x != x
    | _ => false
  let ordered := !(isNan a || isNan b)
  match op with
  | "==" => return (← own "__eq__").getD (s.isEqual a b)
  | "!=" => return !((← own "__eq__").getD (s.isEqual a b))
  | "<" => less a b "__lt__"
  | ">" =>
    match s.isLess? b a with
    | some r => return r
    | none => less a b "__gt__"
  | "<=" =>
    match s.isLess? b a with
    | some r => return ordered && !r
    | none => less a b "__le__"
  | _ =>
    match s.isLess? a b with
    | some r => return ordered && !r
    | none => less a b "__ge__"

/-- Operations that two truth values have as such. -/
def Known.isBoolean (op : String) : Bool := op = "&" || op = "|" || op = "^"

/-- Whether values are equal, where each value is equal to itself. -/
def Known.sameOrEqual (again : Again) (a b : Value) : Step Bool := do
  match a, b with
  | .object n, .object m => if n = m then return true else compared again "==" a b
  | a, b => compared again "==" a b

/-- Sorts items by their keys; of equal ones the first stays before the other. -/
def sortedBy (again : Again) (keys : List (Value × Value)) : Step (List (Value × Value)) := do
  -- Without an order between two of them nothing is sorted.
  keys.foldrM (fun x sorted => insert x sorted) []
where
  insert (x : Value × Value) : List (Value × Value) → Step (List (Value × Value))
    | [] => return [x]
    | y :: ys => do
      if ← compared again "<" y.1 x.1 then return y :: (← insert x ys) else return x :: y :: ys

end Weave.Recipe
