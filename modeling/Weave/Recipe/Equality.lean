import Weave.Recipe.Number

/-!
# Equality and order of the values of recipes

Values are equal if they are built alike of equal parts. Only values of the same nature
have an order: numbers, texts, and sequences by their first difference. Numbers bound how
deep values stand in one another.
-/
namespace Weave.Recipe

/-- More than values stand in one another. -/
def maxNesting : Nat := 200

namespace State

/-- Whether values are equal. -/
def isEqualIn (s : State) : Nat → Value → Value → Bool
  | 0, _, _ => false
  | fuel + 1, a, b =>
    let areEqual (xs ys : List Value) : Bool :=
      xs.length = ys.length && (xs.zip ys).all fun p => isEqualIn s fuel p.1 p.2
    let isIn (ys : Array Value) (x : Value) : Bool := ys.any fun y => isEqualIn s fuel x y
    match Number.ofValue? a, Number.ofValue? b with
    | some x, some y => Number.isEqual x y
    | some _, none => false
    | none, some _ => false
    | none, none =>
      match a, b with
      | .none, .none => true
      | .dots, .dots => true
      | .text t, .text u => t = u
      | .bytes t, .bytes u => t = u
      | .path t, .path u => t = u
      | .tuple xs, .tuple ys => areEqual xs ys
      | .range a b c, .range d e f => a = d && b = e && c = f
      | .known n, .known m => n = m
      | .module n, .module m => n = m
      | .bound x f, .bound y g => isEqualIn s fuel x y && isEqualIn s fuel f g
      | .object n, .object m =>
        n = m ||
          match s.object? n, s.object? m with
          | some (.list xs), some (.list ys) => areEqual xs.toList ys.toList
          | some (.set xs _), some (.set ys _) => xs.size = ys.size && xs.all (isIn ys)
          | some (.dict xs), some (.dict ys) =>
            xs.size = ys.size && xs.all fun x => ys.any fun y =>
              isEqualIn s fuel x.1 y.1 && isEqualIn s fuel x.2 y.2
          | _, _ => false
      | _, _ => false

def isEqual (s : State) (a b : Value) : Bool := s.isEqualIn maxNesting a b

/-- Whether a value comes before another one; some values have no order. -/
def isLessIn? (s : State) : Nat → Value → Value → Option Bool
  | 0, _, _ => none
  | fuel + 1, a, b =>
    let firstDifference (xs ys : List Value) : Option Bool :=
      match (xs.zip ys).find? fun p => !s.isEqual p.1 p.2 with
      | some (x, y) => isLessIn? s fuel x y
      | none => some (xs.length < ys.length)
    match Number.ofValue? a, Number.ofValue? b with
    | some x, some y => some (Number.isLess x y)
    | none, none =>
      match a, b with
      | .text t, .text u => some (t < u)
      | .bytes t, .bytes u => some (t < u)
      | .path t, .path u => some (Text.splitOn '/' t < Text.splitOn '/' u)
      | .tuple xs, .tuple ys => firstDifference xs ys
      | .object n, .object m =>
        match s.object? n, s.object? m with
        | some (.list xs), some (.list ys) => firstDifference xs.toList ys.toList
        | some (.set xs _), some (.set ys _) =>
          some (xs.size < ys.size && xs.all fun x => ys.any (s.isEqual x))
        | _, _ => none
      | _, _ => none
    | _, _ => none

def isLess? (s : State) (a b : Value) : Option Bool := s.isLessIn? maxNesting a b

/-- The value of a key. -/
def valueFor? (s : State) (entries : Array (Value × Value)) (key : Value) : Option Value :=
  (entries.find? fun e => s.isEqual e.1 key).map Prod.snd

/-- Gives a key a value. A new key goes to the end. -/
def withEntry (s : State) (entries : Array (Value × Value)) (key value : Value) :
    Array (Value × Value) :=
  match entries.findIdx? fun e => s.isEqual e.1 key with
  | some i => entries.modify i fun e => (e.1, value)
  | none => entries.push (key, value)

/-- Items of which no two are equal. -/
def distinct (s : State) (items : List Value) : Array Value :=
  items.foldl (fun kept x => if kept.any (s.isEqual x) then kept else kept.push x) #[]

/-- Whether a value counts as true. -/
def isTrue (s : State) (v : Value) : Bool :=
  match v with
  | .none => false
  | .bool b => b
  | .int n => n != 0
  | .float x => x != 0
  | .text t => !t.isEmpty
  | .bytes t => !t.isEmpty
  | .tuple xs => !xs.isEmpty
  | .range a b c => if 0 < c then a < b else b < a
  | .facet _ n => isFilled n
  | .object n => isFilled n
  | _ => true
where
  isFilled (n : Nat) : Bool :=
    match s.object? n with
    | some (.list xs) => !xs.isEmpty
    | some (.dict es) => !es.isEmpty
    | some (.set xs _) => !xs.isEmpty
    | _ => true

/-- Whether a value can be a key. -/
def canBeKey (s : State) : Nat → Value → Bool
  | 0, _ => false
  | fuel + 1, v =>
    match v with
    | .tuple xs => xs.all (canBeKey s fuel)
    | .object n =>
      match s.object? n with
      | some (.list _) => false
      | some (.dict _) => false
      | some (.set _ isFixed) => isFixed
      | _ => true
    | _ => true

end State

/-- Fails if a value cannot be a key. -/
def checkKey (v : Value) : Step Unit := do
  let s ← get
  if !s.canBeKey maxNesting v then
    let inner := match v with
      | .tuple xs => (xs.find? fun x => !s.canBeKey maxNesting x).getD v
      | v => v
    typeFault ("unhashable type: '" ++ s.kindName inner ++ "'")

/-- The entries of a dictionary. -/
def entriesOf (n : Nat) : Step (Array (Value × Value)) := do
  match (← get).object? n with
  | some (.dict es) => return es
  | _ => return #[]

def setEntry (n : Nat) (key value : Value) : Step Unit := do
  checkKey key
  modify fun s =>
    match s.object? n with
    | some (.dict es) => s.put n (.dict (s.withEntry es key value))
    | _ => s

/-- A dictionary with texts as its keys. -/
def makeDict (entries : List (String × Value)) : Step Value :=
  make (.dict (entries.map fun (k, v) => (Value.text k.toList, v)).toArray)

end Weave.Recipe
