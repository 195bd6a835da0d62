import Weave.Recipe.File

/-!
# The items of values of recipes

Many values have items, which are taken one after the other. Positions count from zero,
or from the end below zero.
-/
namespace Weave.Recipe

/-- The whole numbers of a range. -/
def rangeItems (first last step : Int) : List Value :=
  (List.range (rangeLength first last step)).map fun (i : Nat) => .int (first + step * i)
where
  rangeLength (first last step : Int) : Nat :=
    if 0 < step then ((last - first + step - 1) / step).toNat
    else if step < 0 then ((first - last - step - 1) / (-step)).toNat
    else 0

abbrev rangeLength := rangeItems.rangeLength

/-- The lines of an open file that are left, the number bounds how many. -/
def linesOf (f : OpenFile) : Nat → Step (List Value)
  | 0 => return []
  | fuel + 1 => do
    match ← f.takeLine with
    | .text [] => return []
    | .bytes [] => return []
    | v => return v :: (← linesOf f fuel)

/-- More than the items of anything. -/
def maxItems : Nat := 10 ^ 9

/-- Whether a fault is of a kind. -/
def isFault (n : Nat) (kind : String) : Step Bool := do
  let s ← get
  match s.object? n with
  | some (.instance' k _) => return s.isKindOf k (faultNumber kind)
  | _ => return false

/-- Takes the next item of what hands its items out; nothing is left otherwise. -/
def nextItem? (again : Again) (v : Value) : Step (Option Value) := do
  let s ← get
  match v with
  | .object n =>
    match s.object? n with
    | some (.stream (x :: rest)) =>
      set (s.put n (.stream rest))
      return some x
    | some (.stream []) => return none
    | some (.file f) =>
      match ← f.takeLine with
      | .text [] => return none
      | .bytes [] => return none
      | line => return some line
    | _ =>
      match ← ownMethod? v "__next__" with
      | some f =>
        let handling := s.handling
        tryCatch (do return some (← again (.call f [] []))) fun stop => do
          match stop with
          | .fault m =>
            if ← isFault m "StopIteration" then
              modify fun s => { s with handling := handling }
              return none
            throw stop
          | stop => throw stop
      | none => typeFault ("'" ++ s.kindName v ++ "' object is not an iterator")
  | v => typeFault ("'" ++ s.kindName v ++ "' object is not an iterator")

def allItems (again : Again) (v : Value) : Nat → Step (List Value)
  | 0 => return []
  | fuel + 1 => do
    match ← nextItem? again v with
    | some x => return x :: (← allItems again v fuel)
    | none => return []

/-- The items of a value. -/
def itemsOf (again : Again) (v : Value) : Step (List Value) := do
  let s ← get
  let refuse {α : Type} : Step α := typeFault ("'" ++ s.kindName v ++ "' object is not iterable")
  match v with
  | .tuple xs => return xs
  | .text t => return t.map fun c => .text [c]
  | .bytes t => return t.map fun c => .int c.toNat
  | .range a b c => return rangeItems a b c
  | .facet part n =>
    let es := (← entriesOf n).toList
    match part with
    | .keys => return es.map Prod.fst
    | .values => return es.map Prod.snd
    | .items => return es.map fun e => .tuple [e.1, e.2]
  | .object n =>
    match s.object? n with
    | some (.list xs) => return xs.toList
    | some (.dict es) => return es.toList.map Prod.fst
    | some (.set xs _) => return xs.toList
    | some (.stream rest) =>
      set (s.put n (.stream []))
      return rest
    | some (.file f) => linesOf f maxItems
    | _ =>
      match ← ownMethod? v "__iter__" with
      | some f =>
        let w ← again (.call f [] [])
        match w with
        | .object m =>
          match (← get).object? m with
          | some (.list xs) => return xs.toList
          | _ => allItems again w maxItems
        | _ => allItems again w maxItems
      | none => refuse
  | _ => refuse

/-- Does something with the items of a value one after the other, as long as that says to
go on. The answer is whether all were used. -/
def eachItem (again : Again) (v : Value) (act : Value → Step Bool) : Step Bool := do
  let s ← get
  match v with
  | .range a b c => counted a c act (rangeLength a b c)
  | .object n =>
    match s.object? n with
    | some (.stream _) => handedOut again v act maxItems
    | some (.file _) => handedOut again v act maxItems
    | some (.list _) => listed n act 0 maxItems
    | _ => inTurn act (← itemsOf again v)
  | v => inTurn act (← itemsOf again v)
where
  counted (a c : Int) (act : Value → Step Bool) : Nat → Step Bool
    | 0 => return true
    | n + 1 => do if ← act (.int a) then counted (a + c) c act n else return false
  handedOut (again : Again) (v : Value) (act : Value → Step Bool) : Nat → Step Bool
    | 0 => return true
    | n + 1 => do
      match ← nextItem? again v with
      | none => return true
      | some x => if ← act x then handedOut again v act n else return false
  listed (n : Nat) (act : Value → Step Bool) (i : Nat) : Nat → Step Bool
    | 0 => return true
    | fuel + 1 => do
      match (← listOf n)[i]? with
      | none => return true
      | some x => if ← act x then listed n act (i + 1) fuel else return false
  inTurn (act : Value → Step Bool) : List Value → Step Bool
    | [] => return true
    | x :: xs => do if ← act x then inTurn act xs else return false

/-- How many items a value has. -/
def lengthOf (again : Again) (v : Value) : Step Nat := do
  let s ← get
  match v with
  | .tuple xs => return xs.length
  | .text t => return t.length
  | .bytes t => return t.length
  | .range a b c => return rangeLength a b c
  | .facet _ n => return (← entriesOf n).size
  | .object n =>
    match s.object? n with
    | some (.list xs) => return xs.size
    | some (.dict es) => return es.size
    | some (.set xs _) => return xs.size
    | _ =>
      match ← ownMethod? v "__len__" with
      | some f =>
        match ← again (.call f [] []) with
        | .int n => return n.toNat
        | _ => typeFault "object cannot be interpreted as an integer"
      | none => typeFault ("object of type '" ++ s.kindName v ++ "' has no len()")
  | v => typeFault ("object of type '" ++ s.kindName v ++ "' has no len()")

/-- A whole number that stands for a position. -/
def position? : Value → Option Int
  | .int n => some n
  | .bool b => some (if b then 1 else 0)
  | _ => none

/-- The positions of a slice of so many items. -/
def slicePositions (first last step : Value) (length : Nat) : Step (List Nat) := do
  let bound (v : Value) : Step (Option Int) := do
    match v, position? v with
    | .none, _ => return none
    | _, some n => return some n
    | _, none =>
      typeFault "slice indices must be integers or None or have an __index__ method"
  let step := (← bound step).getD 1
  if step = 0 then fail "ValueError" "slice step cannot be zero"
  let size : Int := length
  let least : Int := if step < 0 then -1 else 0
  let greatest : Int := if step < 0 then size - 1 else size
  let clip (n : Int) : Int :=
    let n := if n < 0 then n + size else n
    if n < least then least else if greatest < n then greatest else n
  let first := ((← bound first).map clip).getD (if step < 0 then size - 1 else 0)
  let last := ((← bound last).map clip).getD (if step < 0 then -1 else size)
  return (List.range (rangeLength first last step)).map fun (i : Nat) => (first + step * i).toNat

/-- The items at some positions. -/
def pick {α : Type} (xs : Array α) (positions : List Nat) : List α :=
  positions.filterMap fun i => xs[i]?

/-- The position in so many items that a number stands for. -/
def positionIn? (i : Int) (length : Nat) : Option Nat :=
  let i := if i < 0 then i + length else i
  if 0 ≤ i && i < length then some i.toNat else none

/-- What a value has at a position or for a key. -/
def indexed (again : Again) (v i : Value) : Step Value := do
  let s ← get
  let sequence {α : Type} (name : String) (xs : Array α) (wrap : List α → Step Value)
      (one : α → Value) : Step Value := do
    match i with
    | .slice a b c => wrap (pick xs (← slicePositions a b c xs.size))
    | i =>
      match position? i with
      | some n =>
        match (positionIn? n xs.size).bind fun n => xs[n]? with
        | some x => return one x
        | none =>
          fail "IndexError" ((if name = "str" then "string" else name) ++ " index out of range")
      | none =>
        let what := if name = "str" then "string" else if name = "bytes" then "byte" else name
        let shownKind := if name = "str" then ", not '" ++ s.kindName i ++ "'"
          else if name = "list" || name = "tuple" then " or slices, not " ++ s.kindName i
          else " or slices, not " ++ s.kindName i
        typeFault (what ++ " indices must be integers" ++ shownKind)
  match v with
  | .tuple xs => sequence "tuple" xs.toArray (fun xs => return .tuple xs) id
  | .text t => sequence "str" t.toArray (fun t => return .text t) fun c => .text [c]
  | .bytes t => sequence "bytes" (List.toArray t) (fun t => return .bytes t) fun c => .int c.toNat
  | .range a b c =>
    match i with
    | .slice _ _ _ =>
      sequence "range" (rangeItems a b c).toArray (fun xs => return .tuple xs) id
    | i =>
      match (position? i).bind fun n => positionIn? n (rangeLength a b c) with
      | some n => return .int (a + c * n)
      | none => fail "IndexError" "range object index out of range"
  | .known n => if s.kindName v = "type" then return v else
      typeFault ("'" ++ s.kindName (.known n) ++ "' object is not subscriptable")
  | .object n =>
    match s.object? n with
    | some (.list xs) => sequence "list" xs makeList id
    | some (.dict es) =>
      checkKey i
      match s.valueFor? es i with
      | some x => return x
      | none =>
        let isEnvironment : Bool := match s.constants.lookup "os.environ" with
          | some (.object m) => m = n
          | _ => false
        let places :=
          if isEnvironment then foreignPlace "<frozen os>" 685 "__getitem__" "" "" else []
        within places (raise (← makeFault "KeyError" [i] []))
    | _ =>
      match ← ownMethod? v "__getitem__" with
      | some f => again (.call f [i] [])
      | none => typeFault ("'" ++ s.kindName v ++ "' object is not subscriptable")
  | v => typeFault ("'" ++ s.kindName v ++ "' object is not subscriptable")

/-- Gives what a value has at a position or for a key another value. -/
def setIndexed (again : Again) (v i x : Value) : Step Unit := do
  let s ← get
  let refuse : Step Unit :=
    typeFault ("'" ++ s.kindName v ++ "' object does not support item assignment")
  match v with
  | .object n =>
    match s.object? n with
    | some (.dict _) => setEntry n i x
    | some (.list xs) =>
      match i with
      | .slice a b c =>
        let positions ← slicePositions a b c xs.size
        let new ← itemsOf again x
        match c with
        | .none =>
          let (first, _) ← match ← slicePositions a .none .none xs.size with
            | p :: _ => pure (p, true)
            | [] => pure (xs.size, true)
          let behind := first + positions.length
          modify fun s => s.put n (.list
            ((xs.toList.take first ++ new ++ xs.toList.drop behind).toArray))
        | _ =>
          if positions.length ≠ new.length then
            fail "ValueError" ("attempt to assign sequence of size " ++ toString new.length
              ++ " to extended slice of size " ++ toString positions.length)
          modify fun s => s.put n (.list
            ((positions.zip new).foldl (fun xs p => xs.setIfInBounds p.1 p.2) xs))
      | i =>
        match position? i with
        | none => typeFault ("list indices must be integers or slices, not " ++ s.kindName i)
        | some p =>
          match positionIn? p xs.size with
          | some p => modify fun s => s.put n (.list (xs.setIfInBounds p x))
          | none => fail "IndexError" "list assignment index out of range"
    | _ =>
      match ← ownMethod? v "__setitem__" with
      | some f =>
        let _ ← again (.call f [i, x] [])
      | none => refuse
  | _ => refuse

/-- Removes what a value has at a position or for a key. -/
def removeIndexed (again : Again) (v i : Value) : Step Unit := do
  let s ← get
  let refuse : Step Unit :=
    typeFault ("'" ++ s.kindName v ++ "' object doesn't support item deletion")
  match v with
  | .object n =>
    match s.object? n with
    | some (.dict es) =>
      checkKey i
      if (s.valueFor? es i).isNone then raise (← makeFault "KeyError" [i] [])
      modify fun s => s.put n (.dict (es.filter fun e => !s.isEqual e.1 i))
    | some (.list xs) =>
      let remove (positions : List Nat) : Step Unit :=
        modify fun s => s.put n (.list ((xs.toList.zipIdx.filterMap fun (x, p) =>
          if positions.contains p then none else some x).toArray))
      match i with
      | .slice a b c => remove (← slicePositions a b c xs.size)
      | i =>
        match (position? i).map fun p => positionIn? p xs.size with
        | none => typeFault ("list indices must be integers or slices, not " ++ s.kindName i)
        | some none => fail "IndexError" "list assignment index out of range"
        | some (some p) => remove [p]
    | _ =>
      match ← ownMethod? v "__delitem__" with
      | some f =>
        let _ ← again (.call f [i] [])
      | none => refuse
  | _ => refuse

end Weave.Recipe
