import Weave.Recipe.Known.Number

/-!
# Functions of collections

Lists, dictionaries and sets are made, changed and looked through.
-/
namespace Weave.Recipe.Known

/-- A method of an object, which is given its number. -/
def ofObject (f : Given → Nat → Step Value) : Known := fun g => do
  match ← g.self with
  | .object n => f g n
  | v => typeFault ("descriptor does not apply to a '" ++ (← get).kindName v ++ "' object")

/-- A method that only changes its list. -/
def changesList (f : Given → List Value → Step (List Value)) : Known := ofObject fun g n => do
  let items ← f g (← listOf n).toList
  modify fun s => s.put n (.list items.toArray)
  return .none

/-- Items, sorted by a key, maybe with the greatest first. -/
def sortItems (g : Given) (items : List Value) : Step (List Value) := do
  let reversed := (g.named.lookup "reverse").any (← get).isTrue
  let keyed ← items.mapM fun v => do
    match g.named.lookup "key" with
    | none => return (v, v)
    | some .none => return (v, v)
    | some f => return (← g.call f [v], v)
  let sorted ← sortedBy g.again (if reversed then keyed.reverse else keyed)
  let items := sorted.map Prod.snd
  return if reversed then items.reverse else items

/-- The position of an item between others. -/
def positionOf (g : Given) (items : List Value) (v : Value) : Step (Option Nat) :=
  go 0 items
where
  go (i : Nat) : List Value → Step (Option Nat)
    | [] => return none
    | x :: xs => do if ← compared g.again "==" x v then return some i else go (i + 1) xs

def listFunctions : List (String × Known) :=
  [("list", fun g => do
     match g.plain with
     | [] => makeList []
     | v :: _ => makeList (← itemsOf g.again v)),
   ("list.append", changesList fun g xs => do return xs ++ [← g.need 1]),
   ("list.extend", changesList fun g xs => do return xs ++ (← itemsOf g.again (← g.need 1))),
   ("list.insert", changesList fun g xs => do
     let i ← g.int 1
     let i := (if i < 0 then max 0 (i + xs.length) else i).toNat
     return xs.take i ++ [← g.need 2] ++ xs.drop i),
   ("list.remove", changesList fun g xs => do
     match ← positionOf g xs (← g.need 1) with
     | some i => return xs.eraseIdx i
     | none => fail "ValueError" "list.remove(x): x not in list"),
   ("list.clear", changesList fun _ _ => return []),
   ("list.reverse", changesList fun _ xs => return xs.reverse),
   ("list.sort", changesList sortItems),
   ("list.copy", ofObject fun _ n => do makeList (← listOf n).toList),
   ("list.pop", ofObject fun g n => do
     let xs ← listOf n
     if xs.isEmpty then fail "IndexError" "pop from empty list"
     match positionIn? (((g.value? 1 "index").bind position?).getD (-1)) xs.size with
     | none => fail "IndexError" "pop index out of range"
     | some i =>
       modify fun s => s.put n (.list (xs.toList.eraseIdx i).toArray)
       return (xs[i]?).getD .none),
   ("list.index", ofObject fun g n => do
     let v ← g.need 1
     match ← positionOf g (← listOf n).toList v with
     | some i => return .int i
     | none => failWith "ValueError" ((← shownWhole g.again v) ++ " is not in list".toList)),
   ("list.count", ofObject fun g n => do
     let v ← g.need 1
     return .int ((← (← listOf n).toList.filterM fun x => compared g.again "==" x v).length)),
   ("tuple", fun g => do
     match g.plain with
     | [] => return .tuple []
     | v :: _ => return .tuple (← itemsOf g.again v)),
   ("tuple.index", fun g => do
     match ← positionOf g (← itemsOf g.again (← g.self)) (← g.need 1) with
     | some i => return .int i
     | none => fail "ValueError" "tuple.index(x): x not in tuple"),
   ("tuple.count", fun g => do
     let v ← g.need 1
     return .int ((← (← itemsOf g.again (← g.self)).filterM fun x =>
       compared g.again "==" x v).length))]

/-- Adds the entries of a value, a dictionary or pairs. -/
def addEntries (g : Given) (n : Nat) (v : Value) : Step Unit := do
  let s ← get
  match v with
  | .object m =>
    match s.object? m with
    | some (.dict es) => for e in es do setEntry n e.1 e.2
    | _ => addPairs
  | _ => addPairs
where
  addPairs : Step Unit := do
    for (pair, i) in (← itemsOf g.again v).zipIdx do
      match ← itemsOf g.again pair with
      | [k, x] => setEntry n k x
      | xs =>
        fail "ValueError" ("dictionary update sequence element #" ++ toString i ++ " has length "
          ++ toString xs.length ++ "; 2 is required")

def dictFunctions : List (String × Known) :=
  [("dict", fun g => do
     let v ← make (.dict #[])
     if let .object n := v then
       for w in g.plain do addEntries g n w
       for (k, x) in g.named do setEntry n (.text k.toList) x
     return v),
   ("dict.get", ofObject fun g n => do
     let key ← g.need 1
     checkKey key
     return ((← get).valueFor? (← entriesOf n) key).getD (g.value 2 "default")),
   ("dict.keys", ofObject fun _ n => return .facet .keys n),
   ("dict.values", ofObject fun _ n => return .facet .values n),
   ("dict.items", ofObject fun _ n => return .facet .items n),
   ("dict.copy", ofObject fun _ n => do make (.dict (← entriesOf n))),
   ("dict.clear", ofObject fun _ n => do
     modify fun s => s.put n (.dict #[])
     return .none),
   ("dict.update", ofObject fun g n => do
     for w in g.plain.drop 1 do addEntries g n w
     for (k, x) in g.named do setEntry n (.text k.toList) x
     return .none),
   ("dict.setdefault", ofObject fun g n => do
     let key ← g.need 1
     match (← get).valueFor? (← entriesOf n) key with
     | some v => return v
     | none =>
       let v := g.value 2 "default"
       setEntry n key v
       return v),
   ("dict.pop", ofObject fun g n => do
     let key ← g.need 1
     let s ← get
     match s.valueFor? (← entriesOf n) key, g.plain[2]? with
     | some v, _ =>
       removeIndexed g.again (.object n) key
       return v
     | none, some v => return v
     | none, none => raise (← makeFault "KeyError" [key] [])),
   ("dict.popitem", ofObject fun _ n => do
     let es ← entriesOf n
     match es.back? with
     | none => raise (← makeFault "KeyError" [.text "popitem(): dictionary is empty".toList] [])
     | some e =>
       modify fun s => s.put n (.dict es.pop)
       return .tuple [e.1, e.2]),
   ("dict.fromkeys", fun g => do
     let v ← make (.dict #[])
     if let .object n := v then
       for k in ← itemsOf g.again (← g.need 0) do setEntry n k (g.value 1 "value")
     return v)]

/-- The items of a set. -/
def setOf (n : Nat) : Step (Array Value) := do
  match (← get).object? n with
  | some (.set xs _) => return xs
  | _ => return #[]

def makeSet (isFixed : Bool) : Known := fun g => do
  match g.plain with
  | [] => make (.set #[] isFixed)
  | v :: _ =>
    let items ← itemsOf g.again v
    for x in items do checkKey x
    make (.set ((← get).distinct items) isFixed)

/-- The items of two sets together, by an operation. -/
def combineSets (s : State) (op : String) (xs ys : Array Value) : Array Value :=
  let isIn (zs : Array Value) (x : Value) : Bool := zs.any (s.isEqual x)
  match op with
  | "|" => s.distinct (xs ++ ys).toList
  | "&" => xs.filter (isIn ys)
  | "-" => xs.filter fun x => !isIn ys x
  | _ => xs.filter (fun x => !isIn ys x) ++ ys.filter fun y => !isIn xs y

def combinesSets (op : String) : Known := ofObject fun g n => do
  let mut xs ← setOf n
  for v in g.plain.drop 1 do
    xs := combineSets (← get) op xs (← itemsOf g.again v).toArray
  make (.set xs false)

def changesSet (f : Given → Array Value → Step (Array Value)) : Known := ofObject fun g n => do
  let items ← f g (← setOf n)
  modify fun s => s.put n (.set items false)
  return .none

def setFunctions : List (String × Known) :=
  let methods : List (String × Known) :=
    [("union", combinesSets "|"), ("intersection", combinesSets "&"),
     ("difference", combinesSets "-"), ("symmetric_difference", combinesSets "^"),
     ("copy", ofObject fun _ n => do make (.set (← setOf n) false)),
     ("issubset", ofObject fun g n => do
       let ys := (← itemsOf g.again (← g.need 1)).toArray
       let s ← get
       return .bool ((← setOf n).all fun x => ys.any (s.isEqual x))),
     ("issuperset", ofObject fun g n => do
       let ys := (← itemsOf g.again (← g.need 1)).toArray
       let s ← get
       let xs ← setOf n
       return .bool (ys.all fun y => xs.any (s.isEqual y))),
     ("isdisjoint", ofObject fun g n => do
       let ys := (← itemsOf g.again (← g.need 1)).toArray
       let s ← get
       return .bool (!(← setOf n).any fun x => ys.any (s.isEqual x)))]
  methods.map (fun (n, f) => ("set." ++ n, f))
    ++ methods.map (fun (n, f) => ("frozenset." ++ n, f))
    ++ [("set", makeSet false), ("frozenset", makeSet true),
        ("set.add", changesSet fun g xs => do
          let v ← g.need 1
          checkKey v
          return if xs.any ((← get).isEqual v) then xs else xs.push v),
        ("set.discard", changesSet fun g xs => do
          let v ← g.need 1
          let s ← get
          return xs.filter fun x => !s.isEqual x v),
        ("set.remove", changesSet fun g xs => do
          let v ← g.need 1
          let s ← get
          if !xs.any (s.isEqual v) then raise (← makeFault "KeyError" [v] [])
          return xs.filter fun x => !s.isEqual x v),
        ("set.clear", changesSet fun _ _ => return #[]),
        ("set.update", changesSet fun g xs => do
          let mut all := xs.toList
          for v in g.plain.drop 1 do all := all ++ (← itemsOf g.again v)
          return (← get).distinct all),
        ("set.pop", ofObject fun _ n => do
          match (← setOf n).toList with
          | [] => raise (← makeFault "KeyError" [.text "pop from an empty set".toList] [])
          | x :: xs =>
            modify fun s => s.put n (.set xs.toArray false)
            return x)]

def stream (items : List Value) : Step Value := make (.stream items)

/-- The least or the greatest of some values. -/
def extreme (name op : String) : Known := fun g => do
  let items ← match g.plain with
    | [v] => itemsOf g.again v
    | vs => pure vs
  let keyed ← items.mapM fun v => do
    match g.named.lookup "key" with
    | none => return (v, v)
    | some .none => return (v, v)
    | some f => return (← g.call f [v], v)
  match keyed with
  | [] =>
    match g.named.lookup "default" with
    | some v => return v
    | none => fail "ValueError" (name ++ "() iterable argument is empty")
  | first :: rest =>
    let best ← rest.foldlM (fun best x => do
      return if ← compared g.again op x.1 best.1 then x else best) first
    return best.2

/-- Items of several values side by side, as long as all have some. -/
def sideBySide : Nat → List (List Value) → List (List Value)
  | 0, _ => []
  | fuel + 1, columns =>
    if columns.isEmpty || columns.any List.isEmpty then []
    else columns.filterMap List.head? :: sideBySide fuel (columns.map (List.drop 1))

/-- The sum of values, beginning with one. -/
def total : Known := fun g => do
  let items ← itemsOf g.again (← g.need 0)
  items.foldlM (fun a b => do
    match Number.ofValue? a, Number.ofValue? b with
    | some x, some y => combined "+" x y
    | _, _ =>
      match a, b with
      | .tuple xs, .tuple ys => return .tuple (xs ++ ys)
      | .object n, .object m =>
        match (← get).object? n, (← get).object? m with
        | some (.list xs), some (.list ys) => makeList (xs ++ ys).toList
        | _, _ => refuse a b
      | _, _ => refuse a b) (g.value 1 "start" (.int 0))
where
  refuse (a b : Value) : Step Value := do
    let s ← get
    typeFault ("unsupported operand type(s) for +: '" ++ s.kindName a ++ "' and '" ++ s.kindName b
      ++ "'")

def iterationFunctions : List (String × Known) :=
  [("len", fun g => do return .int (← lengthOf g.again (← g.need 0))),
   ("range", fun g => do
     let a ← g.int 0
     match g.plain.length with
     | 1 => return .range 0 a 1
     | 2 => return .range a (← g.int 1) 1
     | _ =>
       let step ← g.int 2
       if step = 0 then fail "ValueError" "range() arg 3 must not be zero"
       return .range a (← g.int 1) step),
   ("slice", fun g => do
     match g.plain with
     | [b] => return .slice .none b .none
     | _ => return .slice (g.value 0 "") (g.value 1 "") (g.value 2 "")),
   ("enumerate", fun g => do
     let start := ((g.value? 1 "start").bind position?).getD 0
     let items ← itemsOf g.again (← g.need 0)
     stream (items.zipIdx.map fun (x, i) => .tuple [.int (start + i), x])),
   ("zip", fun g => do
     let columns ← g.plain.mapM (itemsOf g.again)
     stream ((sideBySide maxItems columns).map .tuple)),
   ("map", fun g => do
     let columns ← (g.plain.drop 1).mapM (itemsOf g.again)
     let f ← g.need 0
     stream (← (sideBySide maxItems columns).mapM fun row => g.call f row)),
   ("filter", fun g => do
     let f ← g.need 0
     let items ← itemsOf g.again (← g.need 1)
     stream (← items.filterM fun x => do
       match f with
       | .none => return (← get).isTrue x
       | f =>
         let r ← g.call f [x]
         return (← get).isTrue r)),
   ("sorted", fun g => do makeList (← sortItems g (← itemsOf g.again (← g.need 0)))),
   ("reversed", fun g => do stream (← itemsOf g.again (← g.need 0)).reverse),
   ("sum", total), ("min", extreme "min" "<"), ("max", extreme "max" ">"),
   ("any", fun g => do
     let items ← itemsOf g.again (← g.need 0)
     return .bool (items.any (← get).isTrue)),
   ("all", fun g => do
     let items ← itemsOf g.again (← g.need 0)
     return .bool (items.all (← get).isTrue)),
   ("iter", fun g => do
     let v ← g.need 0
     match v with
     | .object n =>
       match (← get).object? n with
       | some (.stream _) => return v
       | some (.file _) => return v
       | _ =>
         match ← ownMethod? v "__iter__" with
         | some f => g.call f []
         | none => stream (← itemsOf g.again v)
     | v => stream (← itemsOf g.again v)),
   ("next", fun g => do
     match ← nextItem? g.again (← g.need 0), g.plain[1]? with
     | some x, _ => return x
     | none, some v => return v
     | none, none => raise (← makeFault "StopIteration" [] [])),
   ("copy.copy", fun g => do copied 1 (← g.need 0)),
   ("copy.deepcopy", fun g => do copied maxNesting (← g.need 0))]
where
  copied : Nat → Value → Step Value
    | 0, v => return v
    | depth + 1, v => do
      match v with
      | .tuple xs => return .tuple (← xs.mapM (copied depth))
      | .object n =>
        match (← get).object? n with
        | some (.list xs) => makeList (← xs.toList.mapM (copied depth))
        | some (.set xs isFixed) => make (.set xs isFixed)
        | some (.dict es) =>
          make (.dict (← es.toList.mapM fun e => do return (e.1, ← copied depth e.2)).toArray)
        | some (.instance' k fields) =>
          make (.instance' k (← fields.mapM fun e => do return (e.1, ← copied depth e.2)))
        | _ => return v
      | v => return v

end Weave.Recipe.Known
