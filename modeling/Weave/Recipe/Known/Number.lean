import Weave.Recipe.Known.Text
import Weave.Utility.Escape

/-!
# Functions of numbers
-/
namespace Weave.Recipe.Known

def number (g : Given) (i : Nat) (what : String) : Step Number := do
  let v ← g.need i
  match Number.ofValue? v with
  | some n => return n
  | none => typeFault (what ++ ", not '" ++ (← get).kindName v ++ "'")

/-- The sign and the rest of a written number. -/
def signed (t : Text) : Bool × Text :=
  match t with
  | '-' :: rest => (true, rest)
  | '+' :: rest => (false, rest)
  | rest => (false, rest)

/-- A written whole number. -/
def readInt? (base : Nat) (t : Text) : Option Int :=
  let (negative, digits) := signed (((t.dropWhile isSpace).reverse.dropWhile isSpace).reverse)
  let marked (c : Char) (b : Nat) : Option (Nat × Text) :=
    match digits with
    | '0' :: d :: rest => if d.toLower = c && (base = b || base = 0) then some (b, rest) else none
    | _ => none
  let (base, digits) := ((marked 'x' 16).or ((marked 'o' 8).or (marked 'b' 2))).getD
    (if base = 0 then 10 else base, digits)
  let plain := digits.filter (· ≠ '_')
  if plain.isEmpty || digits.head? = some '_' || digits.getLast? = some '_'
      || !(plain.all fun c => Escape.digitOf c < base) then none
  else
    let n : Int := Escape.numberIn base plain
    some (if negative then -n else n)

/-- A written floating number. -/
def readFloat? (t : Text) : Option Float :=
  let t := ((t.dropWhile isSpace).reverse.dropWhile isSpace).reverse
  let (negative, size) := signed t
  let word := String.ofList (size.map Char.toLower)
  let turn (x : Float) : Float := if negative then -x else x
  if word = "inf" || word = "infinity" then some (turn (1 / 0))
  else if word = "nan" then some (0 / 0)
  else if !(size.head?.any fun c => c.isDigit || c = '.') then none
  else
    match Decimal.read? (size.filter (· ≠ '_')) with
    | some (d, []) => some (turn (Float.ofScientific d.digits (d.exponent < 0) d.exponent.natAbs))
    | _ => none

def toInt : Known := fun g => do
  match g.plain with
  | [] => return .int 0
  | v :: _ =>
    let base := ((g.value? 1 "base").bind position?).getD 10
    let read (t : Text) : Step Value := do
      match readInt? base.toNat t with
      | some n => return .int n
      | none =>
        failWith "ValueError" ("invalid literal for int() with base ".toList ++ Number.intText base
          ++ ": ".toList ++ (← shownWhole g.again v))
    match v with
    | .text t => read t
    | .bytes t => read t
    | v =>
      match Number.ofValue? v with
      | some (.int n) => return .int n
      | some (.float x) =>
        match Number.truncated? x with
        | some n => return .int n
        | none =>
          if x != x then fail "ValueError" "cannot convert float NaN to integer"
          fail "OverflowError" "cannot convert float infinity to integer"
      | none =>
        match ← ownMethod? v "__int__" with
        | some f => g.call f []
        | none =>
          typeFault ("int() argument must be a string, a bytes-like object or a real number, not '"
            ++ (← get).kindName v ++ "'")

def toFloat : Known := fun g => do
  match g.plain with
  | [] => return .float 0
  | .text t :: _ =>
    match readFloat? t with
    | some x => return .float x
    | none =>
      failWith "ValueError" ("could not convert string to float: ".toList ++ Shown.quoted false t)
  | _ => return .float (← number g 0 "float() argument must be a string or a real number").toFloat

def absolute : Known := fun g => do
  match Number.ofValue? (← g.need 0) with
  | some (.int n) => return .int n.natAbs
  | some (.float x) => return .float (Float.abs x)
  | none => typeFault ("bad operand type for abs(): '" ++ (← get).kindName (← g.need 0) ++ "'")

def toRound : Known := fun g => do
  match Number.ofValue? (← g.need 0), (g.value? 1 "ndigits").bind position? with
  | some (.int n), some p =>
    if 0 ≤ p then return .int n
    let step : Nat := 10 ^ p.natAbs
    let size : Int := Double.nearest n.natAbs step * step
    return .int (if n < 0 then -size else size)
  | some (.int n), none => return .int n
  | some (.float x), some p => return .float (Number.rounded x p)
  | some (.float x), none =>
    match Number.nearestInt? x with
    | some n => return .int n
    | none => fail "OverflowError" "cannot convert float infinity to integer"
  | none, _ =>
    typeFault ("type " ++ (← get).kindName (← g.need 0) ++ " doesn't define __round__ method")

/-- A whole number in another base with its mark. -/
def based (mark : String) (base : Nat) : Known := fun g => do
  let n ← g.int 0
  return .text ((if n < 0 then ['-'] else []) ++ mark.toList ++ Nat.toDigits base n.natAbs)

/-- The result of an operation on numbers. -/
def combined (op : String) (a b : Number) : Step Value := do
  match Number.combine op a b with
  | .ok n => return n.toValue
  | .error (.fault kind message) => fail kind message
  | .error .none => typeFault "unsupported operand types"

def realFunction (f : Float → Float) : Known := fun g => do
  return .float (f (← number g 0 "must be real number").toFloat)

/-- A whole number by a floating one that is near. -/
def whole (f : Float → Float) : Known := fun g => do
  match ← number g 0 "must be real number" with
  | .int n => return .int n
  | .float x =>
    match Number.truncated? (f x) with
    | some n => return .int n
    | none => fail "OverflowError" "cannot convert float infinity to integer"

/-- The greatest whole number whose square is no greater, by halving an interval. -/
def root : Nat → Nat → Nat → Nat → Nat
  | 0, low, _, _ => low
  | fuel + 1, low, high, n =>
    if high ≤ low + 1 then low
    else
      let middle := (low + high) / 2
      if middle * middle ≤ n then root fuel middle high n else root fuel low middle n

def numberFunctions : List (String × Known) :=
  [("int", toInt), ("float", toFloat), ("abs", absolute), ("round", toRound),
   ("bool", fun g => do
     match g.plain with
     | [] => return .bool false
     | v :: _ => return .bool ((← get).isTrue v)),
   ("hex", based "0x" 16), ("oct", based "0o" 8), ("bin", based "0b" 2),
   ("pow", fun g => do
     let a ← number g 0 "unsupported operand type(s) for pow()"
     let b ← number g 1 "unsupported operand type(s) for pow()"
     match a, b, (g.value? 2 "mod").bind position? with
     | .int a, .int b, some m => return .int (Int.fmod (a ^ b.toNat) m)
     | a, b, _ => combined "**" a b),
   ("divmod", fun g => do
     let a ← number g 0 "unsupported operand type(s) for divmod()"
     let b ← number g 1 "unsupported operand type(s) for divmod()"
     return .tuple [← combined "//" a b, ← combined "%" a b]),
   ("float.is_integer", fun g => do
     match ← g.self with
     | .float x => return .bool (x == Float.floor x)
     | _ => return .bool true),
   ("int.bit_length", fun g => do
     let n := (← g.int 0).natAbs
     return .int (if n = 0 then 0 else n.log2 + 1)),
   ("math.sqrt", fun g => do
     let x := (← number g 0 "must be real number").toFloat
     if x < 0 then fail "ValueError" "math domain error"
     return .float (Float.sqrt x)),
   ("math.sin", realFunction Float.sin), ("math.cos", realFunction Float.cos),
   ("math.tan", realFunction Float.tan), ("math.exp", realFunction Float.exp),
   ("math.log2", realFunction Float.log2), ("math.log10", realFunction Float.log10),
   ("math.fabs", realFunction Float.abs), ("math.floor", whole Float.floor),
   ("math.ceil", whole Float.ceil), ("math.trunc", whole id),
   ("math.log", fun g => do
     let x := (← number g 0 "must be real number").toFloat
     if x <= 0 then fail "ValueError" "math domain error"
     match g.plain[1]? with
     | none => return .float (Float.log x)
     | some _ =>
       return .float (Float.log x / Float.log (← number g 1 "must be real number").toFloat)),
   ("math.pow", fun g => do
     return .float (Float.pow (← number g 0 "must be real number").toFloat
       (← number g 1 "must be real number").toFloat)),
   ("math.isqrt", fun g => do
     let n := (← g.int 0).toNat
     return .int (root (n.log2 + 2) 0 (n + 1) n)),
   ("math.gcd", fun g => do
     let ns ← (List.range g.plain.length).mapM g.int
     return .int (ns.foldl (fun (a : Nat) b => Nat.gcd a b.natAbs) 0 : Nat)),
   ("math.factorial", fun g => do
     let n := (← g.int 0).toNat
     return .int ((List.range n).foldl (fun (p : Nat) i => p * (i + 1)) 1 : Nat)),
   ("math.isnan", fun g => do
     let x := (← number g 0 "must be real number").toFloat
     return .bool (x != x)),
   ("math.isinf", fun g => do
     let x := (← number g 0 "must be real number").toFloat
     return .bool (x == 1 / 0 || x == -1 / 0))]

example : [readInt? 10 " -12 ".toList, readInt? 16 "0xff".toList, readInt? 10 "1_0".toList,
    readInt? 10 "x".toList] = [some (-12), some 255, some 10, none] := by decide

end Weave.Recipe.Known
