import Weave.Recipe.Shown

/-!
# Formats of recipes

A format tells how wide a value is shown, what fills it up and on which side, and how
numbers are written.
-/
namespace Weave.Recipe

structure Layout where
  fill : Char := ' '
  /-- The side: `<`, `>`, `^`, or `=` for a filling behind the sign. -/
  align : Option Char := none
  sign : Char := '-'
  /-- Whether the base of a number is told. -/
  isFull : Bool := false
  width : Nat := 0
  /-- What stands between groups of digits. -/
  grouping : Option Char := none
  precision : Option Nat := none
  letter : Option Char := none
deriving Repr, DecidableEq

namespace Layout

def isAlign (c : Char) : Bool := c = '<' || c = '>' || c = '^' || c = '='

/-- Reads a format, if it is one. -/
def read? (t : Text) : Option Layout :=
  let (l, t) : Layout × Text := match t with
    | c :: d :: rest =>
      if isAlign d then ({ fill := c, align := some d }, rest)
      else if isAlign c then ({ align := some c }, d :: rest)
      else ({}, t)
    | [c] => if isAlign c then ({ align := some c }, []) else ({}, t)
    | [] => ({}, [])
  let (l, t) := match t with
    | c :: rest => if c = '+' || c = '-' || c = ' ' then ({ l with sign := c }, rest) else (l, t)
    | [] => (l, t)
  let (l, t) := match t with
    | '#' :: rest => ({ l with isFull := true }, rest)
    | _ => (l, t)
  let (l, t) := match t with
    | '0' :: rest =>
      let fill := if l.align.isNone then '0' else l.fill
      ({ l with fill := fill, align := l.align.or (some '=') }, rest)
    | _ => (l, t)
  let width := t.takeWhile Char.isDigit
  let l := { l with width := Decimal.value width }
  let t := t.drop width.length
  let (l, t) := match t with
    | c :: rest => if c = ',' || c = '_' then ({ l with grouping := some c }, rest) else (l, t)
    | [] => (l, t)
  let (l, t) := match t with
    | '.' :: rest =>
      let digits := rest.takeWhile Char.isDigit
      ({ l with precision := some (Decimal.value digits) }, rest.drop digits.length)
    | _ => (l, t)
  match t with
  | [] => some l
  | [c] => if c.isAlpha || c = '%' then some { l with letter := some c } else none
  | _ => none

/-- Fills a text up to the width. -/
def pad (l : Layout) (standard : Char) (sign t : Text) : Text :=
  let missing := l.width - sign.length - t.length
  let fill := List.replicate missing l.fill
  match l.align.getD standard with
  | '<' => sign ++ t ++ fill
  | '^' => fill.take (missing / 2) ++ sign ++ t ++ fill.drop (missing / 2)
  | '=' => sign ++ fill ++ t
  | _ => fill ++ sign ++ t

/-- Puts a mark between groups of digits. -/
def grouped (mark : Char) (size : Nat) (digits : Text) : Text :=
  let marked := digits.reverse.zipIdx.flatMap fun (c, i) =>
    if i ≠ 0 && i % size = 0 then [mark, c] else [c]
  marked.reverse

def signOf (l : Layout) (negative : Bool) : Text :=
  if negative then ['-'] else if l.sign = '-' then [] else [l.sign]

/-- Groups the digits before a point. -/
def groupWhole (l : Layout) (t : Text) : Text :=
  match l.grouping with
  | some mark =>
    let whole := t.takeWhile Char.isDigit
    grouped mark 3 whole ++ t.drop whole.length
  | none => t

def int (l : Layout) (n : Int) : Text :=
  let size := n.natAbs
  let (mark, digits) : String × Text := match l.letter with
    | some 'x' => ("0x", Nat.toDigits 16 size)
    | some 'X' => ("0X", (Nat.toDigits 16 size).map Char.toUpper)
    | some 'o' => ("0o", Nat.toDigits 8 size)
    | some 'b' => ("0b", Nat.toDigits 2 size)
    | _ => ("", Text.ofNat size)
  let digits := match l.grouping with
    | some mark => grouped mark (if l.letter.isNone || l.letter = some 'd' then 3 else 4) digits
    | none => digits
  l.pad '>' (l.signOf (n < 0) ++ if l.isFull then mark.toList else []) digits

def float (l : Layout) (x : Float) : Text :=
  match Quotient.ofFloat? x with
  | none => l.pad '>' (l.signOf (x < 0)) (if x != x then "nan" else "inf").toList
  | some (negative, q) =>
    let precision := l.precision.getD 6
    let t := match l.letter with
      | none =>
        match l.precision with
        | none => Number.floatText (Float.abs x)
        | some p =>
          let t := q.general 'e' p false
          if t.all Char.isDigit then t ++ ".0".toList else t
      | some '%' => Quotient.fixed ⟨q.num * 100, q.den⟩ precision ++ ['%']
      | some c => q.byLetter c precision l.isFull
    l.pad '>' (l.signOf negative) (l.groupWhole t)

def text (l : Layout) (t : Text) : Text :=
  l.pad '<' [] (match l.precision with
    | some p => t.take p
    | none => t)

end Layout

/-- A value by a format. -/
def laidOut (again : Again) (v : Value) (format : Text) : Step Text := do
  let unknown {α : Type} (l : Layout) : Step α := do
    let name := (← get).kindName v
    failWith "ValueError" ("Unknown format code '".toList ++ l.letter.toList
      ++ ("' for object of type '" ++ name ++ "'").toList)
  match Layout.read? format with
  | none =>
    let name := ((← get).kindName v).toList
    failWith "ValueError" ("Invalid format specifier '".toList ++ format
      ++ "' for object of type '".toList ++ name ++ ['\''])
  | some l =>
    let ofInt (n : Int) : Step Text := do
      match l.letter with
      | none => return l.int n
      | some c =>
        if "dxXobn".toList.contains c then return l.int n
        else if c = 'c' then return l.pad '<' [] [Char.ofNat n.toNat]
        else if "eEfFgG%".toList.contains c then return l.float (Number.floatOf n)
        else unknown l
    match v with
    | .int n => ofInt n
    | .bool b =>
      if l.letter.isNone then return l.text (← textOf again v) else ofInt (if b then 1 else 0)
    | .float x =>
      if l.letter.all fun c => "eEfFgGn%".toList.contains c then return l.float x else unknown l
    | .text t => if l.letter.all (· = 's') then return l.text t else unknown l
    | v =>
      if format.isEmpty then textOf again v
      else typeFault ("unsupported format string passed to " ++ (← get).kindName v ++ ".__format__")

example : (Layout.read? ">8.3f".toList, Layout.read? "05d".toList, Layout.read? "zz".toList) =
    (some { align := some '>', width := 8, precision := some 3, letter := some 'f' },
     some { fill := '0', align := some '=', width := 5, letter := some 'd' }, none) := by decide

end Weave.Recipe
