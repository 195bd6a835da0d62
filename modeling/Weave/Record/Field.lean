import Weave.Expression.Read
import Weave.Record.Value

/-!
# Records and their fields

A text is cut into records, and a record into fields, by a mark: one character, an
expression, or a mark with a meaning of its own. An empty mark for records cuts at empty
lines; a space as a mark for fields cuts where there is any space.
-/
namespace Weave.Record

/-- What cuts a text. -/
inductive Mark where
  | spaces
  | char (c : Char)
  | expression (e : Expression)
  /-- Every character stands alone. -/
  | nowhere

namespace Mark

/-- The mark that a text stands for. -/
def ofText (t : Bytes) : Mark :=
  match t with
  | [] => nowhere
  | [' '] => spaces
  | [c] => char c
  | t => expression (.ofText .escaped t)

/-- The mark, or else the end of a line. -/
def orLineEnd : Mark → Mark
  | char c => expression (.either (.char c) (.char '\n'))
  | expression e => expression (.either e (.char '\n'))
  | m => m

/-- Cuts a text where an expression matches something. -/
def cutAt (e : Expression) : Nat → Option Char → Bytes → Bytes → List Bytes
  | fuel + 1, before, passed, t =>
    match e.find? before t with
    | none => [passed ++ t]
    | some m =>
      if m.found = [] then
        match m.behind with
        | [] => [passed ++ t]
        | c :: rest => cutAt e fuel (some c) (passed ++ m.before ++ [c]) rest
      else (passed ++ m.before) :: cutAt e fuel m.found.getLast? [] m.behind
  | 0, _, passed, t => [passed ++ t]

/-- The fields of a text. -/
def fields (m : Mark) (t : Bytes) : List Bytes :=
  if t = [] then []
  else
    match m with
    | spaces =>
      (t.splitOnP fun c => c = ' ' || c = '\t' || c = '\n').filter (· ≠ [])
    | char c => Text.splitOn c t
    | expression e => cutAt e (t.length + 1) none [] t
    | nowhere => t.map fun c => [c]

end Mark

/-- The next record of a text and what is behind it, unless the text is at its end. The
mark for records is given as a text. -/
def nextRecord (mark : Bytes) (t : Bytes) : Option (Bytes × Bytes) :=
  let t := if mark = [] then t.dropWhile (· = '\n') else t
  if t = [] then none
  else
    match mark with
    | [c] =>
      let record := t.takeWhile (· ≠ c)
      some (record, t.drop (record.length + 1))
    | mark =>
      let ends : Expression := if mark = [] then
          .both (.char '\n') (.many (.char '\n') 1 none)
        else .ofText .escaped mark
      match (ends.find? none t).filter fun m => m.found != [] with
      | some m => some (m.before, m.behind)
      | none => some (if mark = [] && t.getLast? = some '\n' then t.dropLast else t, [])

/-- What a replacement stands for where some text was found: an ampersand is that text,
unless a backslash is before it. -/
def replacement (found : Bytes) : Bytes → Bytes
  | '\\' :: '&' :: rest => '&' :: replacement found rest
  | '\\' :: '\\' :: '&' :: rest => '\\' :: found ++ replacement found rest
  | '&' :: rest => found ++ replacement found rest
  | c :: rest => c :: replacement found rest
  | [] => []

/-- Replaces what an expression matches, once or everywhere, and counts how often. Behind
a match nothing that is empty counts at once. -/
def replace (e : Expression) (new : Bytes) (everywhere : Bool) :
    Nat → Option Char → Bool → Bytes → Bytes × Nat
  | 0, _, _, t => (t, 0)
  | fuel + 1, before, isBehind, t =>
    match e.find? before t with
    | none => (t, 0)
    | some m =>
      let skips := isBehind && m.found = [] && m.before = []
      let put := if skips then [] else replacement m.found new
      let count := if skips then 0 else 1
      if !everywhere then (m.before ++ put ++ m.behind, count)
      else if m.found = [] then
        match m.behind with
        | [] => (m.before ++ put, count)
        | c :: rest =>
          let (done, n) := replace e new everywhere fuel (some c) false rest
          (m.before ++ put ++ c :: done, n + count)
      else
        let (done, n) := replace e new everywhere fuel m.found.getLast? true m.behind
        (m.before ++ put ++ done, n + count)

/-- Why values cannot be laid out by a format. -/
inductive LayoutFault where
  | lacksValue
  | improper (number : Nat)
deriving Repr, DecidableEq

/-- Lays values out by a format; `conversion` tells how other numbers become text. What
has been laid out stays when something is wrong. -/
def layOut (conversion : Bytes) : Nat → Nat → Bytes → List Value → Bytes × Option LayoutFault
  | 0, _, format, _ => (format, none)
  | fuel + 1, number, format, values =>
    let put (t : Bytes) (number : Nat) (rest : Bytes) (values : List Value) :
        Bytes × Option LayoutFault :=
      let (more, fault) := layOut conversion fuel number rest values
      (t ++ more, fault)
    match format with
    | [] => ([], none)
    | '%' :: '%' :: rest => put ['%'] number rest values
    | '%' :: rest =>
      match Utility.readDirective rest with
      | none => ('%' :: rest, none)
      | some (d, behind) =>
        let isLength (c : Char) : Bool := "hlqLjzt".toList.contains c
        let (d, behind) := if isLength d.conversion then
            let more := behind.dropWhile isLength
            ({ d with conversion := more.headD '%' }, more.drop 1)
          else (d, behind)
        let count (own : Option Nat) (values : List Value) : Int × List Value :=
          match own with
          | some n => (n, values)
          | none => (Value.truncated (values.headD .nothing).toNumber, values.drop 1)
        let (width, values) := match d.width with
          | some n => ((n : Int), values)
          | none => count none values
        let (precision, values) := match d.precision with
          | some own =>
            let (n, values) := count own values
            (if n < 0 then none else some n.toNat, values)
          | none => (none, values)
        let flags := if width < 0 then '-' :: d.flags else d.flags
        let width := width.natAbs
        let c := d.conversion
        if !"csdiouxXeEfFgGaA".toList.contains c then ([], some (.improper number))
        else
          match values with
          | [] => ([], some .lacksValue)
          | value :: values =>
            let shown : Bytes :=
              if c = 'c' then
                let t := match value with
                  | .nothing => []
                  | .text t => t.take 1
                  | value => match value.number? with
                    | some x => [Escape.byte (Value.truncated x % 256).toNat]
                    | none => (value.toText conversion).take 1
                Utility.pad flags width t
              else if c = 's' then
                let t := value.toText conversion
                Utility.pad flags width ((precision.map t.take).getD t)
              else if "diouxX".toList.contains c then
                let (sign, digits) := Utility.digitsFor flags c (Value.truncated value.toNumber)
                Utility.padNumber flags width precision sign digits
              else Value.laidOut d flags width precision value.toNumber
            put shown (number + 1) behind values
    | c :: rest => put [c] number rest values

/-- A part of a text, by the place where it begins, counted from one, and its length. What
lies before the text is passed over. -/
def partOf (t : Bytes) (first : Int) (length : Option Int) : Bytes :=
  let start := (max first 1).toNat
  let from' := t.drop (start - 1)
  match length with
  | none => from'
  | some n => from'.take (if first < 0 then n - first else n).toNat

end Weave.Record
