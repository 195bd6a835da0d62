import Weave.Recipe.Equality
import Weave.Text.Character
import Weave.Text.Shape

/-!
# How values of recipes are shown

A value is shown as it would be written in a recipe, where that can be. Texts are printed
as they are, but inside of other values they are shown with quotes. Kinds can have ways
of their own.
-/
namespace Weave.Recipe

namespace Shown

/-- Whether a character leaves nothing to see. -/
def isHidden (c : Char) : Bool :=
  c ≠ ' ' &&
    (Text.inRuns c.toNat Text.hiddenRanges || Text.inRuns c.toNat Text.privateRanges
      || (127 < c.toNat && Text.inRuns c.toNat Text.unassignedRanges))

/-- A number in base sixteen with so many digits at least. -/
def coded (width n : Nat) : Text :=
  let digits := Nat.toDigits 16 n
  List.replicate (width - digits.length) '0' ++ digits

def escaped (quote : Char) (isBytes : Bool) (c : Char) : Text :=
  let n := c.toNat
  if c = quote || c = '\\' then ['\\', c]
  else if c = '\n' then "\\n".toList
  else if c = '\r' then "\\r".toList
  else if c = '\t' then "\\t".toList
  else if n < 32 || n = 127 || (n < 256 && (isBytes && 127 < n || isHidden c)) then
    "\\x".toList ++ coded 2 n
  else if isBytes || !isHidden c then [c]
  else if n < 0x10000 then "\\u".toList ++ coded 4 n
  else "\\U".toList ++ coded 8 n

def quoted (isBytes : Bool) (t : Text) : Text :=
  let quote := if t.contains '\'' && !t.contains '"' then '"' else '\''
  quote :: t.flatMap (escaped quote isBytes) ++ [quote]

def between (first last : String) (parts : List Text) : Text :=
  first.toList ++ Text.joinWith ", ".toList parts ++ last.toList

/-- A function or kind by its own name without the module. -/
def lastName (name : String) : String := ((name.splitOn ".").getLast?).getD name

/-- The name of a kind with its module. -/
def kindTitle (name : String) (isOwn : Bool) : String :=
  if isOwn then "__main__." ++ name else name

end Shown

/-- The fields of an object with a kind of its own. -/
def fieldsOf (v : Value) : Step (List (String × Value)) := do
  match v with
  | .object n =>
    match (← get).object? n with
    | some (.instance' _ fields) => return fields
    | _ => return []
  | _ => return []

/-- The method of an object that its kind has, if it has one. -/
def ownMethod? (v : Value) (name : String) : Step (Option Value) := do
  let s ← get
  match s.kindOf? v with
  | some k => return (s.member? k name).map fun f => .bound v f
  | none => return none

mutual

/-- A value as it would be written. -/
def shown (again : Again) : Nat → Value → Step Text
  | 0, _ => return "...".toList
  | fuel + 1, v => do
    let s ← get
    match v with
    | .none => return "None".toList
    | .bool b => return (if b then "True" else "False").toList
    | .int n => return Number.intText n
    | .float x => return Number.floatText x
    | .text t => return Shown.quoted false t
    | .bytes t => return 'b' :: Shown.quoted true t
    | .dots => return "Ellipsis".toList
    | .path t => return "PosixPath(".toList ++ Shown.quoted false t ++ [')']
    | .tuple [x] => return '(' :: (← shown again fuel x) ++ ",)".toList
    | .tuple xs => return Shown.between "(" ")" (← xs.mapM (shown again fuel))
    | .range a b c =>
      let ends := [a, b] ++ (if c = 1 then [] else [c])
      return Shown.between "range(" ")" (ends.map Number.intText)
    | .slice a b c => return Shown.between "slice(" ")" (← [a, b, c].mapM (shown again fuel))
    | .known n =>
      if s.kindName v = "type" then return ("<class '" ++ n ++ "'>").toList
      return ("<built-in function " ++ Shown.lastName n ++ ">").toList
    | .module n => return ("<module '" ++ n ++ "'>").toList
    | .bound self f =>
      let name := match f with
        | .known n => Shown.lastName n
        | _ => "?"
      return ("<built-in method " ++ name ++ " of " ++ s.kindName self ++ " object>").toList
    | .facet part n =>
      let es ← entriesOf n
      match part with
      | .keys =>
        return Shown.between "dict_keys([" "])" (← es.toList.mapM fun e => shown again fuel e.1)
      | .values =>
        return Shown.between "dict_values([" "])" (← es.toList.mapM fun e => shown again fuel e.2)
      | .items =>
        return Shown.between "dict_items([" "])"
          (← es.toList.mapM fun e => shown again fuel (.tuple [e.1, e.2]))
    | .object n => shownObject again fuel n (s.object? n)

def shownObject (again : Again) : Nat → Nat → Option Object → Step Text
  | 0, _, _ => return "...".toList
  | fuel + 1, n, o => do
    let s ← get
    match o with
    | some (.list xs) => return Shown.between "[" "]" (← xs.toList.mapM (shown again fuel))
    | some (.dict es) =>
      let parts ← es.toList.mapM fun (k, v) => do
        return (← shown again fuel k) ++ ": ".toList ++ (← shown again fuel v)
      return Shown.between "\x7b" "\x7d" parts
    | some (.set xs isFixed) =>
      let parts ← xs.toList.mapM (shown again fuel)
      if xs.isEmpty then return (if isFixed then "frozenset()" else "set()").toList
      if isFixed then return Shown.between "frozenset(\x7b" "\x7d)" parts
      return Shown.between "\x7b" "\x7d" parts
    | some (.function f) => return ("<function " ++ f.fullName ++ " at 0x7f0000000000>").toList
    | some (.kind k) =>
      return ("<class '" ++ Shown.kindTitle k.name (topScope < n) ++ "'>").toList
    | some (.instance' k fields) =>
      match ← ownMethod? (.object n) "__repr__" with
      | some f =>
        match ← again (.call f [] []) with
        | .text t => return t
        | v => typeFault ("__repr__ returned non-string (type " ++ (← get).kindName v ++ ")")
      | none =>
        let name := (s.kind k).name
        let isFault := s.isKindOf k (faultNumber "BaseException")
        match (fields.lookup "args").filter fun _ => isFault with
        | some (.tuple [x]) =>
          return (Shown.lastName name ++ "(").toList ++ (← shown again fuel x) ++ [')']
        | some args => return (Shown.lastName name).toList ++ (← shown again fuel args)
        | none =>
          if k = faultNumber "subprocess.CompletedProcess" then
            let parts ← (fields.filter fun e => e.2 matches .none |> not).mapM fun (n, v) => do
              return n.toList ++ '=' :: (← shown again fuel v)
            return Shown.between (Shown.lastName name ++ "(") ")" parts
          return ("<" ++ Shown.kindTitle name (topScope < k) ++ " object at 0x7f0000000000>").toList
    | some (.file f) =>
      let name ← shown again fuel f.name
      return "<_io.TextIOWrapper name=".toList ++ name ++ " mode='".toList ++ f.mode
        ++ "' encoding='utf-8'>".toList
    | some (.stream _) => return "<generator object>".toList
    | _ => return "<object>".toList

end

def shownWhole (again : Again) (v : Value) : Step Text := shown again maxNesting v

/-- What a fault says. -/
def faultText (again : Again) (kind : Nat) (fields : List (String × Value))
    (textOf : Value → Step Text) : Step Text := do
  let s ← get
  match fields.lookup "errno", fields.lookup "strerror", fields.lookup "filename" with
  | some number, some reason, some file =>
    let head := "[Errno ".toList ++ (← textOf number) ++ "] ".toList ++ (← textOf reason)
    match file, fields.lookup "filename2" with
    | .none, _ => return head
    | file, some .none => return head ++ ": ".toList ++ (← shownWhole again file)
    | file, none => return head ++ ": ".toList ++ (← shownWhole again file)
    | file, some other =>
      return head ++ ": ".toList ++ (← shownWhole again file) ++ " -> ".toList
        ++ (← shownWhole again other)
  | _, _, _ =>
    match fields.lookup "args" with
    | some (.tuple []) => return []
    | some (.tuple [x]) =>
      if s.isKindOf kind (faultNumber "KeyError") then shownWhole again x else textOf x
    | some (.tuple [number, reason]) =>
      if s.isKindOf kind (faultNumber "OSError") then
        return "[Errno ".toList ++ (← textOf number) ++ "] ".toList ++ (← textOf reason)
      shownWhole again (.tuple [number, reason])
    | some args => shownWhole again args
    | none => return []

/-- A value as it is printed. The number bounds how deep faults stand in one another. -/
def printed (again : Again) : Nat → Value → Step Text
  | 0, _ => return []
  | fuel + 1, v => do
    match v with
    | .text t => return t
    | .path t => return t
    | .object n =>
      match (← get).object? n with
      | some (.instance' k fields) =>
        match ← ownMethod? v "__str__" with
        | some f =>
          match ← again (.call f [] []) with
          | .text t => return t
          | v => typeFault ("__str__ returned non-string (type " ++ (← get).kindName v ++ ")")
        | none =>
          let isFault := (← get).isKindOf k (faultNumber "BaseException")
          if isFault && (← ownMethod? v "__repr__").isNone then
            faultText again k fields (printed again fuel)
          else shownWhole again v
      | _ => shownWhole again v
    | v => shownWhole again v

def textOf (again : Again) (v : Value) : Step Text := printed again 20 v

example : [Shown.quoted false "a'b\n".toList, Shown.quoted false ['\'', '"'],
    Shown.quoted true ['\u00e9']].map String.ofList = ["\"a'b\\n\"", "'\\'\"'", "'\\xe9'"] := by
  decide +kernel

end Weave.Recipe
