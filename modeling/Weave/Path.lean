import Weave.Text.Bytes
import Weave.Text.Shape

/-!
# Paths

A path is a text whose parts are separated by slashes. Empty parts and single
dots say nothing, except that a leading slash means the root and a leading dot
counts as a part of its own. Paths are printed as they are written, so nothing
here tidies them but `absolute`.

The system takes a path for bytes, and they need not be UTF-8. A byte that is no part
of a character stands in the path as NUL and a character for the byte. Such a
path is no text, and it is shown with replacement characters. No path of the system has
a NUL in it, so the only texts that are taken for other paths are some that it would refuse.
-/
namespace Weave

/-- A path as it is written. -/
abbrev Path := Text

namespace Path

/-- Whether a byte that is no part of a character stands in a path. -/
def holdsByte : Path → Bool
  | c :: d :: rest => (c = '\x00' && (Bytes.byteFor? d).isSome) || holdsByte (d :: rest)
  | _ => false

/-- Whether a path is UTF-8. -/
def isText (p : Path) : Bool :=
  !p.holdsByte

/-- Whether there is a NUL in a path, which no path of the system has. -/
def holdsNul : Path → Bool
  | [] => false
  | [c] => c = '\x00'
  | c :: d :: rest =>
    if c = '\x00' then
      match Bytes.byteFor? d with
      | some _ => holdsNul rest
      | none => true
    else holdsNul (d :: rest)

/-- A path as it is shown. -/
def shown (p : Path) : Text :=
  if p.isText then p else Bytes.toText (Bytes.ofText p)

/-- What stands in quotes, with a byte that is no part of a character by its number. -/
def quotedInside : Path → Text
  | [] => []
  | [c] => Text.quoteChar c
  | c :: d :: rest =>
    match if c = '\x00' then Bytes.byteFor? d else none with
    | some b => '\\' :: 'x' :: (Nat.toDigits 16 b.toNat).map Char.toUpper ++ quotedInside rest
    | none => Text.quoteChar c ++ quotedInside (d :: rest)

def quoted (p : Path) : Text :=
  '"' :: p.quotedInside ++ ['"']

def quotedList (ps : List Path) : Text :=
  '[' :: Text.joinWith ", ".toList (ps.map quoted) ++ [']']

def dot : Text := ['.']

def dotDot : Text := ['.', '.']

/-- A part that says nothing. -/
def isVoid (part : Text) : Bool :=
  part = [] || part = dot

def isRooted (p : Path) : Bool :=
  p.head? == some '/'

/-- The parts that count. A leading dot of a path that is not rooted does. -/
def steps (p : Path) : List Text :=
  match Text.splitOn '/' p with
  | [] => []
  | first :: rest =>
    let rest := rest.filter fun part => !isVoid part
    if first = [] then rest else first :: rest

/-- The last part, where it is a name. -/
def fileName? (p : Path) : Option Text :=
  p.steps.getLast?.filter fun part => !(part = dot || part = dotDot)

def dropVoidTail (parts : List Text) : List Text :=
  (parts.reverse.dropWhile isVoid).reverse

/-- What stands before the last part that counts. The root and the empty path
have no parent. -/
def parent? (p : Path) : Option Path :=
  match Text.splitOn '/' p with
  | [] => none
  | first :: rest =>
    match dropVoidTail rest with
    | [] => if first = [] then none else some []
    | rest =>
      match dropVoidTail rest.dropLast with
      | [] => some (if first = [] then ['/'] else first)
      | rest => some (Text.joinWith ['/'] (first :: rest))

/-- A name up to its last dot, unless that is its first character. -/
def stemOf (name : Text) : Text :=
  match Text.joinWith ['.'] (Text.splitOn '.' name).dropLast with
  | [] => name
  | stem => stem

def stem? (p : Path) : Option Text :=
  p.fileName?.map stemOf

/-- The path of `p` seen from `dir`. -/
def join (dir p : Path) : Path :=
  if p.isRooted || dir = [] then p
  else if dir.getLast? = some '/' then dir ++ p
  else dir ++ '/' :: p

/-- The path seen from the root, where `here` is the path of the working
directory. A slash at the end stays, and so do exactly two at the beginning.
The empty path has no such form. -/
def absolute? (here : Path) (p : Path) : Option Path :=
  if p = [] then none
  else
    let base :=
      if !p.isRooted then here
      else if Text.beginsWith "//".toList p && !Text.beginsWith "///".toList p then "//".toList
      else "/".toList
    let steps := match p.steps with
      | first :: rest => if first = dot then rest else first :: rest
      | [] => []
    let full := steps.foldl join base
    some (if p.getLast? = some '/' && full.getLast? != some '/' then full ++ ['/'] else full)

example : stem? "src/a.tar.gz".toList = some "a.tar".toList := by decide

example : ["..foo", "...", ".jl", "x/..", ".", "/", "a/."].map (fun p => stem? p.toList) =
    [some ".".toList, some "..".toList, some ".jl".toList, none, none, none,
     some "a".toList] := by decide

example : ["a/b/", "a//b", "/a", "./a", "..", "", "/", "a/./b"].map (fun p => parent? p.toList) =
    [some "a".toList, some "a".toList, some "/".toList, some ".".toList, some [], none, none,
     some "a".toList] := by decide

example : [['a', '\x00', Bytes.standIn '\xff'], "a\x00b".toList, "ab".toList].map
    (fun p => (isText p, holdsNul p, shown p, quoted p)) =
    [(false, false, "a\ufffd".toList, "\"a\\xFF\"".toList),
     (true, true, "a\x00b".toList, "\"a\\0b\"".toList),
     (true, false, "ab".toList, "\"ab\"".toList)] := by decide +kernel

example : ["//a/./b", "///a", "./", "a/../b/", ".", "//"].map
    (fun p => absolute? "/w".toList p.toList) =
    [some "//a/b".toList, some "/a".toList, some "/w/".toList, some "/w/a/../b/".toList,
     some "/w".toList, some "//".toList] := by decide

end Path

end Weave
