import Weave.Utility.Escape

/-!
# Permissions

Permissions are nine bits and three more, given as an octal number or as changes to
what they are: for whom, whether they are added, taken away or set, and which.
-/
namespace Weave.Mode

/-- The bits of those that letters stand for: the owner, the group, all others. -/
def whose (c : Char) : Nat :=
  if c = 'u' then 0o4700 else if c = 'g' then 0o2070 else if c = 'o' then 0o1007 else 0o7777

/-- The bits of a permission for all. Some are given only to what may be run by someone
already. -/
def bits (runs : Bool) (old : Nat) (c : Char) : Option Nat :=
  let copied (shift : Nat) : Nat := (old >>> shift) % 8 * 0o111
  match c with
  | 'r' => some 0o444
  | 'w' => some 0o222
  | 'x' => some 0o111
  | 'X' => some (if runs || old &&& 0o111 != 0 then 0o111 else 0)
  | 's' => some 0o6000
  | 't' => some 0o1000
  | 'u' => some (copied 6)
  | 'g' => some (copied 3)
  | 'o' => some (copied 0)
  | _ => none

def without (a b : Nat) : Nat := a - (a &&& b)

/-- Changes for some users, one after the other. Where none are named, those are left
out that are masked. The number bounds how many changes there are. -/
def change? (runs : Bool) (mask : Nat) (who : Bytes) : Nat → Bytes → Nat → Option Nat
  | fuel + 1, sign :: rest, old => do
    if !"+-=".toList.contains sign then none
    else
      let letters := rest.takeWhile fun c => !"+-=".toList.contains c
      let asked ← letters.foldlM (fun n c => (bits runs old c).map (n ||| ·)) 0
      let users := if who = [] then without 0o7777 mask
        else (who.map whose).foldl (· ||| ·) 0
      let granted := asked &&& users
      let new := if sign = '+' then old ||| granted
        else if sign = '-' then without old granted
        else without old (if who = [] then 0o777 else users &&& 0o777) ||| granted
      change? runs mask who fuel (rest.drop letters.length) new
  | 0, _ :: _, _ => none
  | _, [], old => some old

/-- The permissions that a text asks for. `runs` tells whether they are those of what
can be run anyway, such as a directory. -/
def result? (text : Bytes) (runs : Bool) (mask old : Nat) : Option Nat :=
  if text != [] && text.all Escape.isOctal then
    let n := Escape.numberIn 8 text
    if n ≤ 0o7777 then some n else none
  else
    (Text.splitOn ',' text).foldlM (fun old part =>
      let who := part.takeWhile "ugoa".toList.contains
      match part.drop who.length with
      | [] => none
      | changes => change? runs mask who changes.length changes old) old

/-- A number in four octal digits. -/
def octal (n : Nat) : Bytes :=
  let digits := Nat.toDigits 8 n
  List.replicate (4 - digits.length) '0' ++ digits

/-- The letters of the permissions that three bits give. -/
def letters (three : Nat) : Bytes :=
  (if three &&& 4 != 0 then ['r'] else []) ++ (if three &&& 2 != 0 then ['w'] else [])
    ++ (if three &&& 1 != 0 then ['x'] else [])

/-- Permissions as settings for the three kinds of users. -/
def symbols (mode : Nat) : Bytes :=
  "u=".toList ++ letters (mode / 64 % 8) ++ ",g=".toList ++ letters (mode / 8 % 8)
    ++ ",o=".toList ++ letters (mode % 8)

/-- Permissions as nine letters, with a dash for each that is not given. -/
def table (mode : Nat) : Bytes :=
  let three (n : Nat) (special : Bool) (mark : Char) : Bytes :=
    let run := if special then (if n &&& 1 != 0 then mark else mark.toUpper)
      else if n &&& 1 != 0 then 'x' else '-'
    [if n &&& 4 != 0 then 'r' else '-', if n &&& 2 != 0 then 'w' else '-', run]
  three (mode / 64 % 8) (mode &&& 0o4000 != 0) 's'
    ++ three (mode / 8 % 8) (mode &&& 0o2000 != 0) 's'
    ++ three (mode % 8) (mode &&& 0o1000 != 0) 't'

example : [result? "u=rwx,go-w".toList false 0o022 0o666, result? "+x".toList false 0o022 0o644,
    result? "a-x".toList false 0 0o755, result? "8".toList false 0 0] =
    [some 0o744, some 0o755, some 0o644, none] := by decide

end Weave.Mode
