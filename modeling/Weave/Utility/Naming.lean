import Weave.Text.Bytes

/-!
# Names in messages

A message shows a word between marks, or in the form in which one would write it as a
word of a command, where some characters call for marks and those that cannot be seen
are shown by their octal numbers.
-/
namespace Weave.Naming

/-- Characters that mean something in a command. -/
def isSpecial (c : Char) : Bool :=
  " !\"$&()*;<=>?[\\]^`|:'".toList.contains c

def isVisible (c : Char) : Bool :=
  32 ≤ c.toNat && c.toNat < 127

/-- Whether a word is to be shown between marks. -/
def needsMarks (t : Bytes) : Bool :=
  t = [] || t.any (fun c => isSpecial c || !isVisible c)
    || (t.length = 1 && (t = ['\x7b'] || t = ['\x7d']))
    || t.head?.any fun c => c = '#' || c = '~'

def octal (n : Nat) : Bytes :=
  let digits := Nat.toDigits 8 n
  List.replicate (3 - digits.length) '0' ++ digits

/-- The form of a character that cannot be seen. -/
def escape (c : Char) : Bytes :=
  '\\' :: match c with
    | '\x07' => ['a']
    | '\x08' => ['b']
    | '\t' => ['t']
    | '\n' => ['n']
    | '\x0b' => ['v']
    | '\x0c' => ['f']
    | '\r' => ['r']
    | c => octal c.toNat

/-- A word between single marks as a command may hold it. `open'` tells whether the
marks are open. -/
def inCommand : Bool → Bytes → Bytes
  | true, [] => ['\'']
  | false, [] => []
  | true, c :: rest =>
    if c = '\'' then "'\\''".toList ++ inCommand true rest
    else if isVisible c then c :: inCommand true rest
    else "'$'".toList ++ escape c ++ inCommand false rest
  | false, c :: rest =>
    if isVisible c then "''".toList ++ (if c = '\'' then "\\''".toList else [c])
      ++ inCommand true rest
    else escape c ++ inCommand false rest

/-- A word as a command may hold it, always between marks. -/
def marked (t : Bytes) : Bytes :=
  let plain := t.all fun c => isVisible c && !"\"$`\\!".toList.contains c
  if t.contains '\'' && plain then '"' :: t ++ ['"'] else '\'' :: inCommand true t

/-- A word as a command may hold it. -/
def bare (t : Bytes) : Bytes :=
  if needsMarks t then marked t else t

/-- A word as a command may hold it, with a backslash before each character that means
something there. -/
def escaped (t : Bytes) : Bytes :=
  if t = [] then "''".toList
  else if t.all isVisible then
    t.flatMap fun c => if isSpecial c || "\x7b\x7d,".toList.contains c then ['\\', c] else [c]
  else "$'".toList ++ t.flatMap (fun c => if c = '\'' || c = '\\' then ['\\', c]
    else if isVisible c then [c] else escape c) ++ ['\'']

/-- A word between single marks. -/
def quoted (t : Bytes) : Bytes :=
  '\'' :: t.flatMap (fun c => if c = '\'' || c = '\\' then ['\\', c]
    else if isVisible c then [c] else escape c) ++ ['\'']

example : [marked "a b".toList, marked "it's".toList, bare "a\nb".toList, bare "ab".toList] =
    ["'a b'".toList, "\"it's\"".toList, "'a'$'\\n''b'".toList, "ab".toList] := by decide

end Weave.Naming
