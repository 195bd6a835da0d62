import Weave.Digest
import Weave.Utility.Escape
import Weave.Utility.Lines

/-!
# Showing bytes

The bytes of files in numbers or characters, line by line, with the place of each line. A
line that is like the one before is left out, and so are those behind it.
-/
namespace Weave.Utility

open Job

/-- A form in which bytes are shown: a letter for it, the number of bytes that are taken
together, and whether the line ends in its characters. -/
structure ByteForm where
  letter : Char
  size : Nat
  shows : Bool := false
deriving Repr, DecidableEq

namespace ByteForm

/-- The names of the bytes that cannot be seen. -/
def controlNames : List String :=
  ["nul", "soh", "stx", "etx", "eot", "enq", "ack", "bel", "bs", "ht", "nl", "vt", "ff", "cr", "so",
   "si", "dle", "dc1", "dc2", "dc3", "dc4", "nak", "syn", "etb", "can", "em", "sub", "esc", "fs",
   "gs", "rs", "us", "sp"]

/-- How many characters a number of some size needs. -/
def width (f : ByteForm) : Nat :=
  match f.letter with
  | 'o' => (8 * f.size + 2) / 3
  | 'x' => 2 * f.size
  | 'u' => (Text.ofNat (2 ^ (8 * f.size) - 1)).length
  | 'd' => (Text.ofNat (2 ^ (8 * f.size - 1))).length + 1
  | _ => 3

def octal (n : Nat) : Bytes :=
  let digits := Nat.toDigits 8 n
  List.replicate (3 - digits.length) '0' ++ digits

/-- A byte as a character, by an escape or by its number. -/
def charText (n : Nat) : Bytes :=
  match n with
  | 0 => "\\0".toList
  | 7 => "\\a".toList
  | 8 => "\\b".toList
  | 9 => "\\t".toList
  | 10 => "\\n".toList
  | 11 => "\\v".toList
  | 12 => "\\f".toList
  | 13 => "\\r".toList
  | n => if 32 ≤ n && n < 127 then [Char.ofNat n] else octal n

def filledTo (width : Nat) (digits : Bytes) : Bytes :=
  List.replicate (width - digits.length) '0' ++ digits

/-- What is shown for bytes that are taken together. -/
def text (f : ByteForm) (bytes : List Nat) : Bytes :=
  let n := Digest.number true bytes
  match f.letter with
  | 'o' => filledTo f.width (Nat.toDigits 8 n)
  | 'x' => filledTo f.width (Nat.toDigits 16 n)
  | 'u' => Text.ofNat n
  | 'd' =>
    if 2 ^ (8 * f.size - 1) ≤ n then '-' :: Text.ofNat (2 ^ (8 * f.size) - n) else Text.ofNat n
  | 'a' =>
    let n := n % 128
    match controlNames[n]? with
    | some name => name.toList
    | none => if n = 127 then "del".toList else [Char.ofNat n]
  | _ => charText n

/-- The sizes that letters stand for. -/
def sizes : List (Char × Nat) := [('C', 1), ('S', 2), ('I', 4), ('L', 8)]

/-- Reads forms, one behind the other. The number bounds how many there are. -/
def read (whole : Bytes) : Nat → Bytes → Except Bytes (List ByteForm)
  | 0, _ => .ok []
  | _ + 1, [] => .ok []
  | fuel + 1, c :: rest =>
    if c = 'a' || c = 'c' then go fuel c 1 rest
    else if "doux".toList.contains c then
      let digits := rest.takeWhile Char.isDigit
      if digits != [] then
        let n := Escape.numberIn 10 digits
        if [1, 2, 4, 8].contains n then go fuel c n (rest.drop digits.length)
        else .error ("invalid type string ".toList ++ shown whole
          ++ ";\nthis system doesn't provide a ".toList ++ digits ++ "-byte integral type".toList)
      else
        match rest with
        | s :: more => match sizes.lookup s with
          | some n => go fuel c n more
          | none => go fuel c 4 rest
        | [] => go fuel c 4 []
    else .error ("invalid character '".toList ++ c :: "' in type string ".toList ++ shown whole)
where
  go (fuel : Nat) (c : Char) (n : Nat) (rest : Bytes) : Except Bytes (List ByteForm) := do
    match rest with
    | 'z' :: rest => return ⟨c, n, true⟩ :: (← read whole fuel rest)
    | rest => return ⟨c, n, false⟩ :: (← read whole fuel rest)

/-- The forms that letters of options stand for. -/
def letters : List (Char × ByteForm) :=
  [('a', ⟨'a', 1, false⟩), ('b', ⟨'o', 1, false⟩), ('c', ⟨'c', 1, false⟩), ('d', ⟨'u', 2, false⟩),
   ('i', ⟨'d', 4, false⟩), ('l', ⟨'d', 8, false⟩), ('o', ⟨'o', 2, false⟩), ('s', ⟨'d', 2, false⟩),
   ('x', ⟨'x', 2, false⟩)]

/-- A line of bytes in one form. `all` is the room for a full line, and so many bytes fit in
one. -/
def line (f : ByteForm) (all perLine : Nat) (bytes : List Nat) : Bytes :=
  let count := perLine / f.size
  let spare := all - count * f.width
  let pieces := Digest.parts f.size bytes.length bytes
  let cells := pieces.zipIdx.map fun (piece, i) =>
    let room := f.width + spare * (count - i) / count - spare * (count - i - 1) / count
    let t := f.text piece
    List.replicate (room - t.length) ' ' ++ t
  let shown := cells.flatten
  if f.shows then
    let visible := bytes.map fun n => if 32 ≤ n && n < 127 then Char.ofNat n else '.'
    shown ++ List.replicate (all - shown.length) ' ' ++ "  >".toList ++ visible ++ ['<']
  else shown

end ByteForm

/-- The place of a line by the letter of its base. -/
def placeText (radix : Char) (n : Nat) : Bytes :=
  match radix with
  | 'd' => ByteForm.filledTo 7 (Text.ofNat n)
  | 'x' => ByteForm.filledTo 6 (Nat.toDigits 16 n)
  | 'n' => []
  | _ => ByteForm.filledTo 7 (Nat.toDigits 8 n)

/-- Prints lines of bytes. What was printed last is given, and whether lines have been left
out since. -/
def dumpLines (forms : List ByteForm) (radix : Char) (all : Nat) (perLine : Nat) (keeps : Bool) :
    List (List Nat) → Nat → Option (List Nat) → Bool → Task Unit
  | [], _, _, _ => return ()
  | bytes :: more, place, last, isOut => do
    if !keeps && last = some bytes && bytes.length = perLine then
      if !isOut then printLine ['*']
      dumpLines forms radix all perLine keeps more (place + perLine) last true
    else
      for (f, i) in forms.zipIdx do
        let label := placeText radix place
        let front := if i = 0 then label else List.replicate label.length ' '
        printLine (front ++ f.line all perLine bytes)
      dumpLines forms radix all perLine keeps more (place + perLine) (some bytes) false

/-- Words of which the option for the width has a value of its own. -/
def withLineWidth (word : Bytes) : Bytes :=
  if word = "-w".toList || word = "--width".toList then "-w32".toList else word

/-- Shows the bytes of files. -/
def od : Utility := fun words =>
  let o : Options :=
    { flags := "abcdilosxv", valued := "AjNtwS"
      names := [("address-radix", 'A'), ("skip-bytes", 'j'), ("read-bytes", 'N'), ("format", 't'),
        ("output-duplicates", 'v'), ("width", 'w')] }
  withWords o (words.map withLineWidth) fun w => do
    let radix := (w.value? 'A').getD ['o']
    if !"doxn".toList.contains (radix.headD ' ') then
      return (← complain ("invalid output address radix ".toList ++ Naming.quoted (radix.take 1)
        ++ "; it must be one character from [doxn]".toList))
    let given := (w.values.filter fun v => v.1 = 't').map Prod.snd
    match given.mapM fun t => ByteForm.read t (t.length + 1) t with
    | .error message => complain message
    | .ok asked =>
      let short := w.flags.filterMap fun c => ByteForm.letters.lookup c
      let forms := short ++ asked.flatten
      let forms := if forms = [] then [⟨'o', 2, false⟩] else forms
      let mut bytes := []
      let mut found := false
      for name in orInput w.rest do
        if let some t ← contentOf name then
          bytes := bytes ++ t.map Char.toNat
          found := true
      if !found then return
      let skipped := ((w.value? 'j').bind Amount.read?).getD 0
      if bytes.length < skipped then
        return (← complain "cannot skip past end of combined input".toList)
      let kept := bytes.drop skipped
      let kept := match (w.value? 'N').bind Amount.read? with
        | some n => kept.take n
        | none => kept
      let perLine := max 1 (((w.value? 'w').bind Amount.plain?).getD 16)
      let room := (forms.map fun f => perLine / f.size * (f.width + 1)).foldl max 0
      dumpLines forms (radix.headD 'o') room perLine (w.has "v")
        (Digest.parts perLine kept.length kept) skipped none false
      if radix.head? != some 'n' then
        printLine (placeText (radix.headD 'o') (skipped + kept.length))

end Weave.Utility
