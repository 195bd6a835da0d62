import Weave.Instance
import Weave.Text.Line

/-!
# Texts and their bytes

Programs pass bytes to one another. A text of bytes has one character for each
byte, whose number it has. A text becomes bytes by its UTF-8 form; bytes become
a text by reading that form, where whatever cannot be read of it, as far as it
could have been the beginning of a character, shows as one replacement
character.

Names of files are bytes, too, and what cannot be read of them must not be lost.
In a text that names something a byte of that kind stands as two characters: NUL,
which no name holds, and behind it one of the last of all characters.
-/
namespace Weave

/-- A text with one character for each byte. -/
abbrev Bytes := Text

namespace Bytes

/-- The character that a byte stands as, behind NUL. -/
def standIn (b : Char) : Char :=
  Char.ofNat (0x10FF00 + b.toNat)

/-- The byte that stands as a character behind NUL. -/
def byteFor? (c : Char) : Option Char :=
  if 0x10FF80 ≤ c.toNat then some (Char.ofNat (c.toNat - 0x10FF00)) else none

def ofChar (c : Char) : Bytes :=
  (String.utf8EncodeChar c).map fun b => Char.ofNat b.toNat

def ofText : Text → Bytes
  | [] => []
  | [c] => ofChar c
  | c :: d :: rest =>
    match if c = '\x00' then byteFor? d else none with
    | some b => b :: ofText rest
    | none => ofChar c ++ ofText (d :: rest)

def ofArray (a : ByteArray) : Bytes :=
  a.toList.map fun b => Char.ofNat b.toNat

def toArray (b : Bytes) : ByteArray :=
  ⟨(b.map fun c => UInt8.ofNat c.toNat).toArray⟩

/-- How many bytes follow a first byte, and the least and the greatest of the
second one. -/
def following (first : Nat) : Nat × Nat × Nat :=
  if 0xC2 ≤ first && first ≤ 0xDF then (1, 0x80, 0xBF)
  else if first = 0xE0 then (2, 0xA0, 0xBF)
  else if first = 0xED then (2, 0x80, 0x9F)
  else if 0xE1 ≤ first && first ≤ 0xEF then (2, 0x80, 0xBF)
  else if first = 0xF0 then (3, 0x90, 0xBF)
  else if 0xF1 ≤ first && first ≤ 0xF3 then (3, 0x80, 0xBF)
  else if first = 0xF4 then (3, 0x80, 0x8F)
  else (0, 0, 0)

/-- The bytes at the front that continue a character. -/
def continuing : Nat → Nat → Nat → Bytes → Bytes
  | count + 1, least, greatest, b :: rest =>
    if least ≤ b.toNat && b.toNat ≤ greatest then b :: continuing count 0x80 0xBF rest else []
  | _, _, _, _ => []

def replacement : Char := '\ufffd'

/-- The character of a first byte and those that continue it. -/
def character (first : Nat) (tail : Bytes) (count : Nat) : Char :=
  let lead := first % 2 ^ (6 - count)
  Char.ofNat (tail.foldl (fun n b => 64 * n + b.toNat % 64) lead)

/-- Reads the characters, with something in place of bytes that are none; the number bounds how
many there are. -/
def read (unread : Bytes → Text) : Nat → Bytes → Text
  | fuel + 1, b :: rest =>
    if b.toNat < 0x80 then b :: read unread fuel rest
    else
      let (count, least, greatest) := following b.toNat
      let tail := continuing count least greatest rest
      let here := if count = 0 || tail.length < count then unread (b :: tail)
        else [character b.toNat tail count]
      here ++ read unread fuel (rest.drop tail.length)
  | _, _ => []

/-- The text as it can be shown. -/
def toText (b : Bytes) : Text :=
  read (fun _ => [replacement]) b.length b

/-- The text from which the bytes come back. -/
def toName (b : Bytes) : Text :=
  read (List.flatMap fun b => ['\x00', standIn b]) b.length b

example : toText (ofText ['a', '\u00e9', '\u20ac', Char.ofNat 0x1F600]) =
    ['a', '\u00e9', '\u20ac', Char.ofNat 0x1F600] := by decide

example : toText ['a', '\u00ff', '\u00e2', '\u0082', 'b'] = "a\ufffd\ufffdb".toList := by decide

example : ofText (toName ['a', '\u00ff', '\u00e2', '\u0082', 'b']) =
    ['a', '\u00ff', '\u00e2', '\u0082', 'b'] := by decide

end Bytes

end Weave
