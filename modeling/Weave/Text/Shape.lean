import Weave.Text.Line
import Weave.Text.Shape.Table

/-!
# Characters without a shape of their own

Shown alone, some characters leave nothing to see or lean on a neighbour:
controls, separators, every space but the plain one, format characters, fillers
that are meant to be invisible, marks on the character before, characters for
private use and code points without a character. The tables follow version 17
of the Unicode data; of the plain characters only the controls have no shape.
-/
namespace Weave.Text

/-- Controls, separators, spaces, format characters and invisible fillers. -/
def hiddenRanges : List (Nat × Nat) :=
  [(0x00, 0x1F), (0x7F, 0xA0), (0xAD, 0xAD), (0x600, 0x605), (0x61C, 0x61C), (0x6DD, 0x6DD),
   (0x70F, 0x70F), (0x890, 0x891), (0x8E2, 0x8E2), (0x115F, 0x1160), (0x1680, 0x1680),
   (0x180E, 0x180E), (0x2000, 0x200F), (0x2028, 0x202F), (0x205F, 0x2064), (0x2066, 0x206F),
   (0x3000, 0x3000), (0x3164, 0x3164), (0xFEFF, 0xFEFF), (0xFFA0, 0xFFA0), (0xFFF9, 0xFFFB),
   (0x110BD, 0x110BD), (0x110CD, 0x110CD), (0x13430, 0x1343F), (0x1BCA0, 0x1BCA3),
   (0x1D173, 0x1D17A), (0xE0001, 0xE0001), (0xE0020, 0xE007F)]

def privateRanges : List (Nat × Nat) :=
  [(0xE000, 0xF8FF), (0xF0000, 0xFFFFD), (0x100000, 0x10FFFD)]

/-- Whether a code point lies in one of the runs, which ascend. -/
def inRuns (code : Nat) : List (Nat × Nat) → Bool
  | [] => false
  | (first, last) :: rest => first ≤ code && (code ≤ last || inRuns code rest)

def isShapeless (c : Char) : Bool :=
  if c.toNat < 0x80 then c.toNat < 0x20 || c.toNat = 0x7F
  else
    inRuns c.toNat hiddenRanges || inRuns c.toNat markRanges || inRuns c.toNat privateRanges
      || inRuns c.toNat unassignedRanges

example : ["a", " ", "\u00e9", "\u20ac"].map (fun s => s.toList.map isShapeless) =
    [[false], [false], [false], [false]] := by decide +kernel

example : ["\x7f", "\u00a0", "\u0301", "\u200b"].map (fun s => s.toList.map isShapeless) =
    [[true], [true], [true], [true]] := by decide +kernel

end Weave.Text

/-!
## Quoted texts

The quoted form of a text shows what a reader would not see: quotes,
backslashes and the common control characters by their escapes, and any other
character that has no shape of its own by its number. Single quotes stand for
themselves.
-/
namespace Weave.Text

def quoteChar (c : Char) : Text :=
  if c = '"' then "\\\"".toList
  else if c = '\\' then "\\\\".toList
  else if c = '\n' then "\\n".toList
  else if c = '\r' then "\\r".toList
  else if c = '\t' then "\\t".toList
  else if c = '\x00' then "\\0".toList
  else if isShapeless c then "\\u\x7b".toList ++ Nat.toDigits 16 c.toNat ++ ['\x7d']
  else [c]

def quoted (t : Text) : Text :=
  '"' :: t.flatMap quoteChar ++ ['"']

example : quoted "a\"b\\c\n\x7f'".toList = "\"a\\\"b\\\\c\\n\\u\x7b7f\x7d'\"".toList := by decide

end Weave.Text
