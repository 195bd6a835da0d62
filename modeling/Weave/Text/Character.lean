import Weave.Text.Line

/-!
# Kinds of characters

What counts as white space, and which characters differ by case alone.
-/

/-!
## White space

The characters with the Unicode property White_Space. The table is complete:
it has twenty-five members, of which six lie below U+0080.
-/
namespace Weave.Text

/-- First and last code point of each run of white space. -/
def blankRanges : List (Nat × Nat) :=
  [(0x09, 0x0D), (0x20, 0x20), (0x85, 0x85), (0xA0, 0xA0), (0x1680, 0x1680),
   (0x2000, 0x200A), (0x2028, 0x2029), (0x202F, 0x202F), (0x205F, 0x205F), (0x3000, 0x3000)]

def isBlank (c : Char) : Bool :=
  blankRanges.any fun r => r.1 ≤ c.toNat && c.toNat ≤ r.2

/-- A line that begins with white space. -/
def isIndented : Text → Bool
  | [] => false
  | c :: _ => isBlank c

end Weave.Text

/-!
## Names that ignore case

Command names and formats are compared without regard to case. The names known
here consist of ASCII letters, so only those characters count whose lower case
is an ASCII letter: the capitals and the Kelvin sign.
-/
namespace Weave.Text

def lower (c : Char) : Char :=
  if 'A' ≤ c ∧ c ≤ 'Z' then Char.ofNat (c.toNat + 32)
  else if c = '\u212a' then 'k'
  else c

/-- Whether `name` is the lower-case ASCII word `word`, written in any case. -/
def isWord (word : String) (name : Text) : Bool :=
  name.map lower == word.toList

example : isWord "notebook" "NoteBoo\u212a".toList = true := by decide

end Weave.Text
