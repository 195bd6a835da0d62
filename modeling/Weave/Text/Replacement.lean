import Weave.Text.Line

/-!
# Replacing in a text from left to right

A rule looks at the rest of a text and says whether it applies there. Replacing
goes through the text once: where the rule applies, the characters it covers
give way to its fill, and the search goes on behind them; every other character
stays. What a fill brings in is never looked at again, so matches do not
overlap and no rule sees its own output.
-/
namespace Weave.Text

/-- A match: the first character, `more` characters behind it, and the text
that takes their place. -/
structure Hit where
  more : Nat
  fill : Text
deriving Repr, DecidableEq

/-- A rule is told whether the rest it looks at begins a line. -/
abbrev Rule := Bool → Text → Option Hit

/-- Replaces in a text whose first `covered` characters are already spoken for. -/
def replaceFrom (rule : Rule) : Nat → Bool → Text → Text
  | _, _, [] => []
  | covered + 1, _, c :: rest => replaceFrom rule covered (c == '\n') rest
  | 0, fresh, c :: rest =>
    match rule fresh (c :: rest) with
    | some hit => hit.fill ++ replaceFrom rule hit.more (c == '\n') rest
    | none => c :: replaceFrom rule 0 (c == '\n') rest

def replaceBy (rule : Rule) (t : Text) : Text :=
  replaceFrom rule 0 true t

/-- Applies wherever a given non-empty text stands. -/
def literal (old new : Text) : Rule := fun _ t =>
  if beginsWith old t then some ⟨old.length - 1, new⟩ else none

/-- Every occurrence of `old` becomes `new`. The empty text occurs before every
character and at the end. -/
def replaceAll (old new t : Text) : Text :=
  if old = [] then t.flatMap (new ++ [·]) ++ new
  else replaceBy (literal old new) t

/-- Line endings of two characters become single newlines. -/
def unifyNewlines : Text → Text :=
  replaceAll "\r\n".toList "\n".toList

/-- The parts before and behind the first occurrence of `mark`. -/
def cutAt (mark : Text) : Text → Option (Text × Text)
  | [] => if mark = [] then some ([], []) else none
  | c :: rest =>
    if beginsWith mark (c :: rest) then some ([], (c :: rest).drop mark.length)
    else (cutAt mark rest).map fun p => (c :: p.1, p.2)

@[simp]
theorem replaceFrom_nil (rule : Rule) (n : Nat) (fresh : Bool) :
    replaceFrom rule n fresh [] = [] := by
  cases n <;> rfl

@[simp]
theorem replaceFrom_covered (rule : Rule) (n : Nat) (fresh : Bool) (c : Char) (t : Text) :
    replaceFrom rule (n + 1) fresh (c :: t) = replaceFrom rule n (c == '\n') t := rfl

theorem replaceFrom_keep {rule : Rule} {fresh : Bool} {c : Char} {t : Text}
    (h : rule fresh (c :: t) = none) :
    replaceFrom rule 0 fresh (c :: t) = c :: replaceFrom rule 0 (c == '\n') t := by
  simp [replaceFrom, h]

theorem replaceFrom_hit {rule : Rule} {fresh : Bool} {c : Char} {t : Text} {hit : Hit}
    (h : rule fresh (c :: t) = some hit) :
    replaceFrom rule 0 fresh (c :: t) =
      hit.fill ++ replaceFrom rule hit.more (c == '\n') t := by
  simp [replaceFrom, h]

theorem cutAt_eq_append {mark t before behind : Text} (h : cutAt mark t = some (before, behind)) :
    t = before ++ mark ++ behind := by
  induction t generalizing before with
  | nil =>
    simp only [cutAt] at h
    split at h
    · simp_all
    · simp at h
  | cons c rest ih =>
    simp only [cutAt] at h
    split at h
    · rename_i hp
      obtain ⟨tail, ht⟩ := List.isPrefixOf_iff_prefix.1 hp
      simp only [Option.some.injEq, Prod.mk.injEq] at h
      obtain ⟨rfl, rfl⟩ := h
      simp [← ht]
    · obtain ⟨⟨b, r⟩, hb, hr⟩ := Option.map_eq_some_iff.1 h
      simp only [Prod.mk.injEq] at hr
      obtain ⟨rfl, rfl⟩ := hr
      simp [ih hb]

end Weave.Text
