import Mathlib.Data.List.SplitBy
import Weave.Text.Line

/-!
# Pieces of a text

A text is cut behind every newline. Each piece is a line with its newline; only
the last one may lack it. A text that has no such last piece is ended, and what
is cut of an ended text and of a text behind it is cut of each alone.
-/
namespace Weave.Text

/-- The pieces of a text, cut behind every newline. -/
def pieces (t : Text) : List Text :=
  t.splitBy fun a _ => a ≠ '\n'

/-- The text does not stop inside of a line. -/
def Ended (t : Text) : Prop :=
  ∀ c ∈ t.getLast?, c = '\n'

/-- What may follow the characters of a line in its piece. -/
def IsEnding (t : Text) : Prop :=
  t = [] ∨ t = ['\n']

instance (t : Text) : Decidable (Ended t) :=
  inferInstanceAs (Decidable (∀ c ∈ t.getLast?, c = '\n'))

theorem ended_nil : Ended [] := by
  simp [Ended]

theorem ended_line (line : Text) : Ended (line ++ ['\n']) := by
  simp [Ended]

theorem Ended.append {a b : Text} (ha : Ended a) (hb : Ended b) : Ended (a ++ b) := by
  unfold Ended at *
  grind

theorem Ended.of_append {a b : Text} (h : Ended (a ++ b)) : Ended b := by
  unfold Ended at *
  grind

theorem mem_of_ended {t : Text} (hn : t ≠ []) (h : Ended t) : '\n' ∈ t := by
  have hl := List.getLast?_eq_some_getLast hn
  exact h _ hl ▸ List.getLast_mem hn

@[simp]
theorem pieces_nil : pieces [] = [] := rfl

@[simp]
theorem flatten_pieces (t : Text) : (pieces t).flatten = t :=
  List.flatten_splitBy _ t

theorem pieces_append {a : Text} (ha : Ended a) (b : Text) :
    pieces (a ++ b) = pieces a ++ pieces b := by
  refine List.splitBy_append ?_
  intro x hx y _
  simp [ha x hx]

theorem isChain_line {line : Text} (h : '\n' ∉ line) (c : Char) :
    (line ++ [c]).IsChain fun a _ => decide (a ≠ '\n') = true := by
  induction line with
  | nil => simp
  | cons a line ih =>
      have ha : a ≠ '\n' := fun ha => h (ha ▸ List.mem_cons_self)
      refine List.isChain_cons.2 ⟨?_, ih fun hm => h (List.mem_cons_of_mem a hm)⟩
      simp [ha]

theorem pieces_ended_line {line : Text} (h : '\n' ∉ line) :
    pieces (line ++ ['\n']) = [line ++ ['\n']] :=
  List.splitBy_of_isChain (by simp) (isChain_line h _)

theorem pieces_line {line : Text} (hn : line ≠ []) (h : '\n' ∉ line) : pieces line = [line] := by
  have hl : line.dropLast ++ [line.getLast hn] = line := List.dropLast_append_getLast hn
  have hd : '\n' ∉ line.dropLast := fun hm => h (List.dropLast_subset line hm)
  refine List.splitBy_of_isChain hn ?_
  rw [← hl]
  exact isChain_line hd _

/-- A text is empty, a line that is not ended, or an ended line and a text
behind it. -/
@[elab_as_elim]
theorem line_induction {motive : Text → Prop} (nil : motive [])
    (last : ∀ line, line ≠ [] → '\n' ∉ line → motive line)
    (line : ∀ line rest, '\n' ∉ line → motive rest → motive ((line ++ ['\n']) ++ rest))
    (t : Text) : motive t := by
  induction hn : t.length using Nat.strongRecOn generalizing t with
  | _ n ih =>
      subst hn
      by_cases hm : '\n' ∈ t
      · obtain ⟨front, rest, rfl, hf⟩ := List.eq_append_cons_of_mem hm
        have hr : motive rest := ih _ (by simp; omega) rest rfl
        simpa using line front rest hf hr
      · by_cases ht : t = []
        · exact ht ▸ nil
        · exact last t ht hm

end Weave.Text
