import Weave.Proofs.Chunk.Continuation
import Weave.Proofs.Text.Lines

/-!
# Documents with a break line between them

A break line makes one document of two. Their lines are cut as if each document
stood alone, because no run reaches across a break. What is left of the first
one behind the break is which code it passed last, and that is met by the first
code of the second one: these two chunks may mark each other, and no other
chunk takes notice.

Marking is looked at in the form that writes back to the code it left, since
what it has passed is then all that it carries to the second document.
-/
namespace Weave.Chunk

open Segmentation

theorem segmentation_append_break (a b : List Text) {l : Text} (h : isBreak l = true) :
    segmentation (a ++ l :: b) = segmentation a ++ segmentation b := by
  unfold segmentation
  rw [pieces_append_break a b h, tidied_append]

/-- What the pass has left behind is all it knows of the chunks it passed. -/
theorem markBack_append (passed a b : List Chunk) :
    markBack passed (a ++ b) = markBack (markBack passed a).reverse b := by
  induction a generalizing passed with
  | nil => simp [markBack]
  | cons c a ih => cases c <;> exact ih _

/-- Code that closed indented before the chunks marks the first of them. -/
theorem markContinued_eq_markFirst (afterOpen : Bool) (cs : List Chunk) :
    markContinued afterOpen cs = markFirst afterOpen (markContinued false cs) := by
  induction cs with
  | nil => rfl
  | cons c cs ih =>
      cases c with
      | prose ls => rw [markContinued, ih, markContinued, markFirst]
      | code ls continued =>
          simp only [markContinued, markFirst, Bool.or_false, List.cons.injEq, code.injEq, and_true,
            true_and]
          cases afterOpen <;> simp

/-- Marks the last code of a list. -/
def markLast (value : Bool) (cs : List Chunk) : List Chunk :=
  (markFirst value cs.reverse).reverse

theorem markContinued_append (a b : List Chunk) :
    markContinued false (a ++ b) = markLast (nextOpens b) (markContinued false a) ++
      markFirst (closesAfter false (markContinued false a)) (markContinued false b) := by
  have hc : ∀ cs, closesAfter false cs = (cs.reverse.find? isCode).any closesIndented := by
    intro cs
    unfold closesAfter
    cases cs.reverse.find? isCode <;> rfl
  rw [← markBack_eq_markContinued, markBack_append, markBack_eq_markContinued, markBack_eq, ← hc,
    markContinued_eq_markFirst (closesAfter false (markContinued false a)) b]
  rfl

theorem outline_markFirst (value : Bool) (cs : List Chunk) :
    (markFirst value cs).map outline = cs.map outline := by
  induction cs with
  | nil => rfl
  | cons c cs ih => cases c <;> simp [markFirst, outline, kind, lines, ih]

theorem outline_markLast (value : Bool) (cs : List Chunk) :
    (markLast value cs).map outline = cs.map outline := by
  rw [markLast, List.map_reverse, outline_markFirst, List.map_reverse, List.reverse_reverse]

/-- What a break line ends is a break line, also without its carriage return. -/
theorem isBreak_bareLine {d : Text} (h : "#-".toList <+: d) :
    isBreak (Text.bareLine (d ++ ['\n'])) = true := by
  obtain ⟨rest, rfl⟩ := h
  rw [Text.bareLine_ended_line]
  split
  · cases rest with
    | nil => simp_all
    | cons c rest => rfl
  · rfl

theorem ofText_append_break_line {a d : Text} (ha : Text.Ended a) (hd : "#-".toList <+: d)
    (hn : '\n' ∉ d) (b : Text) :
    ofText (a ++ (d ++ '\n' :: b)) = markLast (nextOpens (ofText b)) (ofText a) ++
      markFirst (closesAfter false (ofText a)) (ofText b) := by
  rw [List.append_cons, ofText_eq_markContinued, Text.lines_append ha,
    Text.lines_ended_line_append hn, segmentation_append_break _ _ (isBreak_bareLine hd),
    List.map_append, markContinued_append,
    ← nextOpens_markContinued false ((segmentation b.lines).map ofOutline),
    ← ofText_eq_markContinued, ← ofText_eq_markContinued]

/-- The chunks of two documents with a break line between them are those of the
one and those of the other, in kind and lines. Of their flags only two may
change: the last code of the one is also continued if the first code of the other
begins indented, and that one if the last code before the break ends indented. -/
theorem ofText_append_break {a d : Text} (ha : a = [] ∨ a.getLast? = some '\n')
    (hd : "#-".toList <+: d) (hn : '\n' ∉ d) (b : Text) :
    (ofText (a ++ (d ++ '\n' :: b))).map outline =
      (ofText a).map outline ++ (ofText b).map outline ∧
    ∃ opens closes : Bool,
      (opens = true ↔ ∃ n, FirstCode (ofText b) n ∧ OpensBlank n) ∧
      (closes = true ↔ ∃ p, LastCode (ofText a) p ∧ ClosesBlank p) ∧
      ofText (a ++ (d ++ '\n' :: b)) = markLast opens (ofText a) ++ markFirst closes (ofText b) := by
  have he : Text.Ended a := by
    rcases ha with rfl | ha
    · exact Text.ended_nil
    · simp [Text.Ended, ha]
  have hj := ofText_append_break_line he hd hn b
  refine ⟨?_, nextOpens (ofText b), closesAfter false (ofText a), nextOpens_iff _,
    closesAfter_iff _, hj⟩
  have ho := congrArg (List.map outline) hj
  rwa [List.map_append, outline_markLast, outline_markFirst] at ho

/-- A call that goes on behind the break, with prose at the end of the first document. -/
theorem ofText_append_break_call :
    ("f(\n#' x\n".toList = [] ∨ "f(\n#' x\n".toList.getLast? = some '\n') ∧
    "#-".toList <+: "#- y\r".toList ∧ '\n' ∉ "#- y\r".toList ∧
    (ofText ("f(\n#' x\n".toList ++ ("#- y\r".toList ++ '\n' :: " 1)".toList))).map outline =
      (ofText "f(\n#' x\n".toList).map outline ++ (ofText " 1)".toList).map outline ∧
    ∃ opens closes : Bool,
      (opens = true ↔ ∃ n, FirstCode (ofText " 1)".toList) n ∧ OpensBlank n) ∧
      (closes = true ↔ ∃ p, LastCode (ofText "f(\n#' x\n".toList) p ∧ ClosesBlank p) ∧
      ofText ("f(\n#' x\n".toList ++ ("#- y\r".toList ++ '\n' :: " 1)".toList)) =
        markLast opens (ofText "f(\n#' x\n".toList) ++ markFirst closes (ofText " 1)".toList) :=
  ⟨by decide, by decide, by decide,
    ofText_append_break (a := "f(\n#' x\n".toList) (d := "#- y\r".toList) (by decide) (by decide)
      (by decide) " 1)".toList⟩

end Weave.Chunk
