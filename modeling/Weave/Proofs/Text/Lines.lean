import Weave.Proofs.Text.Newlines

/-!
# Lines and pieces

The lines of a text are its pieces without their endings. So the lines of an
ended text and of a text behind it are the lines of each. What begins a line,
ends one or stands in one can be told from the text without cutting it: it
stands where the text begins or behind a newline, and likewise at the end.
-/
namespace Weave.Text

theorem lines_line {line : Text} (hn : line ≠ []) (h : '\n' ∉ line) : lines line = [line] := by
  induction line with
  | nil => exact absurd rfl hn
  | cons c line ih =>
      simp only [List.mem_cons, not_or] at h
      have hc : ∀ rest, c = '\r' → line ≠ '\n' :: rest := fun rest _ he =>
        h.2 (he ▸ List.mem_cons_self)
      rw [lines, if_neg (Ne.symm h.1)]
      · cases line with
        | nil => rfl
        | cons d line => rw [ih (by simp) h.2]
      · exact hc

theorem lines_ended_line_append {line : Text} (h : '\n' ∉ line) (rest : Text) :
    lines ((line ++ ['\n']) ++ rest) = bareLine (line ++ ['\n']) :: lines rest := by
  rw [bareLine_ended_line, List.append_assoc, List.singleton_append]
  induction line with
  | nil => exact lines_newline rest
  | cons c line ih =>
      simp only [List.mem_cons, not_or] at h
      cases line with
      | nil =>
          by_cases hc : c = '\r'
          · subst hc
            rfl
          · have hg : [c].getLast? ≠ some '\r' := by simpa using hc
            rw [if_neg hg, List.singleton_append, lines, if_neg (Ne.symm h.1), lines_newline]
            exact fun rest hr => absurd hr hc
      | cons d line =>
          have hd : d ≠ '\n' := fun hd => h.2 (hd ▸ List.mem_cons_self)
          rw [List.cons_append, lines, if_neg (Ne.symm h.1), ih h.2, List.getLast?_cons_cons,
            List.dropLast_cons_cons]
          · dsimp only
            split <;> rfl
          · rintro rest - he
            exact hd (List.cons.inj he).1

/-- A line is what is left of a piece without its ending. -/
theorem lines_eq_map_bareLine (t : Text) : lines t = t.pieces.map bareLine := by
  induction t using line_induction with
  | nil => rfl
  | last line hn hl =>
      rw [lines_line hn hl, pieces_line hn hl, List.map_singleton, bareLine_line hl]
  | line line rest hl ih =>
      rw [lines_ended_line_append hl, ih, pieces_append (ended_line line), pieces_ended_line hl]
      rfl

theorem lines_append {a : Text} (ha : Ended a) (b : Text) :
    lines (a ++ b) = lines a ++ lines b := by
  simp only [lines_eq_map_bareLine, pieces_append ha, List.map_append]

/-- A newline behind a text ends its last line or is a line of its own. -/
theorem lines_concat_newline {t : Text} (h : t.getLast? ≠ some '\r') :
    (t ++ ['\n']).lines = t.lines ∨ (t ++ ['\n']).lines = t.lines ++ [[]] := by
  induction t using line_induction with
  | nil => exact .inr rfl
  | last line hn hl =>
      have hs := lines_ended_line_append hl []
      rw [List.append_nil, bareLine_ended_line, if_neg h] at hs
      rw [hs, lines_line hn hl]
      exact .inl rfl
  | line line rest hl ih =>
      have hr : rest.getLast? ≠ some '\r' := by
        intro hr
        rw [List.getLast?_append, hr] at h
        exact h rfl
      rw [List.append_assoc (line ++ ['\n']), lines_ended_line_append hl,
        lines_ended_line_append hl]
      obtain hs | hs := ih hr
      · exact .inl (by rw [hs])
      · exact .inr (by rw [hs]; rfl)

theorem infix_of_mem_lines {t line : Text} (h : line ∈ t.lines) : line <:+: t := by
  rw [lines_eq_map_bareLine, List.mem_map] at h
  obtain ⟨p, hp, rfl⟩ := h
  have hi : p <:+: t.pieces.flatten := List.infix_of_mem_flatten hp
  rw [flatten_pieces] at hi
  exact (bareLine_isPrefix p).isInfix.trans hi

/-- Some line is such, taken without its newline. -/
def HasLine (P : Text → Prop) (t : Text) : Prop :=
  ∃ p ∈ t.pieces, P p.firstLine

theorem not_hasLine_nil (P : Text → Prop) : ¬HasLine P [] := by
  simp [HasLine]

theorem hasLine_line {P : Text → Prop} {line : Text} (hn : line ≠ []) (hl : '\n' ∉ line) :
    HasLine P line ↔ P line := by
  simp [HasLine, pieces_line hn hl, firstLine_line hl]

theorem hasLine_append {P : Text → Prop} {line : Text} (hl : '\n' ∉ line) (rest : Text) :
    HasLine P ((line ++ ['\n']) ++ rest) ↔ P line ∨ HasLine P rest := by
  unfold HasLine
  rw [pieces_append (ended_line line), pieces_ended_line hl]
  simp [firstLine_ended_line hl]

theorem HasLine.imp {P Q : Text → Prop} (h : ∀ line, P line → Q line) {t : Text}
    (ht : HasLine P t) : HasLine Q t := by
  obtain ⟨p, hp, hP⟩ := ht
  exact ⟨p, hp, h _ hP⟩

theorem newline_cons_infix_iff {line : Text} (hl : '\n' ∉ line) (w rest : Text) :
    '\n' :: w <:+: line ++ '\n' :: rest ↔ w <+: rest ∨ '\n' :: w <:+: rest := by
  induction line with
  | nil => rw [List.nil_append, List.infix_cons_iff, List.cons_prefix_cons, eq_self, true_and]
  | cons c line ih =>
      simp only [List.mem_cons, not_or] at hl
      rw [List.cons_append, List.infix_cons_iff, List.cons_prefix_cons, ih hl.2]
      exact or_iff_right fun h => hl.1 h.1

/-- The newline behind the text ends the line or comes later. -/
theorem infix_concat_newline_iff {w line : Text} (hw : '\n' ∉ w) (hl : '\n' ∉ line) (rest : Text) :
    w ++ ['\n'] <:+: line ++ '\n' :: rest ↔ w <:+ line ∨ w ++ ['\n'] <:+: rest := by
  constructor
  · rintro ⟨before, after, h⟩
    have h : before ++ (w ++ '\n' :: after) = line ++ '\n' :: rest := by simpa using h
    rcases List.append_eq_append_iff.1 h with ⟨x, rfl, hx⟩ | ⟨x, rfl, hx⟩
    · -- The text begins in the line, so the first newline from there is the one behind it.
      have hxn : '\n' ∉ x := fun hm => hl (List.mem_append_right before hm)
      have hf := congrArg firstLine hx
      rw [firstLine_ended_line hw, firstLine_ended_line hxn] at hf
      rw [hf]
      exact .inl (List.suffix_append before x)
    · cases x with
      | nil =>
          have hf := congrArg firstLine hx
          rw [List.nil_append, firstLine_ended_line hw] at hf
          rw [← hf]
          exact .inl List.nil_suffix
      | cons c x =>
          obtain ⟨-, rfl⟩ := List.cons.inj hx
          exact .inr ⟨x, after, by simp⟩
  · rintro (⟨front, rfl⟩ | h)
    · exact ⟨front, rest, by simp⟩
    · exact h.trans ((List.suffix_cons '\n' rest).trans (List.suffix_append line _)).isInfix

section

variable {w : Text} (hn : w ≠ []) (hw : '\n' ∉ w)
include hn hw

theorem hasLine_prefix_iff (t : Text) :
    HasLine (w <+: ·) t ↔ w <+: t ∨ '\n' :: w <:+: t := by
  induction t using line_induction with
  | nil => simp [not_hasLine_nil, hn]
  | last line hne hl =>
      rw [hasLine_line hne hl]
      exact (or_iff_left fun h => hl (h.subset List.mem_cons_self)).symm
  | line line rest hl ih =>
      rw [hasLine_append hl, ih, List.append_assoc, List.singleton_append,
        prefix_append_cons_iff hw, newline_cons_infix_iff hl]

theorem hasLine_suffix_iff (t : Text) :
    HasLine (w <:+ ·) t ↔ w <:+ t ∨ w ++ ['\n'] <:+: t := by
  induction t using line_induction with
  | nil => simp [not_hasLine_nil, hn]
  | last line hne hl =>
      rw [hasLine_line hne hl]
      exact (or_iff_left fun h => hl (h.subset (by simp))).symm
  | line line rest hl ih =>
      rw [hasLine_append hl, ih, List.append_assoc, List.singleton_append,
        suffix_append_cons_iff hw, infix_concat_newline_iff hw hl]
      tauto

theorem hasLine_infix_iff (t : Text) : HasLine (w <:+: ·) t ↔ w <:+: t := by
  induction t using line_induction with
  | nil => simp [not_hasLine_nil, hn]
  | last line hne hl => exact hasLine_line hne hl
  | line line rest hl ih =>
      rw [hasLine_append hl, ih, List.append_assoc, List.singleton_append,
        infix_append_cons_iff hw]

end

end Weave.Text
