import Weave.Proofs.Text.Lines
import Weave.Source

/-!
# Math blocks from left to right

A text is taken apart into math blocks, what is before each of them, and a rest.
No fence stands inside of a block and no math fence before one, so there is no
choice in it, and the rest has no block at all. Laying out the math writes the
same parts down with other words around the bodies.

The words that are brought in begin and end with characters that no mark has.
So what stands in the result stood in the text, and what begins or ends the
result began or ended the text.
-/
namespace Weave.Source

/-- A math fence with a fence behind it. -/
def HasBlock (t : Text) : Prop :=
  ∃ before after, t = before ++ mathFence ++ after ∧ fence <:+: after

/-- The text of blocks, each with what is before it, and a rest. -/
def written (blocks : List (Text × Text)) (rest : Text) : Text :=
  blocks.flatMap (fun b => b.1 ++ mathFence ++ b.2 ++ fence) ++ rest

/-- The same with the bodies as equations. -/
def displayed (blocks : List (Text × Text)) (rest : Text) : Text :=
  blocks.flatMap (fun b => b.1 ++ equation b.2) ++ rest

/-- Every math fence is paired with the next fence behind it. -/
structure Paired (blocks : List (Text × Text)) (rest : Text) : Prop where
  bare : ∀ b ∈ blocks, ¬mathFence <:+: b.1
  nearest : ∀ b ∈ blocks, ¬fence <:+: b.2 ++ "``".toList
  unclosed : ¬HasBlock rest

theorem fence_ne_nil : fence ≠ [] := by decide

theorem mathFence_ne_nil : mathFence ≠ [] := by decide

theorem mathRule_anywhere : Text.Rule.Anywhere mathRule :=
  fun _ _ => rfl

theorem displayMath_block {body : Text} (h : ¬fence <:+: body ++ "``".toList) (after : Text) :
    displayMath (mathFence ++ (body ++ fence ++ after)) = equation body ++ displayMath after := by
  have ha : Text.after? mathFence (mathFence ++ (body ++ fence ++ after)) =
      some (body ++ fence ++ after) := Text.after?_eq_some_iff.2 rfl
  have hc : Text.cutAt fence (body ++ fence ++ after) = some (body, after) :=
    (Text.cutAt_eq_some_iff fence_ne_nil).2 ⟨rfl, h⟩
  have hr : mathRule true (mathFence ++ (body ++ fence ++ after)) =
      some ⟨mathFence.length + body.length + fence.length - 1, equation body⟩ := by
    rw [mathRule, ha, Option.bind_some, hc, Option.map_some]
  obtain ⟨c, more, hm⟩ := List.exists_cons_of_ne_nil mathFence_ne_nil
  have ht : mathFence ++ (body ++ fence ++ after) = c :: (more ++ (body ++ fence) ++ after) := by
    rw [hm, List.cons_append, List.append_assoc more]
  have hl : mathFence.length + body.length + fence.length - 1 =
      (more ++ (body ++ fence)).length := by
    rw [hm]
    simp only [List.length_cons, List.length_append]
    omega
  obtain ⟨fresh, hs⟩ := Text.replaceFrom_skip mathRule (c == '\n') (more ++ (body ++ fence)) after
  rw [ht] at hr ⊢
  rw [displayMath, Text.replaceBy, Text.replaceFrom_hit hr, hl, hs,
    Text.replaceFrom_anywhere mathRule_anywhere _ fresh true]
  rfl

theorem displayMath_char {c : Char} {t : Text}
    (h : ∀ after, c :: t = mathFence ++ after → ¬fence <:+: after) :
    displayMath (c :: t) = c :: displayMath t := by
  have hr : mathRule true (c :: t) = none := by
    rw [mathRule]
    cases ha : Text.after? mathFence (c :: t) with
    | none => rfl
    | some after =>
        have hf := h after (Text.after?_eq_some_iff.1 ha)
        rw [Option.bind_some, (Text.cutAt_eq_none_iff fence_ne_nil).2 hf]
        rfl
  unfold displayMath Text.replaceBy
  rw [Text.replaceFrom_keep hr, Text.replaceFrom_anywhere mathRule_anywhere _ _ true]

/-- A text is empty, or a math block begins it, or none does. -/
@[elab_as_elim]
theorem block_induction {motive : Text → Prop} (nil : motive [])
    (block : ∀ body after, ¬fence <:+: body ++ "``".toList → motive after →
      motive (mathFence ++ (body ++ fence ++ after)))
    (char : ∀ c t, (∀ after, c :: t = mathFence ++ after → ¬fence <:+: after) → motive t →
      motive (c :: t)) (t : Text) : motive t := by
  induction hl : t.length using Nat.strongRecOn generalizing t with
  | _ n ih =>
      subst hl
      by_cases hb : ∃ after, t = mathFence ++ after ∧ fence <:+: after
      · obtain ⟨after, rfl, hf⟩ := hb
        cases hc : Text.cutAt fence after with
        | none => exact absurd hf ((Text.cutAt_eq_none_iff fence_ne_nil).1 hc)
        | some p =>
            obtain ⟨rfl, hn⟩ := (Text.cutAt_eq_some_iff fence_ne_nil).1 hc
            have hm : 0 < mathFence.length := by decide
            refine block p.1 p.2 hn (ih _ ?_ p.2 rfl)
            simp only [List.length_append]
            omega
      · cases t with
        | nil => exact nil
        | cons c t =>
            exact char c t (fun after ha hf => hb ⟨after, ha, hf⟩) (ih _ (by simp) t rfl)

theorem not_hasBlock_nil : ¬HasBlock [] := by
  rintro ⟨before, after, h, -⟩
  have hm := (List.append_eq_nil_iff.1 h.symm).1
  exact mathFence_ne_nil (List.append_eq_nil_iff.1 hm).2

theorem hasBlock_cons_iff (c : Char) (t : Text) :
    HasBlock (c :: t) ↔ (∃ after, c :: t = mathFence ++ after ∧ fence <:+: after) ∨ HasBlock t := by
  constructor
  · rintro ⟨before, after, h, hf⟩
    cases before with
    | nil => exact .inl ⟨after, h, hf⟩
    | cons d before =>
        obtain ⟨-, ht⟩ := List.cons.inj h
        exact .inr ⟨before, after, ht, hf⟩
  · rintro (⟨after, h, hf⟩ | ⟨before, after, rfl, hf⟩)
    · exact ⟨[], after, h, hf⟩
    · exact ⟨c :: before, after, rfl, hf⟩

/-- Math that is not closed stays as it is. -/
theorem displayMath_eq_self {t : Text} (h : ¬HasBlock t) : displayMath t = t := by
  induction t with
  | nil => rfl
  | cons c t ih =>
      rw [hasBlock_cons_iff, not_or] at h
      rw [displayMath_char fun after ha hf => h.1 ⟨after, ha, hf⟩, ih h.2]

/-- Every text is taken apart, and what is laid out are its parts. -/
theorem exists_blocks (t : Text) : ∃ blocks rest, Paired blocks rest ∧
    t = written blocks rest ∧ displayMath t = displayed blocks rest := by
  induction t using block_induction with
  | nil => exact ⟨[], [], ⟨by simp, by simp, not_hasBlock_nil⟩, rfl, rfl⟩
  | block body after hn ih =>
      obtain ⟨blocks, rest, hp, hw, hd⟩ := ih
      refine ⟨([], body) :: blocks, rest, ⟨?_, ?_, hp.unclosed⟩, ?_, ?_⟩
      · exact List.forall_mem_cons.2 ⟨(by decide : ¬mathFence <:+: []), hp.bare⟩
      · exact List.forall_mem_cons.2 ⟨hn, hp.nearest⟩
      · rw [hw]
        simp [written]
      · rw [displayMath_block hn, hd]
        simp [displayed]
  | char c t hn ih =>
      obtain ⟨blocks, rest, hp, hw, hd⟩ := ih
      rw [displayMath_char hn, hd]
      cases blocks with
      | nil =>
          refine ⟨[], c :: rest, ⟨by simp, by simp, fun hb => ?_⟩, by rw [hw]; rfl, rfl⟩
          have ht : t = rest := hw
          rcases (hasBlock_cons_iff c rest).1 hb with ⟨after, ha, hf⟩ | hb
          · exact hn after (ht ▸ ha) hf
          · exact hp.unclosed hb
      | cons b blocks =>
          obtain ⟨hbare, hbares⟩ := List.forall_mem_cons.1 hp.bare
          refine ⟨(c :: b.1, b.2) :: blocks, rest, ⟨?_, ?_, hp.unclosed⟩, by rw [hw]; rfl, rfl⟩
          · refine List.forall_mem_cons.2 ⟨fun hi => ?_, hbares⟩
            rcases List.infix_cons_iff.1 hi with ⟨more, hm⟩ | hi
            · -- A math fence before the block would be closed by the block's own fence.
              have ht : c :: t = mathFence ++ (more ++ (mathFence ++ b.2 ++ fence) ++
                  written blocks rest) := by
                have hc : c :: t = (c :: b.1) ++ (mathFence ++ b.2 ++ fence) ++
                    written blocks rest := by
                  rw [hw]
                  simp [written]
                rw [hc, ← hm]
                simp
              refine hn _ ht ⟨more ++ (mathFence ++ b.2), written blocks rest, by simp⟩
            · exact hbare hi
          · obtain ⟨hnear, hnears⟩ := List.forall_mem_cons.1 hp.nearest
            exact List.forall_mem_cons.2 ⟨hnear, hnears⟩

theorem written_cons (b : Text × Text) (blocks : List (Text × Text)) (rest : Text) :
    written (b :: blocks) rest = b.1 ++ mathFence ++ b.2 ++ fence ++ written blocks rest := by
  simp [written]

/-- What is brought in before a body and behind it, but for the characters at the edges. -/
def opening : Text := "begin\x7bequation".toList

def closing : Text := "end\x7bequation".toList

theorem equation_eq (body : Text) :
    equation body = '\\' :: (opening ++ '\x7d' ::
      (body ++ '\\' :: (closing ++ ['\x7d']))) := by
  have hb : "\\begin\x7bequation\x7d".toList =
      '\\' :: (opening ++ ['\x7d']) := by decide
  have he : "\\end\x7bequation\x7d".toList =
      '\\' :: (closing ++ ['\x7d']) := by decide
  refine (congrArg₂ (fun a b => a ++ body ++ b) hb he).trans ?_
  simp only [List.cons_append, List.append_assoc, List.nil_append]

theorem displayed_cons (b : Text × Text) (blocks : List (Text × Text)) (rest : Text) :
    displayed (b :: blocks) rest = b.1 ++ '\\' :: (opening ++ '\x7d' ::
      (b.2 ++ '\\' :: (closing ++ '\x7d' :: displayed blocks rest))) := by
  rw [displayed, List.flatMap_cons, equation_eq]
  simp only [List.cons_append, List.append_assoc, List.nil_append]
  rfl

/-- A math fence does not reach over a character that it does not have. -/
theorem hasBlock_append_cons {c : Char} (hc : c ∉ mathFence) {a b : Text}
    (h : HasBlock (a ++ c :: b)) : mathFence <:+: a ∨ HasBlock b := by
  obtain ⟨before, after, he, hf⟩ := h
  rcases List.append_eq_append_iff.1 he with ⟨x, hx, hb⟩ | ⟨x, rfl, -⟩
  · cases x with
    | nil =>
        rw [List.append_nil] at hx
        exact .inl ⟨before, [], by rw [List.append_nil, hx]⟩
    | cons d x =>
        obtain ⟨rfl, rfl⟩ := List.cons.inj hb
        have hs : mathFence <:+ a ++ c :: x := ⟨before, hx⟩
        obtain ⟨front, rfl⟩ := (Text.suffix_append_cons_iff hc a x).1 hs
        exact .inr ⟨front, after, rfl, hf⟩
  · exact .inl ⟨before, x, rfl⟩

/-- A text that has a character of its own and neither of those that keep apart
what is brought in. -/
structure Clear (w : Text) : Prop where
  slash : '\\' ∉ w
  brace : '\x7d' ∉ w
  other : ∃ c ∈ w, c ∉ opening ∧ c ∉ closing

theorem clear_mathFence : Clear mathFence :=
  ⟨by decide, by decide, ⟨'`', by decide, by decide, by decide⟩⟩

theorem fence_infix_mathFence : fence <:+: mathFence := ⟨[], "math".toList, by decide⟩

namespace Clear

variable {w : Text} (h : Clear w)
include h

theorem ne_nil : w ≠ [] := by
  obtain ⟨c, hc, -⟩ := h.other
  exact List.ne_nil_of_mem hc

theorem newline_cons : Clear ('\n' :: w) := by
  obtain ⟨c, hc, hoc⟩ := h.other
  exact ⟨by simpa using h.slash, by simpa using h.brace, c, List.mem_cons_of_mem _ hc, hoc⟩

theorem concat_newline : Clear (w ++ ['\n']) := by
  obtain ⟨c, hc, hoc⟩ := h.other
  exact ⟨by simpa using h.slash, by simpa using h.brace, c, List.mem_append_left _ hc, hoc⟩

theorem not_infix_opening : ¬w <:+: opening := by
  obtain ⟨c, hc, ho, -⟩ := h.other
  exact fun hi => ho (hi.subset hc)

theorem not_infix_closing : ¬w <:+: closing := by
  obtain ⟨c, hc, -, ho⟩ := h.other
  exact fun hi => ho (hi.subset hc)

theorem infix_written {blocks : List (Text × Text)} {rest : Text}
    (hi : w <:+: displayed blocks rest) : w <:+: written blocks rest := by
  induction blocks with
  | nil => exact hi
  | cons b blocks ih =>
      rw [displayed_cons, Text.infix_append_cons_iff h.slash, Text.infix_append_cons_iff h.brace,
        Text.infix_append_cons_iff h.slash, Text.infix_append_cons_iff h.brace] at hi
      rw [written_cons]
      rcases hi with hi | hi | hi | hi | hi
      · exact hi.trans ⟨[], mathFence ++ b.2 ++ fence ++ written blocks rest, by simp⟩
      · exact absurd hi h.not_infix_opening
      · exact hi.trans ⟨b.1 ++ mathFence, fence ++ written blocks rest, by simp⟩
      · exact absurd hi h.not_infix_closing
      · exact (ih hi).trans (List.suffix_append _ _).isInfix

theorem prefix_written {blocks : List (Text × Text)} {rest : Text}
    (hp : w <+: displayed blocks rest) : w <+: written blocks rest := by
  cases blocks with
  | nil => exact hp
  | cons b blocks =>
      rw [displayed_cons, Text.prefix_append_cons_iff h.slash] at hp
      rw [written_cons]
      exact hp.trans ⟨mathFence ++ b.2 ++ fence ++ written blocks rest, by simp⟩

theorem suffix_written {blocks : List (Text × Text)} {rest : Text}
    (hs : w <:+ displayed blocks rest) : w <:+ written blocks rest := by
  induction blocks with
  | nil => exact hs
  | cons b blocks ih =>
      rw [displayed_cons, Text.suffix_append_cons_iff h.slash, Text.suffix_append_cons_iff h.brace,
        Text.suffix_append_cons_iff h.slash, Text.suffix_append_cons_iff h.brace] at hs
      rw [written_cons]
      exact (ih hs).trans (List.suffix_append _ _)

/-- Laying out the math brings in nothing of the kind. -/
theorem infix_of_displayMath {t : Text} (hi : w <:+: displayMath t) : w <:+: t := by
  obtain ⟨blocks, rest, -, hw, hd⟩ := exists_blocks t
  rw [hw]
  exact h.infix_written (hd ▸ hi)

theorem hasLine_prefix_of_displayMath (hw : '\n' ∉ w) {t : Text}
    (hl : Text.HasLine (w <+: ·) (displayMath t)) : Text.HasLine (w <+: ·) t := by
  rw [Text.hasLine_prefix_iff h.ne_nil hw] at hl ⊢
  obtain ⟨blocks, rest, -, ht, hd⟩ := exists_blocks t
  rw [hd] at hl
  rw [ht]
  exact hl.imp h.prefix_written h.newline_cons.infix_written

theorem hasLine_suffix_of_displayMath (hw : '\n' ∉ w) {t : Text}
    (hl : Text.HasLine (w <:+ ·) (displayMath t)) : Text.HasLine (w <:+ ·) t := by
  rw [Text.hasLine_suffix_iff h.ne_nil hw] at hl ⊢
  obtain ⟨blocks, rest, -, ht, hd⟩ := exists_blocks t
  rw [hd] at hl
  rw [ht]
  exact hl.imp h.suffix_written h.concat_newline.infix_written

end Clear

/-- What is laid out has no block. -/
theorem not_hasBlock_displayed {blocks : List (Text × Text)} {rest : Text}
    (h : Paired blocks rest) : ¬HasBlock (displayed blocks rest) := by
  have hs : '\\' ∉ mathFence := clear_mathFence.slash
  have hx : '\x7d' ∉ mathFence := clear_mathFence.brace
  induction blocks with
  | nil => exact h.unclosed
  | cons b blocks ih =>
      obtain ⟨hbare, hbares⟩ := List.forall_mem_cons.1 h.bare
      obtain ⟨hnear, hnears⟩ := List.forall_mem_cons.1 h.nearest
      have hbody : ¬mathFence <:+: b.2 := fun hi =>
        hnear ((fence_infix_mathFence.trans hi).trans (List.prefix_append b.2 "``".toList).isInfix)
      rw [displayed_cons]
      intro hb
      rcases hasBlock_append_cons hs hb with hi | hb
      · exact hbare hi
      rcases hasBlock_append_cons hx hb with hi | hb
      · exact clear_mathFence.not_infix_opening hi
      rcases hasBlock_append_cons hs hb with hi | hb
      · exact hbody hi
      rcases hasBlock_append_cons hx hb with hi | hb
      · exact clear_mathFence.not_infix_closing hi
      · exact ih ⟨hbares, hnears, h.unclosed⟩ hb

theorem not_hasBlock_displayMath (t : Text) : ¬HasBlock (displayMath t) := by
  obtain ⟨blocks, rest, hp, -, hd⟩ := exists_blocks t
  rw [hd]
  exact not_hasBlock_displayed hp

end Weave.Source
