import Weave.Proofs.Source.Math

/-!
# How math fences pair

A text is taken apart into math blocks in one way only. What is before the first block is
what is before the first math fence: no math fence reaches over into the one that opens the
block, for it would have to end there, and its last character stands nowhere else in it. The
body of the block is what is before the next fence. So laying out the math is told by the
parts of the text, however they were found.

A math fence that is closed may swallow the backticks of another one, whose letters are then
plain text. What is never closed is in the rest, and the rest is written down as it stands.
-/
namespace Weave.Source

/-- A word that ends in a character which the text behind does not have ends before it. -/
theorem infix_of_infix_append {w a b : Text} {c : Char} (hc : c ∉ b)
    (h : w ++ [c] <:+: a ++ b) : w ++ [c] <:+: a := by
  rcases List.infix_append_iff.1 h with h | h | ⟨x, y, hxy, hx, hy⟩
  · exact h
  · exact absurd (h.subset (by simp)) hc
  · rcases List.eq_nil_or_concat y with rfl | ⟨y, d, rfl⟩
    · rw [List.append_nil] at hxy
      exact hxy ▸ hx.isInfix
    · rw [List.concat_eq_append, ← List.append_assoc] at hxy
      obtain rfl : c = d := List.singleton_inj.1 (List.append_inj' hxy rfl).2
      exact absurd (hy.subset (by simp)) hc

/-- A text without a math fence still has none where one begins behind it. -/
theorem not_mathFence_infix_append {t : Text} (h : ¬mathFence <:+: t) :
    ¬mathFence <:+: t ++ mathFence.dropLast := by
  have hm : mathFence = mathFence.dropLast ++ ['h'] := by decide
  intro hi
  rw [hm] at h hi
  rw [List.dropLast_concat] at hi
  exact h (infix_of_infix_append (by decide) hi)

theorem cutAt_mathFence {front : Text} (h : ¬mathFence <:+: front) (behind : Text) :
    Text.cutAt mathFence (front ++ mathFence ++ behind) = some (front, behind) :=
  (Text.cutAt_eq_some_iff mathFence_ne_nil).2 ⟨rfl, not_mathFence_infix_append h⟩

theorem cutAt_fence {body : Text} (h : ¬fence <:+: body ++ "``".toList) (behind : Text) :
    Text.cutAt fence (body ++ fence ++ behind) = some (body, behind) :=
  (Text.cutAt_eq_some_iff fence_ne_nil).2 ⟨rfl, h⟩

theorem hasBlock_written_cons (b : Text × Text) (blocks : List (Text × Text)) (rest : Text) :
    HasBlock (written (b :: blocks) rest) := by
  refine ⟨b.1, b.2 ++ (fence ++ written blocks rest), ?_, b.2, written blocks rest, by simp⟩
  rw [written_cons]
  simp

/-- The first block and what is behind it can be told from the text. -/
theorem eq_of_written_cons {b b' : Text × Text} {behind behind' : Text}
    (hb : ¬mathFence <:+: b.1) (hb' : ¬mathFence <:+: b'.1)
    (hn : ¬fence <:+: b.2 ++ "``".toList) (hn' : ¬fence <:+: b'.2 ++ "``".toList)
    (h : b.1 ++ mathFence ++ b.2 ++ fence ++ behind =
      b'.1 ++ mathFence ++ b'.2 ++ fence ++ behind') : b = b' ∧ behind = behind' := by
  have hfront : (b.1, b.2 ++ fence ++ behind) = (b'.1, b'.2 ++ fence ++ behind') := by
    refine Option.some.inj ?_
    rw [← cutAt_mathFence hb, ← cutAt_mathFence hb']
    simpa using congrArg (Text.cutAt mathFence) h
  obtain ⟨hfront, hrest⟩ := Prod.mk.inj hfront
  have hbody : (b.2, behind) = (b'.2, behind') := by
    refine Option.some.inj ?_
    rw [← cutAt_fence hn, ← cutAt_fence hn', hrest]
  obtain ⟨hbody, hbehind⟩ := Prod.mk.inj hbody
  exact ⟨Prod.ext hfront hbody, hbehind⟩

/-- There is no choice in taking a text apart. -/
theorem Paired.eq_of_written {blocks blocks' : List (Text × Text)} {rest rest' : Text}
    (hp : Paired blocks rest) (hp' : Paired blocks' rest')
    (h : written blocks rest = written blocks' rest') : blocks = blocks' ∧ rest = rest' := by
  induction blocks generalizing blocks' with
  | nil =>
      cases blocks' with
      | nil => exact ⟨rfl, h⟩
      | cons b' blocks' =>
          have hb := hasBlock_written_cons b' blocks' rest'
          rw [← h] at hb
          exact absurd hb hp.unclosed
  | cons b blocks ih =>
      cases blocks' with
      | nil =>
          have hb := hasBlock_written_cons b blocks rest
          rw [h] at hb
          exact absurd hb hp'.unclosed
      | cons b' blocks' =>
          obtain ⟨hbare, hbares⟩ := List.forall_mem_cons.1 hp.bare
          obtain ⟨hnear, hnears⟩ := List.forall_mem_cons.1 hp.nearest
          obtain ⟨hbare', hbares'⟩ := List.forall_mem_cons.1 hp'.bare
          obtain ⟨hnear', hnears'⟩ := List.forall_mem_cons.1 hp'.nearest
          rw [written_cons, written_cons] at h
          obtain ⟨rfl, hbehind⟩ := eq_of_written_cons hbare hbare' hnear hnear' h
          obtain ⟨rfl, rfl⟩ := ih ⟨hbares, hnears, hp.unclosed⟩
            ⟨hbares', hnears', hp'.unclosed⟩ hbehind
          exact ⟨rfl, rfl⟩

/-- However a text is taken apart, its parts are what is laid out. -/
theorem Paired.displayMath_written {blocks : List (Text × Text)} {rest : Text}
    (hp : Paired blocks rest) : displayMath (written blocks rest) = displayed blocks rest := by
  obtain ⟨blocks', rest', hp', hw, hd⟩ := exists_blocks (written blocks rest)
  obtain ⟨rfl, rfl⟩ := hp.eq_of_written hp' hw
  exact hd

/-- Every text falls in one way into math blocks, each with what is before it, and a rest: each
math fence is paired with the next fence, no math fence is before a block, and none in the rest
is closed. Laying out the math writes an equation for every block and keeps all else. So what is
laid out has no block, and a math fence in the rest stays with all that is behind it. -/
theorem displayMath_pairing (t : Text) :
    (∃! p : List (Text × Text) × Text, Paired p.1 p.2 ∧ t = written p.1 p.2) ∧
    (∀ blocks rest, Paired blocks rest → t = written blocks rest →
      displayMath t = displayed blocks rest ∧
      ∀ before after, rest = before ++ mathFence ++ after → ¬fence <:+: after ∧
        displayMath t = displayed blocks before ++ mathFence ++ after) ∧
    ¬HasBlock (displayMath t) := by
  refine ⟨?_, ?_, not_hasBlock_displayMath t⟩
  · obtain ⟨blocks, rest, hp, hw, -⟩ := exists_blocks t
    refine ⟨(blocks, rest), ⟨hp, hw⟩, ?_⟩
    rintro ⟨blocks', rest'⟩ ⟨hp', hw'⟩
    obtain ⟨rfl, rfl⟩ := hp'.eq_of_written hp (hw'.symm.trans hw)
    rfl
  · rintro blocks rest hp rfl
    refine ⟨hp.displayMath_written, ?_⟩
    rintro before after rfl
    refine ⟨fun hf => hp.unclosed ⟨before, after, rfl, hf⟩, ?_⟩
    rw [hp.displayMath_written]
    simp [displayed]

/-- The blocks of a text in which an empty block is closed at once and another one by the backticks
of a math fence. -/
def swallowing : List (Text × Text) :=
  [("a ".toList, []), (" ".toList, " x\n".toList)]

theorem displayMath_pairing_swallowing :
    Paired swallowing "`math y```math z".toList ∧
    "a ```math``` ```math x\n````math y```math z".toList =
      written swallowing "`math y```math z".toList ∧
    "`math y```math z".toList = "`math y".toList ++ mathFence ++ " z".toList ∧
    displayMath "a ```math``` ```math x\n````math y```math z".toList =
      displayed swallowing "`math y".toList ++ mathFence ++ " z".toList := by
  have hstay : displayMath "`math y```math z".toList = "`math y```math z".toList := by decide
  have hp : Paired swallowing "`math y```math z".toList :=
    ⟨by decide, by decide, hstay ▸ not_hasBlock_displayMath _⟩
  have hw : "a ```math``` ```math x\n````math y```math z".toList =
      written swallowing "`math y```math z".toList := by decide
  have hr : "`math y```math z".toList = "`math y".toList ++ mathFence ++ " z".toList := by decide
  exact ⟨hp, hw, hr, (((displayMath_pairing _).2.1 _ _ hp hw).2 _ _ hr).2⟩

end Weave.Source
