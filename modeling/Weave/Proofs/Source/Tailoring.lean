import Weave.Config
import Weave.Proofs.Source.Directive
import Weave.Proofs.Source.LinePattern
import Weave.Proofs.Text.Newlines

/-!
# Tailoring line by line

The passes that tailor a source each go through the whole text, and yet every
line fares as if it were alone. For scripts and documents nothing else happens
but that the name is filled in, so tailoring can be done part by part, where the
parts meet at a newline. Whatever the target, lines that belong to another
artifact leave no trace: not in the text, the chunks or what is made of them.
-/
namespace Weave.Source

theorem applyDirectives_unifyNewlines_append (target : Target) {a : Text} (ha : Text.Ended a)
    (b : Text) :
    applyDirectives target (Text.unifyNewlines (a ++ b)) =
      applyDirectives target (Text.unifyNewlines a) ++
        applyDirectives target (Text.unifyNewlines b) := by
  rw [Text.unifyNewlines_append ha, applyDirectives_append target (Text.ended_unifyNewlines ha)]

theorem tailor_of_ne_notebook {target : Target} (h : target ≠ .notebook) (name source : Text) :
    tailor target name source = Text.replaceAll namePlaceholder name
      (applyDirectives target (Text.unifyNewlines source)) := by
  simp [tailor, h]

theorem tailor_append {target : Target} (h : target ≠ .notebook) (name : Text) {a : Text}
    (ha : Text.Ended a) (b : Text) :
    tailor target name (a ++ b) = tailor target name a ++ tailor target name b := by
  have he := ended_applyDirectives target (Text.ended_unifyNewlines ha)
  rw [tailor_of_ne_notebook h, tailor_of_ne_notebook h, tailor_of_ne_notebook h,
    applyDirectives_unifyNewlines_append target ha,
    Text.replaceAll_append (by decide) (by decide) name he]

/-- The passes over the whole text come to one decision for each line. -/
theorem tailor_line_by_line (target : Target) (source : Text) :
    (∀ t, applyDirectives target t =
      (LinePattern.ofTarget target).foldl (fun t p => Text.replaceBy p.removal t) t) ∧
    applyDirectives target (Text.unifyNewlines source) =
      (Text.unifyNewlines source).pieces.flatMap (ownPiece target) ∧
    (target ≠ .notebook → ∀ name, tailor target name source =
      Text.replaceAll "@__NAME__".toList name
        ((Text.unifyNewlines source).pieces.flatMap (ownPiece target))) ∧
    (target ≠ .notebook → ∀ name a b, a = [] ∨ a.getLast? = some '\n' →
      tailor target name (a ++ b) = tailor target name a ++ tailor target name b) := by
  refine ⟨applyDirectives_eq_foldl target, applyDirectives_eq_flatMap target _, ?_, ?_⟩
  · intro h name
    rw [tailor_of_ne_notebook h, applyDirectives_eq_flatMap]
    rfl
  · intro h name a b ha
    refine tailor_append h name ?_ b
    rcases ha with rfl | ha
    · exact Text.ended_nil
    · simp [Text.Ended, ha]

/-- A script of two parts, whose second one lacks its newline and is empty but for marks. -/
theorem tailor_line_by_line_script :
    Target.script ≠ .notebook ∧ "#jl #jl\n".toList.getLast? = some '\n' ∧
    tailor .script "n".toList ("#jl #jl\n".toList ++ "#md x #jl\n#jl  #jl".toList) =
      tailor .script "n".toList "#jl #jl\n".toList ++
        tailor .script "n".toList "#md x #jl\n#jl  #jl".toList :=
  ⟨by decide, by decide, (tailor_line_by_line .script []).2.2.2 (by decide) _ _ _ (.inr (by decide))⟩

/-- The text without the lines that belong to another artifact. -/
def withoutForeign (target : Target) (t : Text) : Text :=
  (t.pieces.filter fun piece => ¬IsForeign target (Text.bareLine piece)).flatten

theorem withoutForeign_line {target : Target} {line : Text} (hn : line ≠ []) (hl : '\n' ∉ line) :
    withoutForeign target line = if IsForeign target line then [] else line := by
  rw [withoutForeign, Text.pieces_line hn hl, List.filter_singleton, Text.bareLine_line hl]
  split <;> simp_all

theorem withoutForeign_append (target : Target) {line : Text} (hl : '\n' ∉ line) (rest : Text) :
    withoutForeign target ((line ++ ['\n']) ++ rest) =
      (if IsForeign target (Text.bareLine (line ++ ['\n'])) then [] else line ++ ['\n']) ++
        withoutForeign target rest := by
  rw [withoutForeign, Text.pieces_append (Text.ended_line line), Text.pieces_ended_line hl,
    List.filter_append, List.flatten_append, List.filter_singleton, withoutForeign]
  split <;> simp_all

/-- The passes delete a foreign line, whatever ends it. -/
theorem applyDirectives_foreign {target : Target} {line : Text} (hl : '\n' ∉ line)
    (h : IsForeign target (Text.bareLine (line ++ ['\n']))) :
    applyDirectives target (Text.unifyNewlines (line ++ ['\n'])) = [] := by
  rw [Text.unifyNewlines_ended_line hl,
    applyDirectives_piece target (Text.newline_not_mem_bareLine hl) (.inr rfl), if_pos h]

theorem applyDirectives_withoutForeign (target : Target) (t : Text) :
    applyDirectives target (Text.unifyNewlines (withoutForeign target t)) =
      applyDirectives target (Text.unifyNewlines t) := by
  induction t using Text.line_induction with
  | nil => rfl
  | last line hn hl =>
      have hp := applyDirectives_piece target hl (.inl rfl)
      rw [withoutForeign_line hn hl, Text.unifyNewlines_line hl]
      split
      · rw [List.append_nil, if_pos ‹_›] at hp
        rw [hp]
        cases target <;> rfl
      · rw [Text.unifyNewlines_line hl]
  | line line rest hl ih =>
      have he := Text.ended_line line
      rw [withoutForeign_append target hl, applyDirectives_unifyNewlines_append target he]
      split
      · rw [List.nil_append, ih, applyDirectives_foreign hl ‹_›, List.nil_append]
      · rw [applyDirectives_unifyNewlines_append target he, ih]

/-- Lines that belong to another artifact leave no trace, wherever they stand
and whatever is in them. -/
theorem tailor_eq_of_withoutForeign_eq (target : Target) (name a b : Text)
    (h : withoutForeign target a = withoutForeign target b) :
    tailor target name a = tailor target name b ∧
    chunks target name a = chunks target name b ∧
    ∀ config : Config, config.render target name (chunks target name a) =
      config.render target name (chunks target name b) := by
  have hd : applyDirectives target (Text.unifyNewlines a) =
      applyDirectives target (Text.unifyNewlines b) := by
    rw [← applyDirectives_withoutForeign target a, h, applyDirectives_withoutForeign]
  have ht : tailor target name a = tailor target name b := by
    unfold tailor
    rw [hd]
  have hc : chunks target name a = chunks target name b := by
    unfold chunks
    rw [ht]
  exact ⟨ht, hc, fun config => by rw [hc]⟩

/-- A math block that holds a fence for documents, and a line for scripts without a newline. -/
theorem tailor_eq_of_withoutForeign_eq_math :
    withoutForeign .notebook "```math\n#md ```\r\nx\n```\n#- @__NAME__ #jl".toList =
      withoutForeign .notebook "#jl #'\n```math\nx\n```\n".toList ∧
    tailor .notebook "n".toList "```math\n#md ```\r\nx\n```\n#- @__NAME__ #jl".toList =
      tailor .notebook "n".toList "#jl #'\n```math\nx\n```\n".toList :=
  ⟨by decide, (tailor_eq_of_withoutForeign_eq .notebook _ _ _ (by decide)).1⟩

end Weave.Source
