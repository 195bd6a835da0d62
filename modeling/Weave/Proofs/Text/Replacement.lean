import Weave.Proofs.Text.Pieces
import Weave.Text.Replacement

/-!
# Replacing line by line

A rule that looks no further than to the end of its line and covers nothing
behind it goes through an ended text and a text behind it as through each
alone. A given text is such a rule if it holds no newline but a last one.
-/
namespace Weave.Text

theorem lineWidth_append {t : Text} (h : '\n' ∈ t) (rest : Text) :
    lineWidth (t ++ rest) = lineWidth t := by
  induction t with
  | nil => simp at h
  | cons c t ih =>
      by_cases hc : c = '\n'
      · simp [lineWidth, hc]
      · have ht : '\n' ∈ t := by simpa [Ne.symm hc] using h
        simp [lineWidth, hc, ih ht]

theorem lineWidth_line_append {line : Text} (h : '\n' ∉ line) (rest : Text) :
    lineWidth (line ++ rest) = line.length + lineWidth rest := by
  induction line with
  | nil => simp
  | cons c line ih =>
      simp only [List.mem_cons, not_or] at h
      simp only [List.cons_append, lineWidth, Ne.symm h.1, if_false, ih h.2, List.length_cons]
      omega

theorem lineWidth_line {line : Text} (h : '\n' ∉ line) : lineWidth line = line.length := by
  simpa [lineWidth] using lineWidth_line_append h []

theorem lineWidth_ended_line {line : Text} (h : '\n' ∉ line) :
    lineWidth (line ++ ['\n']) = (line ++ ['\n']).length := by
  simp [lineWidth_line_append h, lineWidth]

theorem lineWidth_le_length (t : Text) : lineWidth t ≤ t.length := by
  induction t with
  | nil => simp [lineWidth]
  | cons c t ih =>
      unfold lineWidth
      split <;> simp only [List.length_cons] <;> omega

theorem lineWidth_cons_pos (c : Char) (t : Text) : 0 < lineWidth (c :: t) := by
  unfold lineWidth
  split <;> omega

/-- A text that begins here and holds no newline but a last one is in the line. -/
theorem length_le_lineWidth {mark t : Text} (hm : '\n' ∉ mark.dropLast) (h : mark <+: t) :
    mark.length ≤ lineWidth t := by
  obtain ⟨rest, rfl⟩ := h
  induction mark with
  | nil => simp
  | cons c mark ih =>
      cases mark with
      | nil => exact lineWidth_cons_pos c rest
      | cons d mark =>
          simp only [List.dropLast_cons_cons, List.mem_cons, not_or] at hm
          have := ih hm.2
          simp only [List.cons_append, lineWidth, Ne.symm hm.1, if_false, List.length_cons] at this ⊢
          omega

theorem beginsWith_append {mark t : Text} (hm : '\n' ∉ mark.dropLast) (ht : '\n' ∈ t)
    (rest : Text) : beginsWith mark (t ++ rest) = beginsWith mark t := by
  refine Bool.eq_iff_iff.2 ?_
  simp only [beginsWith, List.isPrefixOf_iff_prefix]
  refine ⟨fun h => ?_, fun h => h.trans (List.prefix_append t rest)⟩
  rcases List.prefix_or_prefix_of_prefix h (List.prefix_append t rest) with h | ⟨more, rfl⟩
  · exact h
  · cases more with
    | nil => simp
    | cons c more =>
        refine absurd ?_ hm
        rw [List.dropLast_append_of_ne_nil (by simp)]
        exact List.mem_append_left _ ht

theorem firstLine_line_append {line : Text} (h : '\n' ∉ line) (rest : Text) :
    firstLine (line ++ rest) = line ++ firstLine rest := by
  have hp : ∀ c ∈ line, decide (c ≠ '\n') = true := fun c hc => by
    simpa using ne_of_mem_of_not_mem hc h
  unfold firstLine
  rw [List.takeWhile_append_of_pos hp]

theorem firstLine_line {line : Text} (h : '\n' ∉ line) : firstLine line = line := by
  simpa [firstLine] using firstLine_line_append h []

theorem firstLine_ended_line {line : Text} (h : '\n' ∉ line) (rest : Text) :
    firstLine (line ++ '\n' :: rest) = line := by
  rw [firstLine_line_append h]
  simp [firstLine]

theorem firstLine_append {t : Text} (h : '\n' ∈ t) (rest : Text) :
    firstLine (t ++ rest) = firstLine t := by
  obtain ⟨line, more, rfl, hl⟩ := List.eq_append_cons_of_mem h
  rw [List.append_assoc, List.cons_append, firstLine_ended_line hl, firstLine_ended_line hl]

theorem length_firstLine_le (t : Text) : t.firstLine.length ≤ t.lineWidth := by
  induction t with
  | nil => simp [firstLine]
  | cons c t ih =>
      by_cases hc : c = '\n'
      · simp [firstLine, hc]
      · simpa [firstLine, lineWidth, hc] using ih

theorem replaceFrom_skip (rule : Rule) (fresh : Bool) (front rest : Text) :
    ∃ fresh', replaceFrom rule front.length fresh (front ++ rest) =
      replaceFrom rule 0 fresh' rest := by
  induction front generalizing fresh with
  | nil => exact ⟨fresh, rfl⟩
  | cons c front ih => exact ih (c == '\n')

/-- The rule takes no notice of what is behind its line. -/
structure Rule.LineBound (rule : Rule) : Prop where
  looks : ∀ fresh t rest, '\n' ∈ t → rule fresh (t ++ rest) = rule fresh t
  covers : ∀ fresh c t hit, rule fresh (c :: t) = some hit → hit.more < lineWidth (c :: t)

/-- Behind the last newline of the first text no character is spoken for. -/
theorem replaceFrom_append {rule : Rule} (h : rule.LineBound) {a : Text}
    (ha : a.getLast? = some '\n') {covered : ℕ} (hc : covered ≤ lineWidth a) (fresh : Bool)
    (b : Text) :
    replaceFrom rule covered fresh (a ++ b) =
      replaceFrom rule covered fresh a ++ replaceFrom rule 0 true b := by
  induction a generalizing covered fresh with
  | nil => simp at ha
  | cons c a ih =>
      -- What a hit here leaves covered of the rest, at most up to the line's end.
      have hrest : ∀ more, more < lineWidth (c :: a) →
          replaceFrom rule more (c == '\n') (a ++ b) =
            replaceFrom rule more (c == '\n') a ++ replaceFrom rule 0 true b := by
        intro more hm
        cases a with
        | nil =>
            have hn : c = '\n' := by simpa using ha
            subst hn
            have h0 : more = 0 := by simpa [lineWidth] using hm
            simp [h0]
        | cons d a =>
            refine ih (by simpa using ha) ?_ _
            by_cases hn : c = '\n'
            · simp only [lineWidth, hn, if_true] at hm
              omega
            · simp only [lineWidth, hn, if_false] at hm ⊢
              omega
      have hmem : '\n' ∈ c :: a := List.mem_of_getLast? ha
      have hpos := lineWidth_cons_pos c a
      cases covered with
      | succ covered => exact hrest covered hc
      | zero =>
          have hl : rule fresh (c :: (a ++ b)) = rule fresh (c :: a) :=
            h.looks fresh (c :: a) b hmem
          cases hr : rule fresh (c :: a) with
          | none =>
              rw [replaceFrom_keep hr, List.cons_append, replaceFrom_keep (hl.trans hr),
                hrest 0 hpos, List.cons_append]
          | some hit =>
              rw [replaceFrom_hit hr, List.cons_append, replaceFrom_hit (hl.trans hr),
                hrest hit.more (h.covers fresh c a hit hr), List.append_assoc]

theorem replaceBy_append {rule : Rule} (h : rule.LineBound) {a : Text} (ha : Ended a) (b : Text) :
    replaceBy rule (a ++ b) = replaceBy rule a ++ replaceBy rule b := by
  cases hl : a.getLast? with
  | none =>
      rw [List.getLast?_eq_none_iff.1 hl]
      rfl
  | some c =>
      have hc : c = '\n' := ha c hl
      exact replaceFrom_append h (hc ▸ hl) (Nat.zero_le _) true b

/-- The rule applies only where a line begins. -/
def Rule.AtStart (rule : Rule) : Prop :=
  ∀ t, rule false t = none

theorem replaceFrom_inside {rule : Rule} (h : rule.AtStart) {line ending : Text}
    (hl : '\n' ∉ line) (he : IsEnding ending) (covered : ℕ) :
    replaceFrom rule covered false (line ++ ending) = (line ++ ending).drop covered := by
  induction line generalizing covered with
  | nil =>
      rcases he with rfl | rfl
      · simp
      · cases covered with
        | zero => simp [replaceFrom_keep (h _)]
        | succ covered => simp
  | cons c line ih =>
      simp only [List.mem_cons, not_or] at hl
      have hc : (c == '\n') = false := by simpa using Ne.symm hl.1
      cases covered with
      | zero => rw [List.cons_append, replaceFrom_keep (h _), hc, ih hl.2]; rfl
      | succ covered => rw [List.cons_append, replaceFrom_covered, hc, ih hl.2]; rfl

theorem replaceBy_of_none {rule : Rule} (h : rule.AtStart) {line ending : Text}
    (hl : '\n' ∉ line) (he : IsEnding ending) (hr : rule true (line ++ ending) = none) :
    replaceBy rule (line ++ ending) = line ++ ending := by
  cases line with
  | nil =>
      rcases he with rfl | rfl
      · rfl
      · simpa [replaceBy] using replaceFrom_keep hr
  | cons c line =>
      simp only [List.mem_cons, not_or] at hl
      have hc : (c == '\n') = false := by simpa using Ne.symm hl.1
      rw [List.cons_append] at hr ⊢
      rw [replaceBy, replaceFrom_keep hr, hc, replaceFrom_inside h hl.2 he]
      rfl

theorem replaceBy_of_some {rule : Rule} (h : rule.AtStart) {line ending : Text} {hit : Hit}
    (hl : '\n' ∉ line) (he : IsEnding ending) (hn : line ++ ending ≠ [])
    (hr : rule true (line ++ ending) = some hit) :
    replaceBy rule (line ++ ending) = hit.fill ++ (line ++ ending).drop (hit.more + 1) := by
  cases line with
  | nil =>
      rcases he with rfl | rfl
      · exact absurd rfl hn
      · simpa [replaceBy] using replaceFrom_hit hr
  | cons c line =>
      simp only [List.mem_cons, not_or] at hl
      have hc : (c == '\n') = false := by simpa using Ne.symm hl.1
      rw [List.cons_append] at hr ⊢
      rw [replaceBy, replaceFrom_hit hr, hc, replaceFrom_inside h hl.2 he]
      rfl

/-- To the rule it does not matter whether a line begins. -/
def Rule.Anywhere (rule : Rule) : Prop :=
  ∀ fresh t, rule fresh t = rule true t

theorem replaceFrom_anywhere {rule : Rule} (h : rule.Anywhere) (covered : ℕ) (a b : Bool)
    (t : Text) : replaceFrom rule covered a t = replaceFrom rule covered b t := by
  cases t with
  | nil => simp
  | cons c t =>
      cases covered with
      | succ covered => rfl
      | zero => rw [replaceFrom, replaceFrom, h a, h b]

theorem literal_anywhere (old new : Text) : (literal old new).Anywhere :=
  fun _ _ => rfl

theorem literal_lineBound {old : Text} (h : '\n' ∉ old.dropLast) (new : Text) :
    (literal old new).LineBound where
  looks fresh t rest ht := by
    unfold literal
    rw [beginsWith_append h ht]
  covers fresh c t hit hr := by
    unfold literal at hr
    split at hr
    · rename_i hb
      obtain rfl := Option.some.inj hr
      have hw := length_le_lineWidth h (List.isPrefixOf_iff_prefix.1 hb)
      have := lineWidth_cons_pos c t
      simp only
      omega
    · cases hr

theorem replaceAll_of_ne_nil {old : Text} (h : old ≠ []) (new t : Text) :
    replaceAll old new t = replaceBy (literal old new) t := by
  simp [replaceAll, h]

theorem replaceAll_append {old : Text} (hn : old ≠ []) (h : '\n' ∉ old.dropLast) (new : Text)
    {a : Text} (ha : Ended a) (b : Text) :
    replaceAll old new (a ++ b) = replaceAll old new a ++ replaceAll old new b := by
  simp only [replaceAll_of_ne_nil hn, replaceBy_append (literal_lineBound h new) ha]

end Weave.Text
