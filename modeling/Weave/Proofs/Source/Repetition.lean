import Mathlib.Data.List.Infix
import Weave.Proofs.Source.Math
import Weave.Proofs.Source.Tailoring

/-!
# Tailoring twice

What a first run leaves is settled: no directive of the target acts on a line of
it, no math block is in it, no placeholder and no carriage return. A settled text
is left as it is, so a second run changes nothing. For the first run to settle a
text, its marks must not be stacked, since a line loses one mark and no more.

Settled lines are told by the marks they begin or end with. Laying out the math
comes after the directives, and it neither makes nor moves the beginning or the
end of a line.
-/
namespace Weave.Source

/-- What the directives of a target look for at the beginning of a line. -/
def leads : Target → List Text
  | .script => ["#md".toList, "#nb".toList, "#jl ".toList]
  | .markdown => ["#nb".toList, "#jl".toList, "#md ".toList]
  | .notebook => ["#md".toList, "#jl".toList, "#nb ".toList]

/-- What the directives of a target look for at the end of a line. -/
def tail : Target → Text
  | .script => " #jl".toList
  | _ => "#jl".toList

/-- A directive of the target acts on the line. -/
def Directed (target : Target) (line : Text) : Prop :=
  (∃ w ∈ leads target, w <+: line) ∨ tail target <:+ line

/-- A source that a first run settles: a line without its target's mark is not
led by another one, nor a line of a script without its last mark ended by one. -/
structure Unstacked (target : Target) (source : Text) : Prop where
  endings : ∀ rest, '\r' :: rest <:+ source → rest.head? = some '\n'
  unnamed : ¬"@__NAME__".toList <:+: source
  leads : ∀ rest, mark target ++ ' ' :: rest ∈ source.lines → ∀ w ∈ leads target, ¬w <+: rest
  tails : target = .script → ∀ rest, rest ++ " #jl".toList ∈ source.lines →
    ¬" #jl".toList <:+ rest

/-- A text on which no part of tailoring acts. -/
structure Settled (target : Target) (t : Text) : Prop where
  carriage : '\r' ∉ t
  undirected : ¬Text.HasLine (Directed target) t
  unblocked : target = .notebook → ¬HasBlock t
  unnamed : ¬namePlaceholder <:+: t

theorem withoutLead_eq_self {lead line : Text} (h : ¬lead <+: line) :
    withoutLead lead line = line :=
  if_neg h

theorem withoutTail_of_not_suffix {tail line : Text} (h : ¬tail <:+ line) :
    withoutTail tail line = line :=
  if_neg h

theorem withoutLead_append (lead rest : Text) : withoutLead lead (lead ++ rest) = rest := by
  simp [withoutLead]

theorem withoutTail_append (front tail : Text) : withoutTail tail (front ++ tail) = front := by
  simp [withoutTail]

theorem withoutLead_suffix (lead line : Text) : withoutLead lead line <:+ line := by
  unfold withoutLead
  split
  · exact List.drop_suffix _ _
  · exact List.suffix_rfl

theorem withoutTail_isPrefix (tail line : Text) : withoutTail tail line <+: line := by
  unfold withoutTail
  split
  · exact List.take_prefix _ _
  · exact List.prefix_rfl

theorem ownText_isInfix (target : Target) (line : Text) : ownText target line <:+: line := by
  cases target with
  | script => exact (withoutTail_isPrefix _ _).isInfix.trans (withoutLead_suffix _ _).isInfix
  | markdown => exact (withoutLead_suffix _ _).isInfix
  | notebook => exact (withoutLead_suffix _ _).isInfix

theorem directed_of_isForeign {target : Target} {line : Text} (h : IsForeign target line) :
    Directed target line := by
  cases target with
  | script =>
      rcases h with h | h
      · exact .inl ⟨_, by simp [leads], h⟩
      · exact .inl ⟨_, by simp [leads], h⟩
  | markdown =>
      rcases h with h | h | h
      · exact .inl ⟨_, by simp [leads], h⟩
      · exact .inl ⟨_, by simp [leads], h⟩
      · exact .inr h
  | notebook =>
      rcases h with h | h | h
      · exact .inl ⟨_, by simp [leads], h⟩
      · exact .inl ⟨_, by simp [leads], h⟩
      · exact .inr h

theorem newline_not_mem_ownText {target : Target} {line : Text} (h : '\n' ∉ line) :
    '\n' ∉ ownText target line :=
  fun hm => h ((ownText_isInfix target line).subset hm)

/-- A line on which no directive acts is no foreign line and has no mark to lose. -/
theorem ownPiece_of_not_directed {target : Target} {p : Text} (h : ¬Directed target p.firstLine) :
    ownPiece target p = p := by
  have hs : p.firstLine ++ p.dropWhile (· ≠ '\n') = p := List.takeWhile_append_dropWhile
  have hl : ∀ w ∈ leads target, ¬w <+: p.firstLine := fun w hw hp => h (.inl ⟨w, hw, hp⟩)
  have ht : ¬tail target <:+ p.firstLine := fun hs => h (.inr hs)
  have hf : ¬IsForeign target p.firstLine := fun hf => h (directed_of_isForeign hf)
  have ho : ownText target p.firstLine = p.firstLine := by
    cases target with
    | script =>
        have hlead : withoutLead "#jl ".toList p.firstLine = p.firstLine :=
          withoutLead_eq_self (hl _ (by simp [leads]))
        rw [ownText, hlead]
        exact withoutTail_of_not_suffix ht
    | markdown => exact withoutLead_eq_self (hl _ (by simp [leads]))
    | notebook => exact withoutLead_eq_self (hl _ (by simp [leads]))
  rw [ownPiece, if_neg hf, ho, hs]

theorem applyDirectives_of_undirected {target : Target} {t : Text}
    (h : ¬Text.HasLine (Directed target) t) : applyDirectives target t = t := by
  have hp : ∀ p ∈ t.pieces, ownPiece target p = p := fun p hp =>
    ownPiece_of_not_directed fun hd => h ⟨p, hp, hd⟩
  rw [applyDirectives_eq_flatMap, List.flatMap_def, List.map_congr_left hp, List.map_id',
    Text.flatten_pieces]

theorem unifyNewlines_of_not_mem {t : Text} (h : '\r' ∉ t) : Text.unifyNewlines t = t :=
  Text.replaceAll_eq_self _ (by decide) fun hi => h (hi.subset (by decide))

/-- A settled text is left as it is. -/
theorem tailor_of_settled {target : Target} {t : Text} (h : Settled target t) (name : Text) :
    tailor target name t = t := by
  have hm : (if target = .notebook then displayMath t else t) = t := by
    split
    · exact displayMath_eq_self (h.unblocked ‹_›)
    · rfl
  unfold tailor
  rw [unifyNewlines_of_not_mem h.carriage, applyDirectives_of_undirected h.undirected]
  simp only [hm]
  exact Text.replaceAll_eq_self name (by decide) h.unnamed

/-- The lines that the directives leave are made of lines that they keep. -/
theorem hasLine_of_applyDirectives {target : Target} {P : Text → Prop} {t : Text}
    (h : Text.HasLine P (applyDirectives target t)) :
    Text.HasLine (fun line => ¬IsForeign target line ∧ P (ownText target line)) t := by
  induction t using Text.line_induction with
  | nil => cases target <;> exact absurd h (Text.not_hasLine_nil P)
  | last line hn hl =>
      have ha := applyDirectives_piece target hl (.inl rfl)
      rw [List.append_nil] at ha
      rw [ha] at h
      rw [Text.hasLine_line hn hl]
      split at h
      · exact absurd h (Text.not_hasLine_nil P)
      · rw [List.append_nil] at h
        have ho : ownText target line ≠ [] := by
          intro ho
          rw [ho] at h
          exact Text.not_hasLine_nil P h
        exact ⟨‹_›, (Text.hasLine_line ho (newline_not_mem_ownText hl)).1 h⟩
  | line line rest hl ih =>
      rw [applyDirectives_append target (Text.ended_line line),
        applyDirectives_piece target hl (.inr rfl)] at h
      rw [Text.hasLine_append hl]
      split at h
      · exact .inr (ih h)
      · rcases (Text.hasLine_append (newline_not_mem_ownText hl) _).1 h with h | h
        · exact .inl ⟨‹_›, h⟩
        · exact .inr (ih h)

theorem exists_line_of_unifyNewlines {P : Text → Prop} {t : Text}
    (h : Text.HasLine P (Text.unifyNewlines t)) : ∃ line ∈ t.lines, P line := by
  induction t using Text.line_induction with
  | nil => exact absurd h (Text.not_hasLine_nil P)
  | last line hn hl =>
      rw [Text.unifyNewlines_line hl, Text.hasLine_line hn hl] at h
      exact ⟨line, by rw [Text.lines_line hn hl]; exact List.mem_singleton_self line, h⟩
  | line line rest hl ih =>
      rw [Text.unifyNewlines_append (Text.ended_line line), Text.unifyNewlines_ended_line hl,
        Text.hasLine_append (Text.newline_not_mem_bareLine hl)] at h
      rw [Text.lines_ended_line_append hl]
      rcases h with h | h
      · exact ⟨_, List.mem_cons_self, h⟩
      · obtain ⟨l, hm, hp⟩ := ih h
        exact ⟨l, List.mem_cons_of_mem _ hm, hp⟩

/-- A mark at the beginning of a line is another artifact's or the target's own. -/
theorem foreign_or_own_of_mem_leads {target : Target} {w line : Text} (hw : w ∈ leads target)
    (hp : w <+: line) : IsForeign target line ∨ mark target ++ [' '] <+: line := by
  cases target with
  | script =>
      have hw : w = "#md".toList ∨ w = "#nb".toList ∨ w = "#jl ".toList := by simpa [leads] using hw
      rcases hw with rfl | rfl | rfl
      · exact .inl (.inl hp)
      · exact .inl (.inr hp)
      · exact .inr hp
  | markdown =>
      have hw : w = "#nb".toList ∨ w = "#jl".toList ∨ w = "#md ".toList := by simpa [leads] using hw
      rcases hw with rfl | rfl | rfl
      · exact .inl (.inl hp)
      · exact .inl (.inr (.inl hp))
      · exact .inr hp
  | notebook =>
      have hw : w = "#md".toList ∨ w = "#jl".toList ∨ w = "#nb ".toList := by simpa [leads] using hw
      rcases hw with rfl | rfl | rfl
      · exact .inl (.inl hp)
      · exact .inl (.inr (.inl hp))
      · exact .inr hp

/-- A line that is kept has no mark at its beginning any more. -/
theorem not_lead_withoutLead {target : Target} {line : Text} (hf : ¬IsForeign target line)
    (hl : ∀ rest, mark target ++ ' ' :: rest = line → ∀ w ∈ leads target, ¬w <+: rest) :
    ∀ w ∈ leads target, ¬w <+: withoutLead (mark target ++ [' ']) line := by
  by_cases hp : mark target ++ [' '] <+: line
  · obtain ⟨rest, rfl⟩ := hp
    rw [withoutLead_append]
    exact hl rest (by simp)
  · rw [withoutLead_eq_self hp]
    exact fun w hw hwl => (foreign_or_own_of_mem_leads hw hwl).elim hf hp

theorem not_directed_ownText {target : Target} {line : Text} (hf : ¬IsForeign target line)
    (hl : ∀ rest, mark target ++ ' ' :: rest = line → ∀ w ∈ leads target, ¬w <+: rest)
    (ht : target = .script → ∀ rest, rest ++ " #jl".toList = line → ¬" #jl".toList <:+ rest) :
    ¬Directed target (ownText target line) := by
  have hlead := not_lead_withoutLead hf hl
  -- Documents and notebooks drop what ends in the mark before they strip a lead.
  have htail : "#jl".toList <:+ withoutLead (mark target ++ [' ']) line → "#jl".toList <:+ line :=
    fun hs => hs.trans (withoutLead_suffix _ _)
  cases target with
  | script =>
      rintro (⟨w, hw, hp⟩ | hs)
      · exact hlead w hw (hp.trans (withoutTail_isPrefix _ _))
      · by_cases hm : " #jl".toList <:+ withoutLead "#jl ".toList line
        · obtain ⟨front, hfront⟩ := hm
          obtain ⟨before, hbefore⟩ := withoutLead_suffix "#jl ".toList line
          have hline : (before ++ front) ++ " #jl".toList = line := by
            rw [← hbefore, ← hfront, List.append_assoc]
          have ho : ownText .script line = front := by
            rw [ownText, ← hfront, withoutTail_append]
          rw [ho] at hs
          exact ht rfl _ hline (hs.trans (List.suffix_append before front))
        · rw [ownText, withoutTail_of_not_suffix hm] at hs
          exact hm hs
  | markdown =>
      rintro (⟨w, hw, hp⟩ | hs)
      · exact hlead w hw hp
      · exact hf (.inr (.inr (htail hs)))
  | notebook =>
      rintro (⟨w, hw, hp⟩ | hs)
      · exact hlead w hw hp
      · exact hf (.inr (.inr (htail hs)))

/-- The directives bring in nothing. -/
theorem infix_of_applyDirectives {target : Target} {w : Text} (hn : w ≠ []) (hw : '\n' ∉ w)
    {source : Text} (h : w <:+: applyDirectives target (Text.unifyNewlines source)) :
    ∃ line ∈ source.lines, w <:+: line := by
  refine exists_line_of_unifyNewlines ((hasLine_of_applyDirectives
    ((Text.hasLine_infix_iff hn hw _).2 h)).imp fun line hl => ?_)
  exact hl.2.trans (ownText_isInfix target line)

theorem clear_of_mem_leads {w : Text} (h : w ∈ leads .notebook) : '\n' ∉ w ∧ Clear w := by
  have hw : w = "#md".toList ∨ w = "#jl".toList ∨ w = "#nb ".toList := by simpa [leads] using h
  rcases hw with rfl | rfl | rfl
  · exact ⟨by decide, by decide, by decide, '#', by decide, by decide, by decide⟩
  · exact ⟨by decide, by decide, by decide, '#', by decide, by decide, by decide⟩
  · exact ⟨by decide, by decide, by decide, '#', by decide, by decide, by decide⟩

theorem clear_jl : Clear "#jl".toList :=
  ⟨by decide, by decide, '#', by decide, by decide, by decide⟩

theorem clear_namePlaceholder : Clear namePlaceholder :=
  ⟨by decide, by decide, '@', by decide, by decide, by decide⟩

theorem clear_carriage : Clear ['\r'] :=
  ⟨by decide, by decide, '\r', by decide, by decide, by decide⟩

/-- Laying out the math makes no line on which a directive acts. -/
theorem directed_of_displayMath {t : Text}
    (h : Text.HasLine (Directed .notebook) (displayMath t)) :
    Text.HasLine (Directed .notebook) t := by
  obtain ⟨p, hp, ⟨w, hw, hpre⟩ | hs⟩ := h
  · obtain ⟨hnl, hc⟩ := clear_of_mem_leads hw
    refine (hc.hasLine_prefix_of_displayMath hnl ⟨p, hp, hpre⟩).imp fun line hl => ?_
    exact .inl ⟨w, hw, hl⟩
  · refine (clear_jl.hasLine_suffix_of_displayMath (by decide) ⟨p, hp, hs⟩).imp fun line hl => ?_
    exact .inr hl

theorem carriage_not_mem_unifyNewlines {t : Text}
    (h : ∀ rest, '\r' :: rest <:+ t → rest.head? = some '\n') :
    '\r' ∉ Text.unifyNewlines t := by
  have hn : "\r\n".toList ≠ [] := by decide
  unfold Text.unifyNewlines
  induction t using Text.occurrence_induction hn with
  | nil => exact List.not_mem_nil
  | occurrence t ih =>
      have ih := ih fun rest hs => h rest (hs.trans (List.suffix_append _ t))
      rw [Text.replaceAll_occurrence _ hn]
      exact fun hm => (List.mem_append.1 hm).elim (by decide) ih
  | char c t hp ih =>
      have ih := ih fun rest hs => h rest (hs.trans (List.suffix_cons c t))
      rw [Text.replaceAll_char _ hn hp]
      refine List.not_mem_cons_of_ne_of_not_mem ?_ ih
      rintro rfl
      obtain ⟨rest, rfl⟩ := List.head?_eq_some_iff.1 (h t List.suffix_rfl)
      exact hp ⟨rest, rfl⟩

theorem mem_of_mem_applyDirectives {target : Target} {c : Char} {t : Text}
    (h : c ∈ applyDirectives target t) : c ∈ t := by
  rw [applyDirectives_eq_flatMap, List.mem_flatMap] at h
  obtain ⟨p, hp, hc⟩ := h
  have hm : c ∈ p := by
    rw [ownPiece] at hc
    split at hc
    · exact absurd hc List.not_mem_nil
    · rcases List.mem_append.1 hc with hc | hc
      · exact (List.takeWhile_prefix _).subset ((ownText_isInfix target p.firstLine).subset hc)
      · exact (List.dropWhile_suffix _).subset hc
  rw [← Text.flatten_pieces t]
  exact List.mem_flatten_of_mem hp hm

/-- A first run settles a source whose marks are not stacked. -/
theorem settled_tailor {target : Target} {source : Text} (h : Unstacked target source)
    (name : Text) : Settled target (tailor target name source) := by
  let u := applyDirectives target (Text.unifyNewlines source)
  have hcarriage : '\r' ∉ u := fun hm =>
    carriage_not_mem_unifyNewlines h.endings (mem_of_mem_applyDirectives hm)
  have hundirected : ¬Text.HasLine (Directed target) u := by
    intro hd
    obtain ⟨line, hl, hf, hd⟩ := exists_line_of_unifyNewlines (hasLine_of_applyDirectives hd)
    exact not_directed_ownText hf (fun rest hr => h.leads rest (hr ▸ hl))
      (fun hs rest hr => h.tails hs rest (hr ▸ hl)) hd
  have hunnamed : ¬namePlaceholder <:+: u := by
    intro hi
    obtain ⟨line, hl, hi⟩ := infix_of_applyDirectives (by decide) (by decide) hi
    exact h.unnamed (hi.trans (Text.infix_of_mem_lines hl))
  have hs : Settled target (if target = .notebook then displayMath u else u) := by
    split
    · rename_i htarget
      subst htarget
      refine ⟨fun hm => hcarriage ?_, fun hd => hundirected (directed_of_displayMath hd),
        fun _ => not_hasBlock_displayMath u,
        fun hi => hunnamed (clear_namePlaceholder.infix_of_displayMath hi)⟩
      rw [← List.singleton_infix_iff] at hm ⊢
      exact clear_carriage.infix_of_displayMath hm
    · exact ⟨hcarriage, hundirected, fun hb => absurd hb ‹_›, hunnamed⟩
  have ht : tailor target name source = Text.replaceAll namePlaceholder name
      (if target = .notebook then displayMath u else u) := rfl
  rw [ht, Text.replaceAll_eq_self name (by decide) hs.unnamed]
  exact hs

/-- Tailoring a second time changes nothing, where no marks are stacked. Laying out
the math has its part in this: it leaves no block, and no line on which a directive
acts and no placeholder that was not there. -/
theorem tailor_tailor {target : Target} {source : Text} (h : Unstacked target source)
    (name : Text) :
    tailor target name (tailor target name source) = tailor target name source ∧
    ∀ t, ¬HasBlock (displayMath t) ∧
      (Text.HasLine (Directed .notebook) (displayMath t) → Text.HasLine (Directed .notebook) t) ∧
      ("@__NAME__".toList <:+: displayMath t → "@__NAME__".toList <:+: t) :=
  ⟨tailor_of_settled (settled_tailor h name) name, fun t => ⟨not_hasBlock_displayMath t,
    directed_of_displayMath, clear_namePlaceholder.infix_of_displayMath⟩⟩

/-- A math block between lines with marks, whose lines end in two characters. -/
theorem tailor_tailor_math :
    Unstacked .notebook "#nb ```math\r\n#md #nb x\r\n#jl```\r\ny #``` #jl ```".toList ∧
    tailor .notebook "n".toList (tailor .notebook "n".toList
        "#nb ```math\r\n#md #nb x\r\n#jl```\r\ny #``` #jl ```".toList) =
      tailor .notebook "n".toList "#nb ```math\r\n#md #nb x\r\n#jl```\r\ny #``` #jl ```".toList := by
  have h : Unstacked .notebook "#nb ```math\r\n#md #nb x\r\n#jl```\r\ny #``` #jl ```".toList := by
    have hends : ∀ s ∈ "#nb ```math\r\n#md #nb x\r\n#jl```\r\ny #``` #jl ```".toList.tails,
        s.head? = some '\r' → s.tail.head? = some '\n' := by decide
    have hleads : ∀ line ∈ Text.lines "#nb ```math\r\n#md #nb x\r\n#jl```\r\ny #``` #jl ```".toList,
        mark .notebook <+: line → ∀ w ∈ leads .notebook, ¬w <+: line.drop 4 := by decide
    have hname : '@' ∉ "#nb ```math\r\n#md #nb x\r\n#jl```\r\ny #``` #jl ```".toList := by decide
    refine ⟨fun rest hr => ?_, fun hi => ?_, fun rest hr => ?_, fun hs => ?_⟩
    · exact hends _ ((List.mem_tails _ _).2 hr) rfl
    · exact hname (hi.subset (by decide))
    · exact hleads _ hr ⟨' ' :: rest, rfl⟩
    · cases hs
  exact ⟨h, (tailor_tailor h "n".toList).1⟩

end Weave.Source
