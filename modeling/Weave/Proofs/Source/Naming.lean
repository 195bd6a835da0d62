import Weave.Proofs.Chunk.Image
import Weave.Proofs.Text.Lines
import Weave.Proofs.Text.Occurrence
import Weave.Source

/-!
# The name of a document in its chunks

The name is filled in before the text is cut, so a placeholder may stand where a
mark would begin, behind the first half of a mark, or alone on its line. Cutting
and marking look at a line only to see which mark begins it, whether it is empty
and whether it is indented. A name that cannot be taken for any of these is not
seen by them: the chunks are those of the text with its placeholders, and the
name stands in their lines.
-/
namespace Weave

namespace Chunk

open Segmentation

/-- A change of lines that keeps all that cutting and marking look at. -/
structure Unseen (f : Text → Text) : Prop where
  isBreak : ∀ l, isBreak (f l) = isBreak l
  kindOf : ∀ l, kindOf (f l) = kindOf l
  textOf : ∀ l, textOf (f l) = f (textOf l)
  isEmpty : ∀ l, (f l).isEmpty = l.isEmpty
  isIndented : ∀ l, Text.isIndented (f l) = Text.isIndented l

namespace Unseen

variable {f : Text → Text} (h : Unseen f)
include h

theorem inRun_iff (k : Kind) (l : Text) : InRun k (f l) ↔ InRun k l := by
  rw [InRun, InRun, h.isBreak, h.kindOf]

theorem endsRun_map {k : Kind} {ls : List Text} (he : EndsRun k ls) : EndsRun k (ls.map f) := by
  cases ls with
  | nil => simp [EndsRun]
  | cons l ls =>
      intro x hx hr
      obtain rfl : f l = x := by simpa using hx
      exact he l rfl ((h.inRun_iff k l).1 hr)

theorem pieces_map (ls : List Text) :
    pieces (ls.map f) = (pieces ls).map (Prod.map id (List.map f)) := by
  induction ls using run_induction with
  | nil => rfl
  | brk l ls hl ih =>
      have hf : pieces (f l :: ls.map f) = pieces (ls.map f) :=
        pieces_append_break [] _ ((h.isBreak l).trans hl)
      have hp : pieces (l :: ls) = pieces ls := pieces_append_break [] ls hl
      rw [List.map_cons, hf, hp, ih]
  | run k run rest hn hr he ih =>
      have hrun : ∀ l ∈ run.map f, InRun k l := by
        intro x hx
        obtain ⟨l, hl, rfl⟩ := List.mem_map.1 hx
        exact (h.inRun_iff k l).2 (hr l hl)
      have ht : (run.map f).map Segmentation.textOf = (run.map Segmentation.textOf).map f := by
        simp only [List.map_map, Function.comp_def, h.textOf]
      rw [List.map_append, pieces_append_run (by simpa using hn) hrun (h.endsRun_map he), ih, ht,
        pieces_append_run hn hr he]
      rfl

theorem tidied_map (ps : List (Kind × List Text)) :
    tidied (ps.map (Prod.map id (List.map f))) =
      (tidied ps).map (Prod.map id (List.map f)) := by
  have he : List.isEmpty ∘ f = List.isEmpty := funext h.isEmpty
  have ha : ∀ xs : List Text,
      ((xs.map f).any fun x => !x.isEmpty) = xs.any fun x => !x.isEmpty := by
    intro xs
    simp [h.isEmpty, Function.comp_def]
  unfold tidied
  rw [List.filter_map, List.map_map, List.map_map]
  simp only [Function.comp_def, Prod.map_snd, ha]
  refine List.map_congr_left fun p _ => ?_
  simp [List.rdropWhile, List.dropWhile_map, ← List.map_reverse, he]

theorem segmentation_map (ls : List Text) :
    segmentation (ls.map f) = (segmentation ls).map (Prod.map id (List.map f)) := by
  rw [segmentation, h.pieces_map, h.tidied_map, segmentation]

theorem opensIndented_mapLines (c : Chunk) :
    (c.mapLines (List.map f)).opensIndented = c.opensIndented := by
  rw [opensIndented, firstLine?, lines_mapLines, List.head?_map, Option.any_map, opensIndented,
    firstLine?]
  congr 1
  exact funext h.isIndented

theorem closesIndented_mapLines (c : Chunk) :
    (c.mapLines (List.map f)).closesIndented = c.closesIndented := by
  rw [closesIndented, lastLine?, lines_mapLines, List.getLast?_map, Option.any_map, closesIndented,
    lastLine?]
  congr 1
  exact funext h.isIndented

theorem nextOpens_mapLines (cs : List Chunk) :
    nextOpens (cs.map (mapLines (List.map f))) = nextOpens cs := by
  induction cs with
  | nil => rfl
  | cons c cs ih =>
      cases c with
      | prose ls => exact ih
      | code ls continued => exact h.opensIndented_mapLines (code ls continued)

theorem markContinued_mapLines (afterOpen : Bool) (cs : List Chunk) :
    markContinued afterOpen (cs.map (mapLines (List.map f))) =
      (markContinued afterOpen cs).map (mapLines (List.map f)) := by
  induction cs generalizing afterOpen with
  | nil => rfl
  | cons c cs ih =>
      cases c with
      | prose ls => exact congrArg (prose (ls.map f) :: ·) (ih afterOpen)
      | code ls continued =>
          have ho := h.opensIndented_mapLines (code ls continued)
          have hc := h.closesIndented_mapLines (code ls continued)
          rw [mapLines] at ho hc
          rw [List.map_cons, mapLines, markContinued, ih, ho, hc, h.nextOpens_mapLines]
          rfl

/-- A text whose lines are changed unseen has the chunks with their lines changed. -/
theorem ofText_of_lines_eq {t t' : Text} (hl : t'.lines = t.lines.map f) :
    ofText t' = (ofText t).map (mapLines (List.map f)) := by
  have ho : ∀ p : Kind × List Text, ofOutline (Prod.map id (List.map f) p) =
      (ofOutline p).mapLines (List.map f) := fun p => by
    obtain ⟨k, xs⟩ := p
    cases k <;> rfl
  rw [ofText_eq_markContinued, hl, h.segmentation_map, List.map_map, ofText_eq_markContinued,
    ← h.markContinued_mapLines, List.map_map]
  simp only [Function.comp_def, ho]

end Unseen

end Chunk

namespace Source

/-- A name that cannot be taken for a part of a mark or for an indentation. -/
structure Unobtrusive (name : Text) : Prop where
  nonempty : name ≠ []
  newline : '\n' ∉ name
  carriage : '\r' ∉ name
  first : ∀ c ∈ name.head?, Text.isBlank c = false ∧ c ≠ '#' ∧ c ≠ '\'' ∧ c ≠ '-'

/-- A text with the name in the place of its placeholders. -/
def fillName (name : Text) : Text → Text :=
  Text.replaceAll namePlaceholder name

theorem namePlaceholder_ne_nil : namePlaceholder ≠ [] := by decide

@[simp]
theorem fillName_nil (name : Text) : fillName name [] = [] :=
  Text.replaceAll_nil name namePlaceholder_ne_nil

theorem fillName_placeholder (name t : Text) :
    fillName name (namePlaceholder ++ t) = name ++ fillName name t :=
  Text.replaceAll_occurrence name namePlaceholder_ne_nil t

theorem fillName_char {c : Char} {t : Text} (name : Text) (h : ¬namePlaceholder <+: c :: t) :
    fillName name (c :: t) = c :: fillName name t :=
  Text.replaceAll_char name namePlaceholder_ne_nil h

theorem fillName_cons {c : Char} (name : Text) (hc : c ≠ '@') (t : Text) :
    fillName name (c :: t) = c :: fillName name t :=
  fillName_char name fun h => hc (List.cons_prefix_cons.1 h).1.symm

theorem fillName_append_cons {c : Char} (name : Text) (hc : c ∉ namePlaceholder) (a b : Text) :
    fillName name (a ++ c :: b) = fillName name a ++ c :: fillName name b :=
  Text.replaceAll_append_cons name namePlaceholder_ne_nil hc a b

/-- The last pass of tailoring is all that the name has a part in. -/
theorem tailor_eq_fillName (target : Target) (name source : Text) :
    tailor target name source = fillName name (tailor target namePlaceholder source) := by
  unfold tailor
  rw [Text.replaceAll_self namePlaceholder_ne_nil]
  rfl

theorem mem_of_mem_fillName {name t : Text} {c : Char} (h : c ∈ fillName name t) :
    c ∈ name ∨ c ∈ t := by
  induction t using Text.occurrence_induction namePlaceholder_ne_nil with
  | nil => simp at h
  | occurrence t ih =>
      rw [fillName_placeholder, List.mem_append] at h
      rcases h with h | h
      · exact .inl h
      · exact (ih h).imp_right (List.mem_append_right _)
  | char d t hp ih =>
      rw [fillName_char name hp, List.mem_cons] at h
      rcases h with rfl | h
      · exact .inr List.mem_cons_self
      · exact (ih h).imp_right (List.mem_cons_of_mem d)

namespace Unobtrusive

variable {name : Text} (h : Unobtrusive name)
include h

theorem fillName_eq_nil_iff (t : Text) : fillName name t = [] ↔ t = [] := by
  induction t using Text.occurrence_induction namePlaceholder_ne_nil with
  | nil => simp
  | occurrence t _ =>
      rw [fillName_placeholder]
      exact iff_of_false (fun he => h.nonempty (List.append_eq_nil_iff.1 he).1)
        fun he => namePlaceholder_ne_nil (List.append_eq_nil_iff.1 he).1
  | char c t hp _ => simp [fillName_char name hp]

/-- What begins a filled text begins the text, unless a placeholder does. -/
theorem head?_fillName (t : Text) :
    (fillName name t).head? = t.head? ∨
      t.head? = some '@' ∧ (fillName name t).head? = name.head? := by
  induction t using Text.occurrence_induction namePlaceholder_ne_nil with
  | nil => exact .inl (by simp)
  | occurrence t _ =>
      refine .inr ⟨rfl, ?_⟩
      rw [fillName_placeholder, List.head?_append_of_ne_nil _ h.nonempty]
  | char c t hp _ => exact .inl (by rw [fillName_char name hp]; rfl)

/-- A character that is no part of the marks of which a name must be clear. -/
theorem head?_fillName_iff {c : Char} (hc : c ≠ '@') (hn : name.head? ≠ some c) (t : Text) :
    (fillName name t).head? = some c ↔ t.head? = some c := by
  rcases h.head?_fillName t with he | ⟨ht, he⟩
  · rw [he]
  · rw [ht, he]
    exact iff_of_false hn fun hx => hc (Option.some.inj hx).symm

theorem head?_ne {c : Char} (hc : c ∈ "#'- ".toList) : name.head? ≠ some c := by
  intro hh
  obtain ⟨hb, h1, h2, h3⟩ := h.first c hh
  have hc : c = '#' ∨ c = '\'' ∨ c = '-' ∨ c = ' ' := by simpa using hc
  rcases hc with rfl | rfl | rfl | rfl
  · exact h1 rfl
  · exact h2 rfl
  · exact h3 rfl
  · exact Bool.noConfusion hb

/-- A text of characters that begin no name begins the filled text only if it began
the text. -/
theorem prefix_fillName_iff {w : Text} (hw : ∀ c ∈ w, c ∈ "#'- ".toList) (t : Text) :
    w <+: fillName name t ↔ w <+: t := by
  induction w generalizing t with
  | nil => simp
  | cons c w ih =>
      have hm : c ∈ "#'- ".toList := hw c List.mem_cons_self
      have hc : c ≠ '@' := fun he => absurd (he ▸ hm) (by decide)
      have ih := ih fun d hd => hw d (List.mem_cons_of_mem c hd)
      have hh := h.head?_fillName_iff hc (h.head?_ne hm) t
      cases t with
      | nil => simp
      | cons d t =>
          by_cases hd : d = c
          · subst hd
            rw [fillName_cons name hc, List.cons_prefix_cons, List.cons_prefix_cons, ih]
          · have hf : ¬(fillName name (d :: t)).head? = some c := by
              rw [hh]
              simpa using hd
            refine iff_of_false (fun hp => hf ?_) fun hp => hd (List.cons_prefix_cons.1 hp).1.symm
            obtain ⟨rest, hr⟩ := hp
            rw [← hr]
            rfl

theorem isBreak_fillName (l : Text) :
    Chunk.Segmentation.isBreak (fillName name l) = Chunk.Segmentation.isBreak l := by
  rw [Bool.eq_iff_iff, Chunk.isBreak_iff, Chunk.isBreak_iff]
  exact h.prefix_fillName_iff (by simp) l

theorem kindOf_fillName (l : Text) :
    Chunk.Segmentation.kindOf (fillName name l) = Chunk.Segmentation.kindOf l := by
  have hm : "#'".toList <+: fillName name l ↔ "#'".toList <+: l :=
    h.prefix_fillName_iff (by simp) l
  by_cases hp : "#'".toList <+: l
  · rw [(Chunk.kindOf_eq_prose_iff _).2 hp, (Chunk.kindOf_eq_prose_iff _).2 (hm.2 hp)]
  · rw [Chunk.kindOf_eq_code_of_not_marked hp,
      Chunk.kindOf_eq_code_of_not_marked fun hf => hp (hm.1 hf)]

end Unobtrusive

/-- A prose mark that neither ends its line nor has a space behind it stays. -/
theorem textOf_unspaced {t : Text} (hn : t ≠ []) (hs : t.head? ≠ some ' ') :
    Chunk.Segmentation.textOf ('#' :: '\'' :: t) = '#' :: '\'' :: t := by
  cases t with
  | nil => exact absurd rfl hn
  | cons c t =>
      have hc : c ≠ ' ' := by simpa using hs
      simp [Chunk.Segmentation.textOf, hc]

namespace Unobtrusive

variable {name : Text} (h : Unobtrusive name)
include h

theorem textOf_fillName (l : Text) :
    Chunk.Segmentation.textOf (fillName name l) = fillName name (Chunk.Segmentation.textOf l) := by
  cases hk : Chunk.Segmentation.kindOf l with
  | code =>
      rw [Chunk.textOf_of_code hk, Chunk.textOf_of_code ((h.kindOf_fillName l).trans hk)]
  | prose =>
      obtain ⟨t, rfl⟩ := (Chunk.kindOf_eq_prose_iff l).1 hk
      have hf : fillName name ('#' :: '\'' :: t) = '#' :: '\'' :: fillName name t := by
        rw [fillName_cons name (by decide), fillName_cons name (by decide)]
      change Chunk.Segmentation.textOf (fillName name ('#' :: '\'' :: t)) =
        fillName name (Chunk.Segmentation.textOf ('#' :: '\'' :: t))
      by_cases hn : t = []
      · subst hn
        rw [hf, fillName_nil]
        exact (fillName_nil name).symm
      · by_cases hs : t.head? = some ' '
        · obtain ⟨rest, rfl⟩ := List.head?_eq_some_iff.1 hs
          rw [hf, fillName_cons name (by decide)]
          rfl
        · have hs' : (fillName name t).head? ≠ some ' ' := fun hh =>
            hs ((h.head?_fillName_iff (by decide) (h.head?_ne (by decide)) t).1 hh)
          have hn' : fillName name t ≠ [] := fun he => hn ((h.fillName_eq_nil_iff t).1 he)
          rw [hf, textOf_unspaced hn hs, textOf_unspaced hn' hs', hf]

theorem isIndented_fillName (l : Text) :
    Text.isIndented (fillName name l) = Text.isIndented l := by
  have hi : ∀ t : Text, Text.isIndented t = t.head?.any Text.isBlank := fun t => by cases t <;> rfl
  rw [hi, hi]
  rcases h.head?_fillName l with he | ⟨hl, he⟩
  · rw [he]
  · obtain ⟨c, rest, hc⟩ := List.exists_cons_of_ne_nil h.nonempty
    have hb := (h.first c (by rw [hc]; rfl)).1
    rw [hl, he, hc, List.head?_cons, Option.any_some, hb]
    decide

/-- The name is not seen by cutting and marking. -/
theorem unseen : Chunk.Unseen (fillName name) where
  isBreak := h.isBreak_fillName
  kindOf := h.kindOf_fillName
  textOf := h.textOf_fillName
  isEmpty l := by
    rw [Bool.eq_iff_iff, List.isEmpty_iff, List.isEmpty_iff, h.fillName_eq_nil_iff]
  isIndented := h.isIndented_fillName

theorem getLast?_fillName {t : Text} (hl : (fillName name t).getLast? = some '\r') :
    t.getLast? = some '\r' := by
  induction t using Text.occurrence_induction namePlaceholder_ne_nil with
  | nil => simp at hl
  | occurrence t ih =>
      rw [fillName_placeholder, List.getLast?_append] at hl
      cases hf : (fillName name t).getLast? with
      | none =>
          rw [hf, Option.none_or] at hl
          exact absurd (List.mem_of_getLast? hl) h.carriage
      | some c =>
          rw [hf, Option.some_or] at hl
          rw [List.getLast?_append, ih (hf.trans hl), Option.some_or]
  | char c t hp ih =>
      rw [fillName_char name hp] at hl
      by_cases hn : t = []
      · subst hn
        simpa using hl
      · obtain ⟨d, rest, hd⟩ :=
          List.exists_cons_of_ne_nil fun he => hn ((h.fillName_eq_nil_iff t).1 he)
        obtain ⟨e, rest', rfl⟩ := List.exists_cons_of_ne_nil hn
        rw [hd, List.getLast?_cons_cons, ← hd] at hl
        rw [List.getLast?_cons_cons, ih hl]

/-- The ending of a line stays an ending, and what was none becomes none. -/
theorem bareLine_fillName (line : Text) :
    Text.bareLine (fillName name line ++ ['\n']) =
      fillName name (Text.bareLine (line ++ ['\n'])) := by
  rw [Text.bareLine_ended_line, Text.bareLine_ended_line]
  by_cases hl : line.getLast? = some '\r'
  · obtain ⟨front, rfl⟩ := List.getLast?_eq_some_iff.1 hl
    rw [fillName_append_cons name (by decide), fillName_nil]
    simp
  · rw [if_neg hl, if_neg fun hf => hl (h.getLast?_fillName hf)]

theorem newline_not_mem_fillName {line : Text} (hl : '\n' ∉ line) : '\n' ∉ fillName name line :=
  fun hm => (mem_of_mem_fillName hm).elim h.newline hl

theorem lines_fillName (t : Text) : (fillName name t).lines = t.lines.map (fillName name) := by
  induction t using Text.line_induction with
  | nil => simp
  | last line hn hl =>
      have hf : fillName name line ≠ [] := fun he => hn ((h.fillName_eq_nil_iff line).1 he)
      rw [Text.lines_line hn hl, Text.lines_line hf (h.newline_not_mem_fillName hl)]
      rfl
  | line line rest hl ih =>
      have hf : fillName name ((line ++ ['\n']) ++ rest) =
          (fillName name line ++ ['\n']) ++ fillName name rest := by
        rw [← List.append_cons, fillName_append_cons name (by decide), List.append_cons]
      rw [hf, Text.lines_ended_line_append (h.newline_not_mem_fillName hl), ih,
        h.bareLine_fillName, Text.lines_ended_line_append hl]
      rfl

end Unobtrusive

/-- Filling in the name and cutting may change places. So the chunks are the same
for all names that are taken for nothing else, but for the name in their lines. -/
theorem chunks_eq_map_fillName (target : Target) (source : Text) {name other : Text}
    (h : Unobtrusive name) (ho : Unobtrusive other) :
    chunks target name source = (Chunk.ofText (tailor target "@__NAME__".toList source)).map
      (Chunk.mapLines (List.map (Text.replaceAll "@__NAME__".toList name))) ∧
    (chunks target name source).map (fun c => (c.kind, c.lines.length, c.isContinued)) =
      (chunks target other source).map fun c => (c.kind, c.lines.length, c.isContinued) := by
  have hc : ∀ {name}, Unobtrusive name → chunks target name source =
      (Chunk.ofText (tailor target namePlaceholder source)).map
        (Chunk.mapLines (List.map (fillName name))) := by
    intro name h
    rw [chunks, tailor_eq_fillName, h.unseen.ofText_of_lines_eq (h.lines_fillName _)]
  refine ⟨hc h, ?_⟩
  rw [hc h, hc ho, List.map_map, List.map_map]
  simp [Function.comp_def]

/-- Placeholders behind a half mark, behind a mark, before a line ending of two characters and
alone on a line, and a name with a placeholder in it. -/
theorem chunks_eq_map_fillName_marks :
    Unobtrusive "n".toList ∧ Unobtrusive "x@__NAME__".toList ∧
    chunks .script "n".toList "#@__NAME__\r\n #'\n#'@__NAME__\n@__NAME__\n".toList =
      (Chunk.ofText (tailor .script "@__NAME__".toList
        "#@__NAME__\r\n #'\n#'@__NAME__\n@__NAME__\n".toList)).map
      (Chunk.mapLines (List.map (Text.replaceAll "@__NAME__".toList "n".toList))) ∧
    (chunks .script "n".toList "#@__NAME__\r\n #'\n#'@__NAME__\n@__NAME__\n".toList).map
        (fun c => (c.kind, c.lines.length, c.isContinued)) =
      (chunks .script "x@__NAME__".toList "#@__NAME__\r\n #'\n#'@__NAME__\n@__NAME__\n".toList).map
        fun c => (c.kind, c.lines.length, c.isContinued) := by
  have hn : Unobtrusive "n".toList :=
    ⟨by decide, by decide, by decide, fun c hc => by cases hc; decide⟩
  have hx : Unobtrusive "x@__NAME__".toList :=
    ⟨by decide, by decide, by decide, fun c hc => by cases hc; decide⟩
  exact ⟨hn, hx, chunks_eq_map_fillName .script _ hn hx⟩

end Source

end Weave
