import Weave.Proofs.Text.Replacement
import Weave.Source

/-!
# Directives line by line

A directive drops a line or strips a mark from it, and its mark holds no
newline. So it works on each piece of a text alone, and so do all directives of
a target, one after the other: a piece is dropped, or it keeps its newline and
loses the marks of its own target.
-/
namespace Weave.Source

/-- A line without a text at its beginning. -/
def withoutLead (lead line : Text) : Text :=
  if lead <+: line then line.drop lead.length else line

/-- A line without a text at its end. -/
def withoutTail (tail line : Text) : Text :=
  if tail <:+ line then line.take (line.length - tail.length) else line

theorem withoutTail_self (line : Text) : withoutTail line line = [] := by
  simp [withoutTail]

theorem withoutTail_cons {c : Char} {tail line : Text} (h : tail ≠ c :: line) :
    withoutTail tail (c :: line) = c :: withoutTail tail line := by
  unfold withoutTail
  by_cases hs : tail <:+ line
  · have hlen := hs.length_le
    rw [if_pos hs, if_pos (hs.trans (List.suffix_cons c line)), List.length_cons,
      Nat.succ_sub hlen, List.take_succ_cons]
  · have hs' : ¬tail <:+ c :: line := fun hc => (List.suffix_cons_iff.1 hc).elim h hs
    rw [if_neg hs, if_neg hs']

namespace Directive

/-- No mark holds a newline. -/
def Plain : Directive → Prop
  | dropLed marks => ∀ m ∈ marks, '\n' ∉ m
  | dropTailed m => '\n' ∉ m
  | stripLead m => '\n' ∉ m
  | stripTail m => '\n' ∉ m

theorem plain_ofTarget (target : Target) : ∀ d ∈ ofTarget target, d.Plain := by
  cases target <;> simp [ofTarget, Plain, mark]

theorem newline_not_mem_dropLast {mark : Text} (h : '\n' ∉ mark) : '\n' ∉ mark.dropLast :=
  fun hm => h (List.dropLast_subset mark hm)

theorem any_congr_mem {marks : List Text} {p q : Text → Bool} (h : ∀ m ∈ marks, p m = q m) :
    marks.any p = marks.any q := by
  refine Bool.eq_iff_iff.2 ?_
  simp only [List.any_eq_true]
  exact exists_congr fun m => and_congr_right fun hm => by rw [h m hm]

theorem wholeLine_append {t : Text} (ht : '\n' ∈ t) (rest : Text) :
    wholeLine (t ++ rest) = wholeLine t := by
  rw [wholeLine, Text.lineWidth_append ht, wholeLine]

theorem wholeLine_more_lt (c : Char) (t : Text) :
    (wholeLine (c :: t)).more < Text.lineWidth (c :: t) := by
  exact Nat.sub_lt (Text.lineWidth_cons_pos c t) Nat.one_pos

theorem rule_lineBound {d : Directive} (h : d.Plain) : d.rule.LineBound := by
  cases d with
  | dropLed marks =>
      constructor
      · intro fresh t rest ht
        have hb : marks.any (Text.beginsWith · (t ++ rest)) = marks.any (Text.beginsWith · t) := by
          refine any_congr_mem fun m hm => ?_
          exact Text.beginsWith_append (newline_not_mem_dropLast (h m hm)) ht rest
        simp only [rule, hb, wholeLine_append ht]
      · intro fresh c t hit hr
        simp only [rule, Option.ite_none_right_eq_some, Option.some.injEq] at hr
        obtain ⟨-, rfl⟩ := hr
        exact wholeLine_more_lt c t
  | dropTailed m =>
      constructor
      · intro fresh t rest ht
        simp only [rule, Text.firstLine_append ht, wholeLine_append ht]
      · intro fresh c t hit hr
        simp only [rule, Option.ite_none_right_eq_some, Option.some.injEq] at hr
        obtain ⟨-, rfl⟩ := hr
        exact wholeLine_more_lt c t
  | stripLead m =>
      have hm : '\n' ∉ (m ++ [' ']).dropLast := by simpa [Plain] using h
      constructor
      · intro fresh t rest ht
        simp only [rule, Text.beginsWith_append hm ht]
      · intro fresh c t hit hr
        simp only [rule, Option.ite_none_right_eq_some, Option.some.injEq, Bool.and_eq_true] at hr
        obtain ⟨⟨-, hb⟩, rfl⟩ := hr
        have := Text.length_le_lineWidth hm (List.isPrefixOf_iff_prefix.1 hb)
        simp only [List.length_append, List.length_singleton] at this
        simp only
        omega
  | stripTail m =>
      constructor
      · intro fresh t rest ht
        simp only [rule, Text.firstLine_append ht]
      · intro fresh c t hit hr
        simp only [rule, Option.ite_none_right_eq_some, Option.some.injEq] at hr
        obtain ⟨hl, rfl⟩ := hr
        have := Text.length_firstLine_le (c :: t)
        rw [hl] at this
        exact this

theorem apply_append {d : Directive} (h : d.Plain) {a : Text} (ha : Text.Ended a) (b : Text) :
    d.apply (a ++ b) = d.apply a ++ d.apply b :=
  Text.replaceBy_append (rule_lineBound h) ha b

/-- A mark that is not split by the end of the line. -/
theorem beginsWith_piece {m line ending : Text} (hm : '\n' ∉ m) (he : Text.IsEnding ending) :
    Text.beginsWith m (line ++ ending) = Text.beginsWith m line := by
  rcases he with rfl | rfl
  · simp
  · refine Bool.eq_iff_iff.2 ?_
    simp only [Text.beginsWith, List.isPrefixOf_iff_prefix, List.prefix_concat_iff]
    constructor
    · rintro (rfl | h)
      · simp at hm
      · exact h
    · exact .inr

theorem firstLine_piece {line ending : Text} (hl : '\n' ∉ line) (he : Text.IsEnding ending) :
    (line ++ ending).firstLine = line := by
  rcases he with rfl | rfl
  · simpa using Text.firstLine_line hl
  · exact Text.firstLine_ended_line hl []

theorem wholeLine_piece {line ending : Text} (hl : '\n' ∉ line) (he : Text.IsEnding ending)
    (hn : line ++ ending ≠ []) : (wholeLine (line ++ ending)).more + 1 = (line ++ ending).length := by
  have hw : (line ++ ending).lineWidth = (line ++ ending).length := by
    rcases he with rfl | rfl
    · simpa using Text.lineWidth_line hl
    · exact Text.lineWidth_ended_line hl
  have hp : 0 < (line ++ ending).length := List.length_pos_iff.2 hn
  simp only [wholeLine, hw]
  omega

theorem apply_nil (d : Directive) : d.apply [] = [] := rfl

/-- What dropping whole lines leaves of one: nothing, its newline included. -/
theorem apply_of_whole {d : Directive} (h : Text.Rule.AtStart d.rule) {line ending : Text}
    (hl : '\n' ∉ line) (he : Text.IsEnding ending) {drops : Prop} [Decidable drops]
    (hr : d.rule true (line ++ ending) =
      if drops then some (wholeLine (line ++ ending)) else none) :
    d.apply (line ++ ending) = if drops then [] else line ++ ending := by
  by_cases hn : line ++ ending = []
  · simp [hn, apply_nil]
  · split at hr
    · have hs := Text.replaceBy_of_some h hl he hn hr
      rw [wholeLine_piece hl he hn, List.drop_length] at hs
      rwa [if_pos ‹_›]
    · rw [if_neg ‹_›]
      exact Text.replaceBy_of_none h hl he hr

theorem apply_dropLed {marks : List Text} {line ending : Text} (hm : ∀ m ∈ marks, '\n' ∉ m)
    (hl : '\n' ∉ line) (he : Text.IsEnding ending) :
    (dropLed marks).apply (line ++ ending) =
      if ∃ m ∈ marks, m <+: line then [] else line ++ ending := by
  have hb : marks.any (Text.beginsWith · (line ++ ending)) = marks.any (Text.beginsWith · line) :=
    any_congr_mem fun m hx => beginsWith_piece (hm m hx) he
  refine apply_of_whole (fun t => by simp [rule]) hl he ?_
  simp only [rule, hb]
  simp [Text.beginsWith, List.isPrefixOf_iff_prefix]

theorem apply_dropTailed {m line ending : Text} (hl : '\n' ∉ line) (he : Text.IsEnding ending) :
    (dropTailed m).apply (line ++ ending) = if m <:+ line then [] else line ++ ending := by
  refine apply_of_whole (fun t => by simp [rule]) hl he ?_
  simp [rule, firstLine_piece hl he, Text.endsWith, List.isSuffixOf_iff_suffix]

theorem apply_stripLead {m line ending : Text} (hm : '\n' ∉ m) (hl : '\n' ∉ line)
    (he : Text.IsEnding ending) :
    (stripLead m).apply (line ++ ending) = withoutLead (m ++ [' ']) line ++ ending := by
  have hs : Text.Rule.AtStart (stripLead m).rule := fun t => by simp [rule]
  have hb : Text.beginsWith (m ++ [' ']) (line ++ ending) = Text.beginsWith (m ++ [' ']) line :=
    beginsWith_piece (by simpa using hm) he
  by_cases h : m ++ [' '] <+: line
  · have hp : Text.beginsWith (m ++ [' ']) line = true := List.isPrefixOf_iff_prefix.2 h
    have hr : (stripLead m).rule true (line ++ ending) = some ⟨m.length, []⟩ := by
      simp [rule, hb, hp]
    have hn : line ++ ending ≠ [] := by
      intro hn
      simp [(List.append_eq_nil_iff.1 hn).1] at h
    have hlen : m.length + 1 ≤ line.length := by simpa using h.length_le
    have := Text.replaceBy_of_some hs hl he hn hr
    rw [List.drop_append_of_le_length hlen] at this
    simpa [apply, withoutLead, h] using this
  · have hp : Text.beginsWith (m ++ [' ']) line = false :=
      Bool.eq_false_iff.2 fun hp => h (List.isPrefixOf_iff_prefix.1 hp)
    have hr : (stripLead m).rule true (line ++ ending) = none := by
      simp [rule, hb, hp]
    rw [withoutLead, if_neg h]
    exact Text.replaceBy_of_none hs hl he hr

/-- The mark at the end of the line is met from wherever the search begins. -/
theorem replaceFrom_stripTail {m line ending : Text} (hl : '\n' ∉ line)
    (he : Text.IsEnding ending) (fresh : Bool) :
    Text.replaceFrom (stripTail m).rule 0 fresh (line ++ ending) =
      withoutTail (' ' :: m) line ++ ending := by
  have hend : ∀ fresh, Text.replaceFrom (stripTail m).rule 0 fresh ending = ending := by
    intro fresh
    rcases he with rfl | rfl <;> rfl
  induction line generalizing fresh with
  | nil => simpa [withoutTail] using hend fresh
  | cons c line ih =>
      have hf := firstLine_piece hl he
      simp only [List.mem_cons, not_or] at hl
      rw [List.cons_append] at hf ⊢
      by_cases h : c :: line = ' ' :: m
      · have hr : (stripTail m).rule fresh (c :: (line ++ ending)) = some ⟨m.length, []⟩ := by
          simp [rule, hf, h]
        obtain ⟨rfl, rfl⟩ := List.cons.inj h
        obtain ⟨fresh', hk⟩ := Text.replaceFrom_skip (stripTail line).rule (' ' == '\n') line ending
        rw [Text.replaceFrom_hit hr, hk, hend, withoutTail_self]
      · have hr : (stripTail m).rule fresh (c :: (line ++ ending)) = none := by
          simp [rule, hf, h]
        rw [Text.replaceFrom_keep hr, ih hl.2, withoutTail_cons (Ne.symm h), List.cons_append]

theorem apply_stripTail {m line ending : Text} (hl : '\n' ∉ line) (he : Text.IsEnding ending) :
    (stripTail m).apply (line ++ ending) = withoutTail (' ' :: m) line ++ ending :=
  replaceFrom_stripTail hl he true

theorem ended_apply_line {d : Directive} (h : d.Plain) {line : Text} (hl : '\n' ∉ line) :
    Text.Ended (d.apply (line ++ ['\n'])) := by
  have he : Text.IsEnding ['\n'] := .inr rfl
  cases d with
  | dropLed marks =>
      rw [apply_dropLed h hl he]
      split
      · exact Text.ended_nil
      · exact Text.ended_line line
  | dropTailed m =>
      rw [apply_dropTailed hl he]
      split
      · exact Text.ended_nil
      · exact Text.ended_line line
  | stripLead m =>
      rw [apply_stripLead h hl he]
      exact Text.ended_line _
  | stripTail m =>
      rw [apply_stripTail hl he]
      exact Text.ended_line _

theorem ended_apply {d : Directive} (h : d.Plain) {t : Text} (ht : Text.Ended t) :
    Text.Ended (d.apply t) := by
  induction t using Text.line_induction with
  | nil => exact Text.ended_nil
  | last line hn hl => exact absurd (Text.mem_of_ended hn ht) hl
  | line line rest hl ih =>
      rw [apply_append h (Text.ended_line line)]
      exact (ended_apply_line h hl).append (ih ht.of_append)

theorem ended_foldl_apply {ds : List Directive} (hd : ∀ d ∈ ds, d.Plain) {t : Text}
    (ht : Text.Ended t) : Text.Ended (ds.foldl (fun t d => d.apply t) t) := by
  induction ds generalizing t with
  | nil => exact ht
  | cons d ds ih =>
      have hp := hd d List.mem_cons_self
      exact ih (fun x hx => hd x (List.mem_cons_of_mem d hx)) (ended_apply hp ht)

theorem foldl_apply_append {ds : List Directive} (hd : ∀ d ∈ ds, d.Plain) {a : Text}
    (ha : Text.Ended a) (b : Text) :
    ds.foldl (fun t d => d.apply t) (a ++ b) =
      ds.foldl (fun t d => d.apply t) a ++ ds.foldl (fun t d => d.apply t) b := by
  induction ds generalizing a b with
  | nil => rfl
  | cons d ds ih =>
      have hp := hd d List.mem_cons_self
      simp only [List.foldl_cons]
      rw [apply_append hp ha,
        ih (fun x hx => hd x (List.mem_cons_of_mem d hx)) (ended_apply hp ha)]

end Directive

/-- The line belongs to another artifact. -/
def IsForeign : Target → Text → Prop
  | .script, line => "#md".toList <+: line ∨ "#nb".toList <+: line
  | .markdown, line => "#nb".toList <+: line ∨ "#jl".toList <+: line ∨ "#jl".toList <:+ line
  | .notebook, line => "#md".toList <+: line ∨ "#jl".toList <+: line ∨ "#jl".toList <:+ line

instance : (target : Target) → (line : Text) → Decidable (IsForeign target line)
  | .script, _ => inferInstanceAs (Decidable (_ ∨ _))
  | .markdown, _ => inferInstanceAs (Decidable (_ ∨ _))
  | .notebook, _ => inferInstanceAs (Decidable (_ ∨ _))

/-- What an artifact keeps of one of its lines. -/
def ownText : Target → Text → Text
  | .script, line => withoutTail " #jl".toList (withoutLead "#jl ".toList line)
  | .markdown, line => withoutLead "#md ".toList line
  | .notebook, line => withoutLead "#nb ".toList line

/-- What an artifact keeps of a line and its newline. -/
def ownPiece (target : Target) (piece : Text) : Text :=
  if IsForeign target piece.firstLine then []
  else ownText target piece.firstLine ++ piece.dropWhile (· ≠ '\n')

theorem newline_not_mem_withoutLead {line : Text} (lead : Text) (h : '\n' ∉ line) :
    '\n' ∉ withoutLead lead line := by
  unfold withoutLead
  split
  · exact fun hm => h (List.mem_of_mem_drop hm)
  · exact h

theorem newline_not_mem_mark (target : Target) : '\n' ∉ mark target := by
  cases target <;> simp [mark]

/-- Documents and notebooks differ in whose marks they drop and strip. -/
theorem foldl_apply_piece (own other : Target) {line ending : Text} (hl : '\n' ∉ line)
    (he : Text.IsEnding ending) :
    [.dropLed [mark other], .dropLed [mark .script], .dropTailed (mark .script),
        .stripLead (mark own)].foldl (fun t d => Directive.apply d t) (line ++ ending) =
      if mark other <+: line ∨ mark .script <+: line ∨ mark .script <:+ line then []
      else withoutLead (mark own ++ [' ']) line ++ ending := by
  have hled : ∀ target, (Directive.dropLed [mark target]).apply (line ++ ending) =
      if mark target <+: line then [] else line ++ ending := by
    intro target
    rw [Directive.apply_dropLed (by simpa using newline_not_mem_mark target) hl he]
    simp
  simp only [List.foldl_cons, List.foldl_nil, hled]
  by_cases ho : mark other <+: line
  · simp [ho, Directive.apply_nil]
  · rw [if_neg ho, hled]
    by_cases hs : mark .script <+: line
    · simp [hs, Directive.apply_nil]
    · rw [if_neg hs, Directive.apply_dropTailed hl he]
      by_cases ht : mark .script <:+ line
      · simp [ht, Directive.apply_nil]
      · simp [ho, hs, ht, Directive.apply_stripLead (newline_not_mem_mark own) hl he]

/-- The directives of a target on one piece of a text. -/
theorem applyDirectives_piece (target : Target) {line ending : Text} (hl : '\n' ∉ line)
    (he : Text.IsEnding ending) :
    applyDirectives target (line ++ ending) =
      if IsForeign target line then [] else ownText target line ++ ending := by
  cases target with
  | script =>
      have hf : (∃ m ∈ [mark .markdown, mark .notebook], m <+: line) ↔ IsForeign .script line := by
        simp [IsForeign, mark]
      simp only [applyDirectives, Directive.ofTarget, List.foldl_cons, List.foldl_nil]
      rw [Directive.apply_dropLed (by simp [newline_not_mem_mark]) hl he]
      by_cases h : IsForeign .script line
      · rw [if_pos (hf.2 h), if_pos h]
        rfl
      · rw [if_neg fun hm => h (hf.1 hm), if_neg h,
          Directive.apply_stripLead (newline_not_mem_mark _) hl he,
          Directive.apply_stripTail (newline_not_mem_withoutLead _ hl) he]
        rfl
  | markdown => exact foldl_apply_piece .markdown .notebook hl he
  | notebook => exact foldl_apply_piece .notebook .markdown hl he

theorem applyDirectives_append (target : Target) {a : Text} (ha : Text.Ended a) (b : Text) :
    applyDirectives target (a ++ b) = applyDirectives target a ++ applyDirectives target b :=
  Directive.foldl_apply_append (Directive.plain_ofTarget target) ha b

theorem ended_applyDirectives (target : Target) {t : Text} (ht : Text.Ended t) :
    Text.Ended (applyDirectives target t) :=
  Directive.ended_foldl_apply (Directive.plain_ofTarget target) ht

theorem ownPiece_piece (target : Target) {line ending : Text} (hl : '\n' ∉ line)
    (he : Text.IsEnding ending) :
    ownPiece target (line ++ ending) =
      if IsForeign target line then [] else ownText target line ++ ending := by
  have hd : (line ++ ending).dropWhile (· ≠ '\n') = ending := by
    rw [List.dropWhile_append_of_pos fun c hc => by simpa using ne_of_mem_of_not_mem hc hl]
    rcases he with rfl | rfl <;> rfl
  rw [ownPiece, Directive.firstLine_piece hl he, hd]

/-- All directives of a target come to one decision for each line. -/
theorem applyDirectives_eq_flatMap (target : Target) (t : Text) :
    applyDirectives target t = t.pieces.flatMap (ownPiece target) := by
  have hpiece : ∀ line ending, '\n' ∉ line → Text.IsEnding ending →
      applyDirectives target (line ++ ending) = ownPiece target (line ++ ending) := by
    intro line ending hl he
    rw [applyDirectives_piece target hl he, ownPiece_piece target hl he]
  induction t using Text.line_induction with
  | nil => cases target <;> rfl
  | last line hn hl =>
      have := hpiece line [] hl (.inl rfl)
      rw [List.append_nil] at this
      rw [Text.pieces_line hn hl, List.flatMap_singleton, this]
  | line line rest hl ih =>
      have hend := Text.ended_line line
      rw [applyDirectives_append target hend, ih, Text.pieces_append hend,
        Text.pieces_ended_line hl, List.flatMap_append, List.flatMap_singleton,
        hpiece line ['\n'] hl (.inr rfl)]

end Weave.Source
