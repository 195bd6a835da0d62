import Weave.Proofs.Text.Replacement
import Weave.Source

/-!
# Directives as patterns

Every directive looks for a pattern and removes what the pattern matches. A
pattern may match in several ways; they are tried in order, the longer part
before the shorter one and the left alternative before the right one, and the
first one counts. The rule of a directive finds just this match.
-/
namespace Weave.Source

/-- What is looked for in a text, where lines count. -/
inductive LinePattern where
  /-- Matches nothing. -/
  | empty
  /-- Stands where a line begins. -/
  | lineStart
  /-- Stands before a newline or where the text ends. -/
  | lineEnd
  | char (c : Char)
  /-- Any number of characters of a line, as many as possible. -/
  | dots
  /-- May be left out if it has to. -/
  | optional (p : LinePattern)
  | either (p q : LinePattern)
  | both (p q : LinePattern)
deriving Repr, DecidableEq

namespace LinePattern

/-- What is left of a text from each character of its line on, the shortest
rest first, and whether a line begins there. -/
def dotEnds : Bool → Text → List (Bool × Text)
  | fresh, [] => [(fresh, [])]
  | fresh, c :: t =>
    if c = '\n' then [(fresh, c :: t)] else dotEnds false t ++ [(fresh, c :: t)]

/-- What is left of a text behind each match that begins with it, the match to
be tried first at the head. -/
def ends : LinePattern → Bool → Text → List (Bool × Text)
  | empty, fresh, t => [(fresh, t)]
  | lineStart, fresh, t => if fresh then [(fresh, t)] else []
  | lineEnd, fresh, t => if t = [] ∨ t.head? = some '\n' then [(fresh, t)] else []
  | char c, _, t =>
    match t with
    | [] => []
    | d :: t => if d = c then [(d == '\n', t)] else []
  | dots, fresh, t => dotEnds fresh t
  | optional p, fresh, t => p.ends fresh t ++ [(fresh, t)]
  | either p q, fresh, t => p.ends fresh t ++ q.ends fresh t
  | both p q, fresh, t => (p.ends fresh t).flatMap fun r => q.ends r.1 r.2

/-- What is left behind the match that counts. -/
def first (p : LinePattern) (fresh : Bool) (t : Text) : Option Text :=
  (p.ends fresh t).head?.map Prod.snd

/-- Removes what the pattern matches. -/
def removal (p : LinePattern) : Text.Rule := fun fresh t =>
  (p.first fresh t).map fun rest => ⟨t.length - rest.length - 1, []⟩

/-- A given text and then a pattern. -/
def word (w : Text) (p : LinePattern) : LinePattern :=
  w.foldr (fun c p => both (char c) p) p

/-- The rest of a line and its newline. -/
def lineRest : LinePattern :=
  both dots (optional (char '\n'))

theorem ends_word (w : Text) (p : LinePattern) (fresh : Bool) (t : Text) :
    ∃ fresh', (word w p).ends fresh t =
      if w <+: t then p.ends fresh' (t.drop w.length) else [] := by
  induction w generalizing fresh t with
  | nil => exact ⟨fresh, by simp [word]⟩
  | cons c w ih =>
      cases t with
      | nil => exact ⟨fresh, by simp [word, ends]⟩
      | cons d t =>
          by_cases hd : d = c
          · subst hd
            obtain ⟨fresh', h⟩ := ih (d == '\n') t
            refine ⟨fresh', ?_⟩
            simpa [word, ends, List.cons_prefix_cons] using h
          · refine ⟨fresh, ?_⟩
            simp [word, ends, hd, List.cons_prefix_cons, Ne.symm hd]

theorem first_word (w : Text) (p : LinePattern) (fresh : Bool) (t : Text) :
    ∃ fresh', (word w p).first fresh t =
      if w <+: t then p.first fresh' (t.drop w.length) else none := by
  obtain ⟨fresh', h⟩ := ends_word w p fresh t
  refine ⟨fresh', ?_⟩
  rw [first, h]
  split <;> rfl

theorem first_dots_nil (q : LinePattern) (fresh : Bool) :
    (both dots q).first fresh [] = q.first fresh [] := by
  simp [first, ends, dotEnds]

theorem first_dots_newline (q : LinePattern) (fresh : Bool) (t : Text) :
    (both dots q).first fresh ('\n' :: t) = q.first fresh ('\n' :: t) := by
  simp [first, ends, dotEnds]

theorem first_dots_cons (q : LinePattern) (fresh : Bool) {c : Char} (hc : c ≠ '\n') (t : Text) :
    (both dots q).first fresh (c :: t) =
      ((both dots q).first false t).or (q.first fresh (c :: t)) := by
  simp [first, ends, dotEnds, hc, List.head?_append, Option.map_or]

theorem first_newline_here (fresh : Bool) (t : Text) :
    (optional (char '\n')).first fresh ('\n' :: t) = some t := by
  simp [first, ends]

theorem first_lineRest (fresh : Bool) (t : Text) :
    lineRest.first fresh t = some (t.drop (Text.lineWidth t)) := by
  unfold lineRest
  induction t generalizing fresh with
  | nil => rfl
  | cons c t ih =>
      by_cases hc : c = '\n'
      · subst hc
        rw [first_dots_newline, first_newline_here]
        rfl
      · rw [first_dots_cons _ _ hc, ih]
        simp [Text.lineWidth, hc]

/-- A given text at the end of a line, and the newline behind it. -/
def atLineEnd (w : Text) : LinePattern :=
  word w (both lineEnd (optional (char '\n')))

/-- The line is a given text if it begins here and the line ends behind it. -/
theorem firstLine_eq_iff {w : Text} (hw : '\n' ∉ w) (t : Text) :
    Text.firstLine t = w ↔
      w <+: t ∧ (t.drop w.length = [] ∨ (t.drop w.length).head? = some '\n') := by
  constructor
  · rintro rfl
    refine ⟨List.takeWhile_prefix _, ?_⟩
    by_cases hm : '\n' ∈ t
    · obtain ⟨line, rest, rfl, hl⟩ := List.eq_append_cons_of_mem hm
      rw [Text.firstLine_ended_line hl]
      simp
    · rw [Text.firstLine_line hm]
      simp
  · rintro ⟨⟨rest, rfl⟩, hr⟩
    rw [List.drop_left] at hr
    rw [Text.firstLine_line_append hw]
    cases rest with
    | nil => simp [Text.firstLine]
    | cons c rest =>
        have hc : c = '\n' := by simpa using hr
        simp [Text.firstLine, hc]

theorem first_word_of_lineEnd {w : Text} (hw : '\n' ∉ w) {q : LinePattern}
    (hq : ∀ fresh t, ¬(t = [] ∨ t.head? = some '\n') → q.first fresh t = none) (fresh : Bool)
    (t : Text) :
    ∃ fresh', (word w q).first fresh t =
      if Text.firstLine t = w then q.first fresh' (t.drop w.length) else none := by
  obtain ⟨fresh', h⟩ := first_word w q fresh t
  refine ⟨fresh', ?_⟩
  rw [h]
  by_cases hf : Text.firstLine t = w
  · rw [if_pos hf, if_pos ((firstLine_eq_iff hw t).1 hf).1]
  · rw [if_neg hf]
    split
    · exact hq _ _ fun hr => hf ((firstLine_eq_iff hw t).2 ⟨‹_›, hr⟩)
    · rfl

theorem first_atLineEnd {w : Text} (hw : '\n' ∉ w) (fresh : Bool) (t : Text) :
    (atLineEnd w).first fresh t =
      if Text.firstLine t = w then some (t.drop (Text.lineWidth t)) else none := by
  have hq : ∀ fresh t, ¬(t = [] ∨ t.head? = some '\n') →
      (both lineEnd (optional (char '\n'))).first fresh t = none := by
    intro fresh t h
    simp only [first, ends, if_neg h]
    rfl
  obtain ⟨fresh', h⟩ := first_word_of_lineEnd hw hq fresh t
  rw [atLineEnd, h]
  refine if_ctx_congr Iff.rfl (fun hf => ?_) fun _ => rfl
  obtain ⟨⟨rest, rfl⟩, hr⟩ := (firstLine_eq_iff hw t).1 hf
  rw [List.drop_left] at hr ⊢
  rw [Text.lineWidth_line_append hw, List.drop_length_add_append]
  cases rest with
  | nil => rfl
  | cons c rest =>
      have hc : c = '\n' := by simpa using hr
      subst hc
      simp [first, ends, Text.lineWidth]

/-- Some characters of a line come first. -/
theorem first_dots_atLineEnd {w : Text} (hw : '\n' ∉ w) (fresh : Bool) (t : Text) :
    (both dots (atLineEnd w)).first fresh t =
      if w <:+ Text.firstLine t then some (t.drop (Text.lineWidth t)) else none := by
  induction t generalizing fresh with
  | nil =>
      rw [first_dots_nil, first_atLineEnd hw]
      simp [Text.firstLine, eq_comm]
  | cons c t ih =>
      by_cases hc : c = '\n'
      · subst hc
        rw [first_dots_newline, first_atLineEnd hw]
        simp [Text.firstLine, eq_comm]
      · have hf : Text.firstLine (c :: t) = c :: Text.firstLine t := by simp [Text.firstLine, hc]
        have hd : (c :: t).drop (Text.lineWidth (c :: t)) = t.drop (Text.lineWidth t) := by
          simp [Text.lineWidth, hc]
        rw [first_dots_cons _ _ hc, ih, first_atLineEnd hw, hf, hd]
        by_cases hs : w <:+ Text.firstLine t
        · rw [if_pos hs, if_pos (hs.trans (List.suffix_cons c _))]
          rfl
        · rw [if_neg hs, Option.none_or]
          refine if_congr ?_ rfl rfl
          rw [List.suffix_cons_iff, eq_comm]
          exact (or_iff_left hs).symm

theorem first_lineStart (p : LinePattern) (fresh : Bool) (t : Text) :
    (both lineStart p).first fresh t = if fresh then p.first fresh t else none := by
  cases fresh <;> simp [first, ends]

theorem drop_lineWidth_of_begins {w t : Text} (hw : '\n' ∉ w) (h : w <+: t) :
    (t.drop w.length).drop (Text.lineWidth (t.drop w.length)) = t.drop (Text.lineWidth t) := by
  obtain ⟨rest, rfl⟩ := h
  rw [List.drop_left, Text.lineWidth_line_append hw, List.drop_length_add_append]

theorem first_word_lineRest {w : Text} (hw : '\n' ∉ w) (fresh : Bool) (t : Text) :
    (word w lineRest).first fresh t =
      if w <+: t then some (t.drop (Text.lineWidth t)) else none := by
  obtain ⟨fresh', h⟩ := first_word w lineRest fresh t
  rw [h]
  refine if_ctx_congr Iff.rfl (fun hp => ?_) fun _ => rfl
  rw [first_lineRest, drop_lineWidth_of_begins hw hp]

/-- What removes a whole line covers the line and its newline. -/
theorem removal_wholeLine {p : LinePattern} {fresh : Bool} {t : Text} {b : Prop} [Decidable b]
    (h : p.first fresh t = if b then some (t.drop (Text.lineWidth t)) else none) :
    p.removal fresh t = if b then some (Directive.wholeLine t) else none := by
  have hw := Text.lineWidth_le_length t
  rw [removal, h]
  split
  · simp only [Option.map_some, Directive.wholeLine, List.length_drop, Option.some.injEq]
    congr 1
    omega
  · rfl

theorem removal_led {m : Text} (hm : '\n' ∉ m) :
    (both lineStart (word m lineRest)).removal = (Directive.dropLed [m]).rule := by
  funext fresh t
  have h : (both lineStart (word m lineRest)).first fresh t =
      if fresh = true ∧ m <+: t then some (t.drop (Text.lineWidth t)) else none := by
    rw [first_lineStart, first_word_lineRest hm]
    cases fresh <;> simp
  rw [removal_wholeLine h]
  simp [Directive.rule, Text.beginsWith, List.isPrefixOf_iff_prefix]

theorem removal_tailed {m : Text} (hm : '\n' ∉ m) :
    (both lineStart (both dots (atLineEnd m))).removal = (Directive.dropTailed m).rule := by
  funext fresh t
  have h : (both lineStart (both dots (atLineEnd m))).first fresh t =
      if fresh = true ∧ m <:+ Text.firstLine t then some (t.drop (Text.lineWidth t)) else none := by
    rw [first_lineStart, first_dots_atLineEnd hm]
    cases fresh <;> simp
  rw [removal_wholeLine h]
  simp [Directive.rule, Text.endsWith, List.isSuffixOf_iff_suffix]

theorem removal_lead (m : Text) :
    (both lineStart (word (m ++ [' ']) empty)).removal = (Directive.stripLead m).rule := by
  funext fresh t
  obtain ⟨fresh', h⟩ := first_word (m ++ [' ']) empty fresh t
  rw [removal, first_lineStart, h]
  cases fresh with
  | false => simp [Directive.rule]
  | true =>
      by_cases hp : m ++ [' '] <+: t
      · have hlen := hp.length_le
        have hb : Text.beginsWith (m ++ [' ']) t = true := List.isPrefixOf_iff_prefix.2 hp
        simp only [List.length_append, List.length_singleton] at hlen
        simp only [hp, hb, first, ends, Directive.rule, if_true, List.head?_cons, Option.map_some,
          List.length_drop, List.length_append, List.length_singleton, Bool.and_self]
        congr 2
        omega
      · have hb : Text.beginsWith (m ++ [' ']) t = false :=
          Bool.eq_false_iff.2 fun hb => hp (List.isPrefixOf_iff_prefix.1 hb)
        simp [hp, hb, Directive.rule]

theorem removal_tail {m : Text} (hm : '\n' ∉ m) :
    (word (' ' :: m) lineEnd).removal = (Directive.stripTail m).rule := by
  funext fresh t
  have hw : '\n' ∉ ' ' :: m := by simpa using hm
  have hq : ∀ fresh t, ¬(t = [] ∨ t.head? = some '\n') → lineEnd.first fresh t = none := by
    intro fresh t h
    simp only [first, ends, if_neg h]
    rfl
  obtain ⟨fresh', h⟩ := first_word_of_lineEnd hw hq fresh t
  rw [removal, h]
  by_cases hf : Text.firstLine t = ' ' :: m
  · obtain ⟨hp, hr⟩ := (firstLine_eq_iff hw t).1 hf
    have hlen := hp.length_le
    rw [List.length_cons] at hlen hr
    simp only [hf, first, ends, Directive.rule, if_true, List.length_cons, if_pos hr,
      List.head?_cons, Option.map_some, List.length_drop]
    congr 2
    omega
  · simp [hf, Directive.rule]

theorem first_both_either (p q r : LinePattern) (fresh : Bool) (t : Text) :
    (both (either p q) r).first fresh t =
      ((both p r).first fresh t).or ((both q r).first fresh t) := by
  simp [first, ends, List.head?_append, Option.map_or]

theorem first_both_word (w : Text) (q : LinePattern) (fresh : Bool) (t : Text) :
    ∃ fresh', (both (word w empty) q).first fresh t =
      if w <+: t then q.first fresh' (t.drop w.length) else none := by
  obtain ⟨fresh', h⟩ := ends_word w empty fresh t
  refine ⟨fresh', ?_⟩
  rw [first, ends, h]
  split <;> simp [first, ends]

theorem first_either_lineRest {a b : Text} (ha : '\n' ∉ a) (hb : '\n' ∉ b) (fresh : Bool)
    (t : Text) :
    (both (either (word a empty) (word b empty)) lineRest).first fresh t =
      if a <+: t ∨ b <+: t then some (t.drop (Text.lineWidth t)) else none := by
  obtain ⟨fa, hfa⟩ := first_both_word a lineRest fresh t
  obtain ⟨fb, hfb⟩ := first_both_word b lineRest fresh t
  rw [first_both_either, hfa, hfb, first_lineRest, first_lineRest]
  by_cases hpa : a <+: t
  · simp [hpa, drop_lineWidth_of_begins ha hpa]
  · by_cases hpb : b <+: t
    · simp [hpa, hpb, drop_lineWidth_of_begins hb hpb]
    · simp [hpa, hpb]

/-- The line begins with a mark that may end in two ways. -/
theorem removal_led_either {m a b : Text} (ha : '\n' ∉ m ++ a) (hb : '\n' ∉ m ++ b) :
    (both lineStart (word m (both (either (word a empty) (word b empty)) lineRest))).removal =
      (Directive.dropLed [m ++ a, m ++ b]).rule := by
  simp only [List.mem_append, not_or] at ha hb
  funext fresh t
  have h : (both lineStart (word m (both (either (word a empty) (word b empty)) lineRest))).first
      fresh t = if fresh = true ∧ (m ++ a <+: t ∨ m ++ b <+: t) then
        some (t.drop (Text.lineWidth t)) else none := by
    obtain ⟨fresh', h⟩ :=
      first_word m (both (either (word a empty) (word b empty)) lineRest) fresh t
    rw [first_lineStart, h, first_either_lineRest ha.2 hb.2]
    by_cases hm : m <+: t
    · rw [drop_lineWidth_of_begins ha.1 hm]
      obtain ⟨t, rfl⟩ := hm
      cases fresh <;> simp [List.prefix_append_right_inj]
    · have hne : ∀ w, ¬m ++ w <+: t := fun w hw => hm ((List.prefix_append m w).trans hw)
      simp [hm, hne]
  rw [removal_wholeLine h]
  simp [Directive.rule, Text.beginsWith, List.isPrefixOf_iff_prefix]

/-- The patterns whose matches a target removes, one pass after the other. -/
def ofTarget : Target → List LinePattern
  | .script =>
    [both lineStart
      (word "#".toList (both (either (word "md".toList empty) (word "nb".toList empty)) lineRest)),
     both lineStart (word "#jl ".toList empty),
     word " #jl".toList lineEnd]
  | .markdown =>
    [both lineStart (word "#nb".toList lineRest),
     both lineStart (word "#jl".toList lineRest),
     both lineStart (both dots (atLineEnd "#jl".toList)),
     both lineStart (word "#md ".toList empty)]
  | .notebook =>
    [both lineStart (word "#md".toList lineRest),
     both lineStart (word "#jl".toList lineRest),
     both lineStart (both dots (atLineEnd "#jl".toList)),
     both lineStart (word "#nb ".toList empty)]

theorem removal_ofTarget (target : Target) :
    (ofTarget target).map removal = (Directive.ofTarget target).map Directive.rule := by
  have hmd := removal_led (m := "#md".toList) (by decide)
  have hnb := removal_led (m := "#nb".toList) (by decide)
  have hjl := removal_led (m := "#jl".toList) (by decide)
  have htailed := removal_tailed (m := "#jl".toList) (by decide)
  cases target with
  | script =>
      have heither := removal_led_either (m := "#".toList) (a := "md".toList) (b := "nb".toList)
        (by decide) (by decide)
      have htail := removal_tail (m := "#jl".toList) (by decide)
      have hlead := removal_lead "#jl".toList
      simp only [ofTarget, List.map_cons, List.map_nil, Directive.ofTarget]
      exact congrArg₂ _ heither (congrArg₂ _ hlead (congrArg₂ _ htail rfl))
  | markdown =>
      have hlead := removal_lead "#md".toList
      simp only [ofTarget, List.map_cons, List.map_nil, Directive.ofTarget]
      exact congrArg₂ _ hnb (congrArg₂ _ hjl (congrArg₂ _ htailed (congrArg₂ _ hlead rfl)))
  | notebook =>
      have hlead := removal_lead "#nb".toList
      simp only [ofTarget, List.map_cons, List.map_nil, Directive.ofTarget]
      exact congrArg₂ _ hmd (congrArg₂ _ hjl (congrArg₂ _ htailed (congrArg₂ _ hlead rfl)))

end LinePattern

/-- The directives of a target remove the matches of its patterns. -/
theorem applyDirectives_eq_foldl (target : Target) (t : Text) :
    applyDirectives target t =
      (LinePattern.ofTarget target).foldl (fun t p => Text.replaceBy p.removal t) t := by
  unfold applyDirectives Directive.apply
  rw [← List.foldl_map (f := Directive.rule) (g := fun t rule => Text.replaceBy rule t),
    ← LinePattern.removal_ofTarget, List.foldl_map]

end Weave.Source
