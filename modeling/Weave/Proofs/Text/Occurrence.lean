import Weave.Proofs.Text.Replacement

/-!
# Where a given text stands

A character that a given text does not have keeps apart what is before and
behind it: the given text stands on one side or on the other. So what replaces
the given text can be done on each side alone, be it a line or less.

Replacing takes the occurrences from left to right. Between two of them stand
single characters at which the given text does not begin, and an induction over
both is how everything about replacing is shown here.
-/
namespace Weave.Text

theorem eq_nil_of_prefix_cons {w b : Text} {c : Char} (hc : c ∉ w) (h : w <+: c :: b) : w = [] := by
  cases w with
  | nil => rfl
  | cons d w =>
      obtain ⟨rfl, -⟩ := List.cons_prefix_cons.1 h
      exact absurd List.mem_cons_self hc

theorem prefix_append_cons_iff {w : Text} {c : Char} (hc : c ∉ w) (a b : Text) :
    w <+: a ++ c :: b ↔ w <+: a := by
  refine ⟨fun h => ?_, fun h => h.trans (List.prefix_append a _)⟩
  rcases List.prefix_or_prefix_of_prefix h (List.prefix_append a (c :: b)) with h | ⟨w, rfl⟩
  · exact h
  · have hw : c ∉ w := fun hm => hc (List.mem_append_right a hm)
    have he : w = [] := eq_nil_of_prefix_cons hw ((List.prefix_append_right_inj a).1 h)
    simp [he]

theorem suffix_append_cons_iff {w : Text} {c : Char} (hc : c ∉ w) (a b : Text) :
    w <:+ a ++ c :: b ↔ w <:+ b := by
  have hr : c ∉ w.reverse := by simpa using hc
  have h := prefix_append_cons_iff hr b.reverse a.reverse
  rw [← List.reverse_prefix, ← List.reverse_prefix, ← h]
  simp

/-- A character that the text does not have separates its occurrences. -/
theorem infix_append_cons_iff {w : Text} {c : Char} (hc : c ∉ w) (a b : Text) :
    w <:+: a ++ c :: b ↔ w <:+: a ∨ w <:+: b := by
  constructor
  · intro h
    rcases List.infix_append_iff.1 h with h | h | ⟨x, y, rfl, hx, hy⟩
    · exact .inl h
    · rcases List.infix_cons_iff.1 h with h | h
      · rw [eq_nil_of_prefix_cons hc h]
        exact .inl (List.nil_infix)
      · exact .inr h
    · have hn : y = [] := eq_nil_of_prefix_cons (fun hm => hc (List.mem_append_right x hm)) hy
      rw [hn, List.append_nil]
      exact .inl hx.isInfix
  · rintro (h | h)
    · exact h.trans (List.prefix_append a _).isInfix
    · exact h.trans ((List.suffix_cons c b).trans (List.suffix_append a _)).isInfix

/-- A text is empty, or it begins with the given text, or it begins with a
character at which the given text does not begin. -/
@[elab_as_elim]
theorem occurrence_induction {old : Text} (hn : old ≠ []) {motive : Text → Prop} (nil : motive [])
    (occurrence : ∀ t, motive t → motive (old ++ t))
    (char : ∀ c t, ¬old <+: c :: t → motive t → motive (c :: t)) (t : Text) : motive t := by
  induction hl : t.length using Nat.strongRecOn generalizing t with
  | _ n ih =>
      subst hl
      by_cases hp : old <+: t
      · obtain ⟨rest, rfl⟩ := hp
        have hlt : rest.length < (old ++ rest).length := by
          have := List.length_pos_iff.2 hn
          simp only [List.length_append]
          omega
        exact occurrence rest (ih _ hlt rest rfl)
      · cases t with
        | nil => exact nil
        | cons c t => exact char c t hp (ih _ (by simp) t rfl)

variable {old : Text} (new : Text)

theorem replaceAll_nil (hn : old ≠ []) : replaceAll old new [] = [] := by
  rw [replaceAll_of_ne_nil hn]
  rfl

theorem replaceAll_occurrence (hn : old ≠ []) (t : Text) :
    replaceAll old new (old ++ t) = new ++ replaceAll old new t := by
  obtain ⟨c, more, rfl⟩ := List.exists_cons_of_ne_nil hn
  have hb : beginsWith (c :: more) (c :: (more ++ t)) = true :=
    List.isPrefixOf_iff_prefix.2 (List.prefix_append _ t)
  have hr : literal (c :: more) new true (c :: (more ++ t)) = some ⟨more.length, new⟩ := by
    simp [literal, hb]
  obtain ⟨fresh, hs⟩ := replaceFrom_skip (literal (c :: more) new) (c == '\n') more t
  simp only [replaceAll_of_ne_nil hn, replaceBy, List.cons_append]
  rw [replaceFrom_hit hr, hs, replaceFrom_anywhere (literal_anywhere _ _) _ fresh true]

theorem replaceAll_char (hn : old ≠ []) {c : Char} {t : Text} (h : ¬old <+: c :: t) :
    replaceAll old new (c :: t) = c :: replaceAll old new t := by
  have hb : beginsWith old (c :: t) = false :=
    Bool.eq_false_iff.2 fun hb => h (List.isPrefixOf_iff_prefix.1 hb)
  have hr : literal old new true (c :: t) = none := by simp [literal, hb]
  simp only [replaceAll_of_ne_nil hn, replaceBy]
  rw [replaceFrom_keep hr, replaceFrom_anywhere (literal_anywhere _ _) _ (c == '\n') true]

theorem replaceAll_cons_of_not_mem (hn : old ≠ []) {c : Char} (hc : c ∉ old) (t : Text) :
    replaceAll old new (c :: t) = c :: replaceAll old new t :=
  replaceAll_char new hn fun h => hn (eq_nil_of_prefix_cons hc h)

/-- Replacing goes on behind a separating character as at the beginning. -/
theorem replaceAll_append_cons (hn : old ≠ []) {c : Char} (hc : c ∉ old) (a b : Text) :
    replaceAll old new (a ++ c :: b) = replaceAll old new a ++ c :: replaceAll old new b := by
  induction a using occurrence_induction hn with
  | nil =>
      rw [List.nil_append, replaceAll_cons_of_not_mem new hn hc, replaceAll_nil new hn,
        List.nil_append]
  | occurrence t ih =>
      rw [List.append_assoc, replaceAll_occurrence new hn, replaceAll_occurrence new hn, ih,
        List.append_assoc]
  | char d t h ih =>
      have ha : ¬old <+: d :: (t ++ c :: b) := fun hp =>
        h ((prefix_append_cons_iff hc (d :: t) b).1 hp)
      rw [List.cons_append, replaceAll_char new hn ha, replaceAll_char new hn h, ih,
        List.cons_append]

theorem replaceAll_self (hn : old ≠ []) (t : Text) : replaceAll old old t = t := by
  induction t using occurrence_induction hn with
  | nil => exact replaceAll_nil old hn
  | occurrence t ih => rw [replaceAll_occurrence old hn, ih]
  | char c t h ih => rw [replaceAll_char old hn h, ih]

theorem replaceAll_eq_self (hn : old ≠ []) {t : Text} (h : ¬old <:+: t) :
    replaceAll old new t = t := by
  induction t with
  | nil => exact replaceAll_nil new hn
  | cons c t ih =>
      rw [List.infix_cons_iff, not_or] at h
      rw [replaceAll_char new hn h.1, ih h.2]

theorem after?_eq_some_iff {mark t rest : Text} : after? mark t = some rest ↔ t = mark ++ rest := by
  unfold after?
  constructor
  · intro h
    split at h
    · rename_i hb
      obtain ⟨more, rfl⟩ := List.isPrefixOf_iff_prefix.1 hb
      rw [List.drop_left, Option.some.injEq] at h
      rw [h]
    · cases h
  · rintro rfl
    have hb : beginsWith mark (mark ++ rest) = true :=
      List.isPrefixOf_iff_prefix.2 (List.prefix_append mark rest)
    rw [if_pos hb, List.drop_left]

/-- A text is cut at the first place where the mark stands: no mark begins in
what is before it, not even one that goes on into this mark. -/
theorem cutAt_eq_some_iff {mark t before behind : Text} (hn : mark ≠ []) :
    cutAt mark t = some (before, behind) ↔
      t = before ++ mark ++ behind ∧ ¬mark <:+: before ++ mark.dropLast := by
  have hlen : mark.dropLast.length < mark.length := by
    have := List.length_pos_iff.2 hn
    rw [List.length_dropLast]
    omega
  constructor
  · intro h
    refine ⟨cutAt_eq_append h, ?_⟩
    induction t generalizing before with
    | nil => simp [cutAt, hn] at h
    | cons c t ih =>
        by_cases hb : beginsWith mark (c :: t) = true
        · obtain ⟨rfl, rfl⟩ : [] = before ∧ _ = behind := by simpa [cutAt, hb] using h
          exact fun hi => absurd hi.length_le (by simpa using hlen)
        · have he := cutAt_eq_append h
          simp only [cutAt, hb, Bool.false_eq_true, if_false, Option.map_eq_some_iff] at h
          obtain ⟨⟨b, r⟩, hc, hr⟩ := h
          obtain ⟨rfl, rfl⟩ := Prod.mk.inj hr
          intro hi
          rcases List.infix_cons_iff.1 hi with hp | hi
          · refine hb (List.isPrefixOf_iff_prefix.2 (hp.trans ?_))
            rw [he, List.append_assoc]
            exact (List.prefix_append_right_inj (c :: b)).2
              ((List.dropLast_prefix mark).trans (List.prefix_append mark r))
          · exact ih hc hi
  · rintro ⟨rfl, h⟩
    induction before with
    | nil =>
        obtain ⟨c, more, rfl⟩ := List.exists_cons_of_ne_nil hn
        have hb : beginsWith (c :: more) (c :: (more ++ behind)) = true :=
          List.isPrefixOf_iff_prefix.2 (List.prefix_append _ behind)
        simp [cutAt, hb]
    | cons c before ih =>
        rw [List.cons_append, List.infix_cons_iff, not_or] at h
        have hb : beginsWith mark (c :: (before ++ mark ++ behind)) = false := by
          refine Bool.eq_false_iff.2 fun hb => h.1 ?_
          have hp : c :: (before ++ mark.dropLast) <+: c :: (before ++ mark ++ behind) := by
            rw [List.append_assoc]
            exact (List.prefix_append_right_inj (c :: before)).2
              ((List.dropLast_prefix mark).trans (List.prefix_append mark behind))
          refine List.prefix_of_prefix_length_le (List.isPrefixOf_iff_prefix.1 hb) hp ?_
          simp only [List.length_cons, List.length_append, List.length_dropLast]
          omega
        rw [List.cons_append, List.cons_append, cutAt, if_neg (Bool.eq_false_iff.1 hb), ih h.2]
        rfl

theorem cutAt_eq_none_iff {mark t : Text} (hn : mark ≠ []) :
    cutAt mark t = none ↔ ¬mark <:+: t := by
  induction t with
  | nil => simp [cutAt, hn]
  | cons c t ih =>
      rw [List.infix_cons_iff, not_or, ← ih, cutAt]
      by_cases hb : beginsWith mark (c :: t) = true
      · simp [hb, List.isPrefixOf_iff_prefix.1 hb]
      · have hp : ¬mark <+: c :: t := fun hp => hb (List.isPrefixOf_iff_prefix.2 hp)
        simp [hb, hp]

end Weave.Text
