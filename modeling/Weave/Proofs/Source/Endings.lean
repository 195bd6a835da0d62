import Weave.Proofs.Chunk.Edges
import Weave.Proofs.Source.Naming
import Weave.Proofs.Source.Pairing
import Weave.Proofs.Source.Repetition

/-!
# Line endings and empty edges

A source may be spelled with either line ending, and with one here and the other there. The
spelling is gone once the newlines are uniform. Empty lines before a source are newlines
before the tailored text. A line ending behind it is a newline behind the tailored text, or
nothing if it ends a last line that belongs to another artifact. Neither makes a chunk.
-/
namespace Weave.Source

/-- What may end a line. -/
def lineEndings : List Text :=
  ["\n".toList, "\r\n".toList]

/-- The same text with line endings spelled in either way, each of them apart. -/
inductive Respelled : Text → Text → Prop
  | nil : Respelled [] []
  | ending {e e' t t' : Text} : e ∈ lineEndings → e' ∈ lineEndings → Respelled t t' →
      Respelled (e ++ t) (e' ++ t')
  | char {c : Char} {t t' : Text} : (∀ e ∈ lineEndings, ¬e <+: c :: t) → Respelled t t' →
      Respelled (c :: t) (c :: t')

theorem Respelled.line_append {t t' : Text} (h : Respelled t t') {line : Text} (hr : '\r' ∉ line)
    (hn : '\n' ∉ line) : Respelled (line ++ t) (line ++ t') := by
  induction line with
  | nil => exact h
  | cons c line ih =>
      simp only [List.mem_cons, not_or] at hr hn
      refine .char ?_ (ih hr.2 hn.2)
      simp [lineEndings, hr.1, hn.1]

theorem unifyNewlines_ending_append {e : Text} (h : e ∈ lineEndings) (t : Text) :
    Text.unifyNewlines (e ++ t) = '\n' :: Text.unifyNewlines t := by
  obtain rfl | rfl : e = "\n".toList ∨ e = "\r\n".toList := by simpa [lineEndings] using h
  · exact Text.unifyNewlines_cons fun h => absurd h (by decide)
  · exact Text.unifyNewlines_crlf t

theorem unifyNewlines_endings_append {es : List Text} (h : ∀ e ∈ es, e ∈ lineEndings) (t : Text) :
    Text.unifyNewlines (es.flatten ++ t) =
      List.replicate es.length '\n' ++ Text.unifyNewlines t := by
  induction es with
  | nil => rfl
  | cons e es ih =>
      obtain ⟨he, hes⟩ := List.forall_mem_cons.1 h
      rw [List.flatten_cons, List.append_assoc, unifyNewlines_ending_append he, ih hes]
      rfl

/-- Uniform newlines do not tell how a text was spelled. What is behind it is as it would be
alone: the text does not end in half an ending. -/
theorem Respelled.unifyNewlines_append {source body : Text} (h : Respelled source body)
    (hs : ∀ rest, '\r' :: rest <:+ source → rest.head? = some '\n') (behind : Text) :
    Text.unifyNewlines (body ++ behind) =
      Text.unifyNewlines source ++ Text.unifyNewlines behind := by
  induction h with
  | nil => rfl
  | @ending e e' t t' he he' _ ih =>
      rw [List.append_assoc, unifyNewlines_ending_append he', unifyNewlines_ending_append he,
        ih fun rest hr => hs rest (hr.trans (List.suffix_append e t))]
      rfl
  | @char c t t' hc _ ih =>
      have hcr : c ≠ '\r' := by
        rintro rfl
        obtain ⟨rest, rfl⟩ := List.head?_eq_some_iff.1 (hs t List.suffix_rfl)
        exact hc "\r\n".toList (by simp [lineEndings]) ⟨rest, rfl⟩
      rw [List.cons_append, Text.unifyNewlines_cons fun h => absurd h hcr,
        Text.unifyNewlines_cons fun h => absurd h hcr,
        ih fun rest hr => hs rest (hr.trans (List.suffix_cons c t))]
      rfl

theorem tailor_unifyNewlines (target : Target) (name : Text) {source : Text}
    (h : '\r' ∉ Text.unifyNewlines source) :
    tailor target name (Text.unifyNewlines source) = tailor target name source := by
  unfold tailor
  rw [unifyNewlines_of_not_mem h]

theorem tailor_newline_cons (target : Target) (name t : Text) :
    tailor target name ('\n' :: t) = '\n' :: tailor target name t := by
  have hd : ∀ t, applyDirectives target ('\n' :: t) = '\n' :: applyDirectives target t := by
    intro t
    have hs := applyDirectives_append target (Text.ended_line []) t
    rw [applyDirectives_piece target List.not_mem_nil (.inr rfl)] at hs
    cases target <;> exact hs
  have hm : ∀ t, displayMath ('\n' :: t) = '\n' :: displayMath t := by
    refine fun t => displayMath_char fun after ha _ => ?_
    exact absurd (List.cons.inj ha).1 (by decide)
  have hf : ∀ t, Text.replaceAll namePlaceholder name ('\n' :: t) =
      '\n' :: Text.replaceAll namePlaceholder name t :=
    Text.replaceAll_cons_of_not_mem name namePlaceholder_ne_nil (by decide)
  unfold tailor
  rw [Text.unifyNewlines_cons fun h => absurd h (by decide), hd]
  dsimp only
  split
  · rw [hm, hf]
  · rw [hf]

/-- A newline behind a text goes with its last line or stays. -/
theorem applyDirectives_concat_newline (target : Target) (t : Text) :
    applyDirectives target (t ++ ['\n']) = applyDirectives target t ++ ['\n'] ∨
      applyDirectives target (t ++ ['\n']) = applyDirectives target t := by
  induction t using Text.line_induction with
  | nil =>
      have hp := applyDirectives_piece target List.not_mem_nil (.inr rfl : Text.IsEnding ['\n'])
      refine .inl (hp.trans ?_)
      cases target <;> rfl
  | last line hn hl =>
      have hbare := applyDirectives_piece target hl (.inl rfl)
      rw [List.append_nil] at hbare
      rw [applyDirectives_piece target hl (.inr rfl), hbare]
      split
      · exact .inr rfl
      · exact .inl (by rw [List.append_nil])
  | line line rest hl ih =>
      have he := Text.ended_line line
      rw [List.append_assoc (line ++ ['\n']), applyDirectives_append target he,
        applyDirectives_append target he]
      obtain hs | hs := ih
      · exact .inl (by rw [hs, List.append_assoc])
      · exact .inr (by rw [hs])

theorem hasBlock_of_concat {c : Char} (hc : c ∉ fence) {t : Text} (h : HasBlock (t ++ [c])) :
    HasBlock t := by
  obtain ⟨before, after, ht, hf⟩ := h
  obtain ⟨after, d, rfl⟩ := (List.eq_nil_or_concat after).resolve_left fun hn =>
    fence_ne_nil (List.infix_nil.1 (hn ▸ hf))
  rw [List.concat_eq_append, ← List.append_assoc] at ht
  obtain ⟨rfl, hd⟩ := List.append_inj' ht rfl
  obtain rfl := List.singleton_inj.1 hd
  rw [List.concat_eq_append, Text.infix_append_cons_iff hc] at hf
  exact ⟨before, after, rfl, hf.resolve_right fun hn => fence_ne_nil (List.infix_nil.1 hn)⟩

theorem displayMath_concat {c : Char} (hc : c ∉ fence) (t : Text) :
    displayMath (t ++ [c]) = displayMath t ++ [c] := by
  obtain ⟨blocks, rest, hp, rfl, hd⟩ := exists_blocks t
  have hp' : Paired blocks (rest ++ [c]) :=
    ⟨hp.bare, hp.nearest, fun hb => hp.unclosed (hasBlock_of_concat hc hb)⟩
  have hw : written blocks rest ++ [c] = written blocks (rest ++ [c]) := List.append_assoc _ _ _
  rw [hw, hp'.displayMath_written, hd]
  exact (List.append_assoc _ _ _).symm

theorem tailor_concat_newline (target : Target) (name : Text) {t : Text} (h : '\r' ∉ t) :
    tailor target name (t ++ ['\n']) = tailor target name t ++ ['\n'] ∨
      tailor target name (t ++ ['\n']) = tailor target name t := by
  have h' : '\r' ∉ t ++ ['\n'] := by simpa using h
  have hf : ∀ t, fillName name (t ++ ['\n']) = fillName name t ++ ['\n'] := by
    intro t
    rw [fillName_append_cons name (by decide), fillName_nil]
  have ht : ∀ {t}, '\r' ∉ t → tailor target name t = fillName name
      (if target = .notebook then displayMath (applyDirectives target t)
        else applyDirectives target t) := fun h => by
    rw [tailor, unifyNewlines_of_not_mem h]
    rfl
  rw [ht h, ht h']
  obtain hd | hd := applyDirectives_concat_newline target t
  · refine .inl ?_
    rw [hd, ← hf]
    split
    · rw [displayMath_concat (by decide)]
    · rfl
  · exact .inr (by rw [hd])

theorem carriage_not_mem_tailor (target : Target) {name t : Text} (hname : '\r' ∉ name)
    (h : '\r' ∉ Text.unifyNewlines t) : '\r' ∉ tailor target name t := by
  have hd : '\r' ∉ applyDirectives target (Text.unifyNewlines t) := fun hm =>
    h (mem_of_mem_applyDirectives hm)
  intro hm
  obtain hm | hm := mem_of_mem_fillName hm
  · exact hname hm
  · split at hm
    · rw [← List.singleton_infix_iff] at hm hd
      exact hd (clear_carriage.infix_of_displayMath hm)
    · exact hd hm

theorem chunks_newlines_append (target : Target) (name : Text) (k : Nat) (t : Text) :
    chunks target name (List.replicate k '\n' ++ t) = chunks target name t := by
  induction k with
  | zero => rfl
  | succ k ih =>
      rw [List.replicate_succ, List.cons_append, chunks, tailor_newline_cons,
        Chunk.ofText_newline_cons]
      exact ih

theorem chunks_append_newlines (target : Target) {name t : Text} (hname : '\r' ∉ name)
    (h : '\r' ∉ t) (k : Nat) :
    chunks target name (t ++ List.replicate k '\n') = chunks target name t := by
  induction k with
  | zero => rw [List.replicate_zero, List.append_nil]
  | succ k ih =>
      have hk : '\r' ∉ t ++ List.replicate k '\n' := by simpa using h
      have hlast : (tailor target name (t ++ List.replicate k '\n')).getLast? ≠ some '\r' :=
        fun hl => carriage_not_mem_tailor target hname (by rwa [unifyNewlines_of_not_mem hk])
          (List.mem_of_getLast? hl)
      rw [List.replicate_succ', ← List.append_assoc, ← ih]
      unfold chunks
      obtain hs | hs := tailor_concat_newline target name hk
      · rw [hs, Chunk.ofText_concat_newline hlast]
      · rw [hs]

/-- Line endings may be spelled in either way, and empty lines before a source and any number of
line endings behind it do no harm: the chunks are the same, and so is what is made of them. -/
theorem chunks_eq_of_respelled (target : Target) {name source body : Text} {front back : List Text}
    (hname : '\r' ∉ name) (hsource : ∀ rest, '\r' :: rest <:+ source → rest.head? = some '\n')
    (hbody : Respelled source body) (hfront : ∀ e ∈ front, e ∈ lineEndings)
    (hback : ∀ e ∈ back, e ∈ lineEndings) :
    chunks target name (front.flatten ++ body ++ back.flatten) = chunks target name source ∧
    ∀ config : Config,
      config.render target name (chunks target name (front.flatten ++ body ++ back.flatten)) =
        config.render target name (chunks target name source) := by
  let u := Text.unifyNewlines source
  have hu : '\r' ∉ u := carriage_not_mem_unifyNewlines hsource
  have htext : Text.unifyNewlines (front.flatten ++ body ++ back.flatten) =
      List.replicate front.length '\n' ++ (u ++ List.replicate back.length '\n') := by
    have hb := unifyNewlines_endings_append hback []
    rw [List.append_nil] at hb
    rw [List.append_assoc, unifyNewlines_endings_append hfront,
      hbody.unifyNewlines_append hsource, hb]
    exact congrArg _ (congrArg _ (List.append_nil _))
  have hr : '\r' ∉ Text.unifyNewlines (front.flatten ++ body ++ back.flatten) := by
    rw [htext]
    simpa using hu
  have hchunks : chunks target name (front.flatten ++ body ++ back.flatten) =
      chunks target name source := by
    calc chunks target name (front.flatten ++ body ++ back.flatten)
        = chunks target name (List.replicate front.length '\n' ++
            (u ++ List.replicate back.length '\n')) := by
          rw [chunks, ← tailor_unifyNewlines target name hr, htext]
          rfl
      _ = chunks target name u := by
          rw [chunks_newlines_append, chunks_append_newlines target hname hu]
      _ = chunks target name source := by
          rw [chunks, tailor_unifyNewlines target name hu]
          rfl
  exact ⟨hchunks, fun config => by rw [hchunks]⟩

/-- Prose first and a line for documents last, which has no newline until it is given one. -/
theorem chunks_eq_of_respelled_mixed :
    '\r' ∉ "n".toList ∧
    (∀ rest, '\r' :: rest <:+ "#' a\r\nx\n#md y".toList → rest.head? = some '\n') ∧
    Respelled "#' a\r\nx\n#md y".toList "#' a\nx\r\n#md y".toList ∧
    (∀ e ∈ ["\n".toList, "\r\n".toList], e ∈ lineEndings) ∧
    chunks .script "n".toList (["\n".toList, "\r\n".toList].flatten ++
        "#' a\nx\r\n#md y".toList ++ ["\n".toList, "\r\n".toList].flatten) =
      chunks .script "n".toList "#' a\r\nx\n#md y".toList := by
  have hname : '\r' ∉ "n".toList := by decide
  have hsource : ∀ rest, '\r' :: rest <:+ "#' a\r\nx\n#md y".toList → rest.head? = some '\n' := by
    have htails : ∀ s ∈ "#' a\r\nx\n#md y".toList.tails, s.head? = some '\r' →
        s.tail.head? = some '\n' := by decide
    exact fun rest hr => htails _ ((List.mem_tails _ _).2 hr) rfl
  have hbody : Respelled "#' a\r\nx\n#md y".toList "#' a\nx\r\n#md y".toList := by
    have hlf : "\n".toList ∈ lineEndings := List.mem_cons_self
    have hcrlf : "\r\n".toList ∈ lineEndings := List.mem_cons_of_mem _ List.mem_cons_self
    have hlast : Respelled ("#md y".toList ++ []) ("#md y".toList ++ []) :=
      Respelled.nil.line_append (by decide) (by decide)
    have hx : Respelled (['x'] ++ ("\n".toList ++ ("#md y".toList ++ [])))
        (['x'] ++ ("\r\n".toList ++ ("#md y".toList ++ []))) :=
      (Respelled.ending hlf hcrlf hlast).line_append (by decide) (by decide)
    have ha : Respelled ("#' a".toList ++ _) ("#' a".toList ++ _) :=
      (Respelled.ending hcrlf hlf hx).line_append (by decide) (by decide)
    exact ha
  have hedge : ∀ e ∈ ["\n".toList, "\r\n".toList], e ∈ lineEndings := fun _ h => h
  exact ⟨hname, hsource, hbody, hedge,
    (chunks_eq_of_respelled .script hname hsource hbody hedge hedge).1⟩

end Weave.Source
