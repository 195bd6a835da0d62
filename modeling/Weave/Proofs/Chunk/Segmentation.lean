import Mathlib.Data.List.DropRight
import Mathlib.Data.List.SplitBy
import Weave.Chunk.Segment

/-!
# What cutting comes to

The chunks of a text, said without an open chunk that is carried along. The
lines are split at the break lines, every group of lines between two of them is
split into its longest runs of one kind, a line is reduced to its text, runs
whose texts are all empty go, and the others lose their empty edges.

The sides of the main statement share the lines of a text and nothing else: the
kind, the text and the break lines are told here by the first characters of a
line. The rest of the statement says where a chunk comes from: from consecutive
lines, and between the lines of two neighbours stand only break lines and lines
whose text is empty.
-/
namespace Weave.Chunk
namespace Segmentation

def kindOf : Text → Kind
  | '#' :: '\'' :: _ => .prose
  | _ => .code

def isBreak : Text → Bool
  | '#' :: '-' :: _ => true
  | _ => false

/-- The text of a line. A line of prose loses its mark, where the mark stands
alone or before a space. -/
def textOf : Text → Text
  | ['#', '\''] => []
  | '#' :: '\'' :: ' ' :: rest => rest
  | line => line

/-- The longest runs of lines of one kind. -/
def runs (group : List Text) : List (List Text) :=
  group.splitBy fun a b => kindOf a = kindOf b

/-- The kind of a run and its texts. -/
def ofRun (run : List Text) : Kind × List Text :=
  (kindOf (run.headD []), run.map textOf)

/-- The runs of all groups, in the order of the source. -/
def pieces (ls : List Text) : List (Kind × List Text) :=
  (ls.splitOnP isBreak).flatMap fun group => (runs group).map ofRun

/-- Drops the pieces without a text and the empty edges of the others. -/
def tidied (ps : List (Kind × List Text)) : List (Kind × List Text) :=
  (ps.filter fun p => p.2.any fun x => !x.isEmpty).map fun p =>
    (p.1, (p.2.dropWhile List.isEmpty).rdropWhile List.isEmpty)

end Segmentation

open Segmentation

/-- What a chunk is apart from its flag. -/
def outline (c : Chunk) : Kind × List Text :=
  (c.kind, c.lines)

@[simp]
theorem outline_empty (k : Kind) : outline (empty k) = (k, []) := by
  simp [outline]

@[simp]
theorem outline_push (c : Chunk) (line : Text) :
    outline (c.push line) = (c.kind, c.lines ++ [line]) := by
  simp [outline, push]

theorem ofLine_eq_kindOf (line : Text) : Kind.ofLine line = kindOf line := by
  unfold Kind.ofLine kindOf
  split
  · rename_i h
    obtain ⟨rest, rfl⟩ := List.isPrefixOf_iff_prefix.1 h
    rfl
  · rename_i h
    split
    · exact absurd rfl h
    · rfl

theorem beginsWith_breakMark (line : Text) : Text.beginsWith breakMark line = isBreak line := by
  unfold isBreak
  split
  · rfl
  · rename_i h
    refine Bool.eq_false_iff.2 fun hb => ?_
    obtain ⟨rest, rfl⟩ := List.isPrefixOf_iff_prefix.1 hb
    exact h rest rfl

theorem proseText_mark (rest : Text) :
    proseText ('#' :: '\'' :: rest) = textOf ('#' :: '\'' :: rest) := by
  match rest with
  | [] => rfl
  | c :: rest =>
      by_cases hc : c = ' '
      · subst hc
        rfl
      · have hm : ('#' :: '\'' :: c :: rest) ≠ proseMark := by simp [proseMark]
        have hl : Text.beginsWith proseLead ('#' :: '\'' :: c :: rest) = false := by
          simp [Text.beginsWith, proseLead, List.isPrefixOf, Ne.symm hc]
        simp [proseText, Text.after?, textOf, hm, hl, hc]

theorem lineText_eq_textOf (line : Text) : lineText line = textOf line := by
  unfold lineText
  rw [ofLine_eq_kindOf]
  by_cases h : ∃ rest, line = '#' :: '\'' :: rest
  · obtain ⟨rest, rfl⟩ := h
    exact proseText_mark rest
  · have hk : kindOf line = .code := by
      unfold kindOf
      split
      · exact absurd ⟨_, rfl⟩ h
      · rfl
    rw [hk]
    change line = textOf line
    unfold textOf
    split
    · exact absurd ⟨_, rfl⟩ h
    · exact absurd ⟨_, rfl⟩ h
    · rfl

namespace Segmentation

/-- A line that can stand in a run of the kind. -/
def InRun (k : Kind) (line : Text) : Prop :=
  isBreak line = false ∧ kindOf line = k

/-- A run of the kind ends before these lines. -/
def EndsRun (k : Kind) (ls : List Text) : Prop :=
  ∀ l ∈ ls.head?, ¬InRun k l

@[simp]
theorem pieces_nil : pieces [] = [] := by
  simp [pieces, runs, List.splitOnP_nil]

/-- Break lines belong to no piece, and no piece reaches across them. -/
theorem pieces_append_break (a b : List Text) {l : Text} (h : isBreak l = true) :
    pieces (a ++ l :: b) = pieces a ++ pieces b := by
  unfold pieces
  rw [List.splitOnP_append_cons a b h, List.flatMap_append]

theorem splitOnP_append_group {run : List Text} (h : ∀ l ∈ run, isBreak l = false)
    (rest : List Text) :
    (run ++ rest).splitOnP isBreak = (rest.splitOnP isBreak).modifyHead (run ++ ·) := by
  induction run with
  | nil =>
      obtain ⟨g, gs, hg⟩ := List.exists_cons_of_ne_nil (List.splitOnP_ne_nil isBreak rest)
      simp [hg]
  | cons l run ih =>
      have hl := h l (by simp)
      rw [List.cons_append, List.splitOnP_cons_eq_if_modifyHead, if_neg (by simp [hl]),
        ih fun x hx => h x (by simp [hx])]
      obtain ⟨g, gs, hg⟩ := List.exists_cons_of_ne_nil (List.splitOnP_ne_nil isBreak rest)
      simp [hg]

@[simp]
theorem runs_nil : runs [] = [] := rfl

theorem runs_run {k : Kind} {run : List Text} (hn : run ≠ []) (h : ∀ l ∈ run, InRun k l) :
    runs run = [run] := by
  refine List.splitBy_of_isChain hn (List.pairwise_of_forall_mem_list ?_).isChain
  intro a ha b hb
  simp [(h a ha).2, (h b hb).2]

theorem ofRun_run {k : Kind} {run : List Text} (hn : run ≠ []) (h : ∀ l ∈ run, InRun k l) :
    ofRun run = (k, run.map textOf) := by
  obtain ⟨l, rest, rfl⟩ := List.exists_cons_of_ne_nil hn
  simp [ofRun, (h l (by simp)).2]

/-- A run that ends is a piece of its own. -/
theorem pieces_append_run {k : Kind} {run rest : List Text} (hn : run ≠ [])
    (h : ∀ l ∈ run, InRun k l) (he : EndsRun k rest) :
    pieces (run ++ rest) = (k, run.map textOf) :: pieces rest := by
  have hb : ∀ l ∈ run, isBreak l = false := fun l hl => (h l hl).1
  cases rest with
  | nil => simp [pieces, List.splitOnP_eq_singleton hb, runs_run hn h, ofRun_run hn h]
  | cons l rest =>
      by_cases hl : isBreak l = true
      · rw [pieces_append_break run rest hl]
        have hr : pieces (l :: rest) = pieces rest := pieces_append_break [] rest hl
        rw [hr]
        simp [pieces, List.splitOnP_eq_singleton hb, runs_run hn h, ofRun_run hn h]
      · have hk : kindOf l ≠ k := fun hk => he l rfl ⟨by simpa using hl, hk⟩
        obtain ⟨g, gs, hg⟩ := List.exists_cons_of_ne_nil (List.splitOnP_ne_nil isBreak rest)
        have hs : (l :: rest).splitOnP isBreak = (l :: g) :: gs := by
          rw [List.splitOnP_cons_eq_if_modifyHead, if_neg (by simpa using hl), hg]
          rfl
        have hr : runs (run ++ l :: g) = run :: runs (l :: g) := by
          unfold runs
          rw [List.splitBy_append_cons g]
          · rw [← runs, runs_run hn h]
            rfl
          · intro x hx
            have hx := (h x (List.mem_of_getLast? hx)).2
            simp [hx, Ne.symm hk]
        simp [pieces, splitOnP_append_group hb, hs, hr, ofRun_run hn h]

@[simp]
theorem tidied_nil : tidied [] = [] := rfl

theorem tidied_append (a b : List (Kind × List Text)) :
    tidied (a ++ b) = tidied a ++ tidied b := by
  simp [tidied]

theorem tidied_cons (p : Kind × List Text) (ps : List (Kind × List Text)) :
    tidied (p :: ps) = tidied [p] ++ tidied ps :=
  tidied_append [p] ps

/-- The lines read so far of an open run may be none. -/
theorem tidied_pieces_append {k : Kind} {run rest : List Text} (h : ∀ l ∈ run, InRun k l)
    (he : EndsRun k rest) :
    tidied (pieces (run ++ rest)) = tidied [(k, run.map textOf)] ++ tidied (pieces rest) := by
  by_cases hn : run = []
  · subst hn
    rfl
  · rw [pieces_append_run hn h he, tidied_cons]

theorem outline_tidy (cs : List Chunk) : (tidy cs).map outline = tidied (cs.map outline) := by
  have hb : ∀ c : Chunk, (!c.isBlank) = (outline c).2.any fun x => !x.isEmpty := by
    intro c
    simp [isBlank, outline, List.all_eq_not_any_not]
  simp only [tidy, tidied, List.filter_map, List.map_map, Function.comp_def, hb]
  refine List.map_congr_left fun c _ => ?_
  simp [outline, trim, dropEdges, List.rdropWhile]

/-- The open chunk holds the texts of the run that is being read. -/
theorem outline_segment {k : Kind} {c : Chunk} (run ls : List Text)
    (h : ∀ l ∈ run, InRun k l) (hc : outline c = (k, run.map textOf)) :
    tidied ((segment c ls).map outline) = tidied (pieces (run ++ ls)) := by
  induction ls generalizing k run c with
  | nil =>
      rw [tidied_pieces_append h (by simp [EndsRun])]
      simp [segment, hc]
  | cons l ls ih =>
      obtain ⟨rfl, hls⟩ := Prod.mk.inj hc
      simp only [segment, beginsWith_breakMark, ofLine_eq_kindOf, lineText_eq_textOf]
      by_cases hl : isBreak l = true
      · have he : EndsRun c.kind (l :: ls) := by simp [EndsRun, InRun, hl]
        have hp : pieces (l :: ls) = pieces ls := pieces_append_break [] ls hl
        rw [if_pos hl, List.map_cons, tidied_cons, tidied_pieces_append h he, hc, hp,
          ih [] (by simp) (outline_empty c.kind), List.nil_append]
      · have hin : InRun (kindOf l) l := ⟨by simpa using hl, rfl⟩
        rw [if_neg hl]
        by_cases hk : kindOf l = c.kind
        · have hrun : ∀ x ∈ run ++ [l], InRun c.kind x := by
            intro x hx
            rcases List.mem_append.1 hx with hx | hx
            · exact h x hx
            · rw [List.mem_singleton.1 hx, ← hk]
              exact hin
          rw [if_pos hk, ih _ hrun (by simp [hls]), List.append_assoc, List.singleton_append]
        · have he : EndsRun c.kind (l :: ls) := by simpa [EndsRun, InRun] using fun _ => hk
          rw [if_neg hk, List.map_cons, tidied_cons, tidied_pieces_append h he, hc,
            ih [l] (by simpa using hin) (by simp), List.singleton_append]

/-- Lines fall into break lines and runs that end. -/
@[elab_as_elim]
theorem run_induction {motive : List Text → Prop} (nil : motive [])
    (brk : ∀ l ls, isBreak l = true → motive ls → motive (l :: ls))
    (run : ∀ k run rest, run ≠ [] → (∀ l ∈ run, InRun k l) → EndsRun k rest → motive rest →
      motive (run ++ rest)) (ls : List Text) : motive ls := by
  induction hn : ls.length using Nat.strongRecOn generalizing ls with
  | _ n ih =>
      subst hn
      cases ls with
      | nil => exact nil
      | cons l ls =>
          by_cases hl : isBreak l = true
          · exact brk l ls hl (ih _ (by simp) ls rfl)
          · let p : Text → Bool := fun x => !isBreak x && kindOf x = kindOf l
            have hp : p l = true := by simp [p, hl]
            have hs := List.takeWhile_append_dropWhile (p := p) (l := l :: ls)
            rw [← hs]
            refine run (kindOf l) _ _ (by simp [hp]) ?_ ?_ (ih _ ?_ _ rfl)
            · intro x hx
              simpa [p, InRun] using List.mem_takeWhile_imp hx
            · intro x hx hr
              have hd := List.head?_dropWhile_not p (l :: ls)
              rw [hx] at hd
              simp [p, hr.1, hr.2] at hd
            · have := List.length_dropWhile_le p ls
              simp only [List.dropWhile_cons, hp, if_true, List.length_cons]
              omega

/-- What a line contributes to a piece, if it is no break line. -/
def contribution (l : Text) : Kind × Text :=
  (kindOf l, textOf l)

/-- The texts of pieces one by one, each with its kind. -/
def texts (ps : List (Kind × List Text)) : List (Kind × Text) :=
  ps.flatMap fun p => p.2.map fun x => (p.1, x)

@[simp]
theorem texts_singleton (p : Kind × List Text) : texts [p] = p.2.map fun x => (p.1, x) := by
  simp [texts]

theorem texts_cons (p : Kind × List Text) (ps : List (Kind × List Text)) :
    texts (p :: ps) = texts [p] ++ texts ps := by
  simp [texts]

theorem texts_append (a b : List (Kind × List Text)) : texts (a ++ b) = texts a ++ texts b := by
  simp [texts]

theorem texts_pieces (ls : List Text) :
    texts (pieces ls) = (ls.filter fun l => !isBreak l).map contribution := by
  induction ls using run_induction with
  | nil => rfl
  | brk l ls hl ih =>
      have hp : pieces (l :: ls) = pieces ls := pieces_append_break [] ls hl
      simp [hp, hl, ih]
  | run k run rest hn h he ih =>
      have hf : run.filter (fun l => !isBreak l) = run :=
        List.filter_eq_self.2 fun l hl => by simp [(h l hl).1]
      have hc : run.map contribution = run.map fun l => (k, textOf l) :=
        List.map_congr_left fun l hl => by simp [contribution, (h l hl).2]
      rw [pieces_append_run hn h he, List.filter_append, List.map_append, hf, hc, ← ih]
      simp [texts, Function.comp_def]

theorem exists_edges (xs : List Text) : ∃ front back,
    xs = front ++ (xs.dropWhile List.isEmpty).rdropWhile List.isEmpty ++ back ∧
      (∀ x ∈ front, x = []) ∧ ∀ x ∈ back, x = [] := by
  refine ⟨xs.takeWhile List.isEmpty, (xs.dropWhile List.isEmpty).rtakeWhile List.isEmpty,
    ?_, ?_, ?_⟩
  · rw [List.append_assoc, List.rdropWhile_append_rtakeWhile, List.takeWhile_append_dropWhile]
  · intro x hx
    simpa using List.mem_takeWhile_imp hx
  · intro x hx
    simpa using List.mem_rtakeWhile_imp hx

theorem filter_texts_of_blank {k : Kind} {xs : List Text} (h : ∀ x ∈ xs, x = []) :
    ((xs.map fun x => (k, x)).filter fun x => x.2 ≠ []) = [] := by
  simpa using h

theorem texts_tidied (ps : List (Kind × List Text)) :
    (texts (tidied ps)).filter (fun x => x.2 ≠ []) = (texts ps).filter fun x => x.2 ≠ [] := by
  induction ps with
  | nil => rfl
  | cons p ps ih =>
      obtain ⟨k, xs⟩ := p
      obtain ⟨front, back, hx, hf, hb⟩ := exists_edges xs
      rw [tidied_cons, texts_append, texts_cons, List.filter_append, List.filter_append, ih]
      congr 1
      generalize hm : (xs.dropWhile List.isEmpty).rdropWhile List.isEmpty = middle at hx
      by_cases ha : (xs.any fun x => !x.isEmpty) = true
      · have ht : tidied [(k, xs)] = [(k, middle)] := by simp [tidied, ha, hm]
        rw [ht, texts_singleton, texts_singleton, hx]
        simp only [List.map_append, List.filter_append]
        rw [filter_texts_of_blank hf, filter_texts_of_blank hb, List.append_nil, List.nil_append]
      · have ht : tidied [(k, xs)] = [] := by simp [tidied, ha]
        rw [ht, texts_singleton, filter_texts_of_blank (by simpa using ha)]
        rfl

/-- Where a piece of some lines comes from: a run that ends, with the pieces
before it made of the lines before it and those behind it of the lines behind. -/
theorem exists_run_of_pieces {ls : List Text} {ps qs : List (Kind × List Text)}
    {p : Kind × List Text} (h : pieces ls = ps ++ p :: qs) :
    ∃ before run after, ls = before ++ run ++ after ∧ run ≠ [] ∧ (∀ l ∈ run, InRun p.1 l) ∧
      p.2 = run.map textOf ∧ EndsRun p.1 after ∧ pieces after = qs ∧
      ∀ l ∈ before, isBreak l = true ∨ ∃ q ∈ ps, textOf l ∈ q.2 := by
  induction ls using run_induction generalizing ps with
  | nil => simp at h
  | brk l ls hl ih =>
      have hp : pieces (l :: ls) = pieces ls := pieces_append_break [] ls hl
      obtain ⟨before, run, after, rfl, hn, hr, ht, he, hq, hb⟩ := ih (hp ▸ h)
      refine ⟨l :: before, run, after, rfl, hn, hr, ht, he, hq, ?_⟩
      intro x hx
      rcases List.mem_cons.1 hx with rfl | hx
      · exact .inl hl
      · exact hb x hx
  | run k run rest hn hr he ih =>
      rw [pieces_append_run hn hr he] at h
      cases ps with
      | nil =>
          obtain ⟨rfl, rfl⟩ := List.cons.inj h
          exact ⟨[], run, rest, rfl, hn, hr, rfl, he, rfl, by simp⟩
      | cons q ps =>
          obtain ⟨rfl, hps⟩ := List.cons.inj h
          obtain ⟨before, run', after, rfl, hn', hr', ht', he', hq', hb'⟩ := ih hps
          refine ⟨run ++ before, run', after, by simp, hn', hr', ht', he', hq', ?_⟩
          intro x hx
          rcases List.mem_append.1 hx with hx | hx
          · exact .inr ⟨_, List.mem_cons_self, List.mem_map_of_mem hx⟩
          · rcases hb' x hx with hx | ⟨q, hq, hx⟩
            · exact .inl hx
            · exact .inr ⟨q, List.mem_cons_of_mem _ hq, hx⟩

/-- The kinds and texts of all chunks: what the lines come to. -/
def segmentation (ls : List Text) : List (Kind × List Text) :=
  tidied (pieces ls)

theorem blank_of_tidied_eq_nil {ps : List (Kind × List Text)} (h : tidied ps = []) :
    ∀ p ∈ ps, ∀ x ∈ p.2, x = [] := by
  simpa [tidied, List.filter_eq_nil_iff] using h

/-- A piece that is left comes from a piece with a text, and what is left on its
sides comes from the pieces on its sides. -/
theorem exists_piece_of_tidied {ps as bs : List (Kind × List Text)} {k : Kind} {xs : List Text}
    (h : tidied ps = as ++ (k, xs) :: bs) :
    ∃ before front back after, ps = before ++ (k, front ++ xs ++ back) :: after ∧
      tidied before = as ∧ tidied after = bs ∧ xs ≠ [] ∧
      (∀ x ∈ front, x = []) ∧ ∀ x ∈ back, x = [] := by
  obtain ⟨left, rest, hf, rfl, hrest⟩ := List.map_eq_append_iff.1 h
  obtain ⟨⟨k', ys⟩, right, rfl, hp, rfl⟩ := List.map_eq_cons_iff.1 hrest
  obtain ⟨before, rest, rfl, rfl, hr⟩ := List.filter_eq_append_iff.1 hf
  obtain ⟨skipped, after, rfl, hs, hy, rfl⟩ := List.filter_eq_cons_iff.1 hr
  obtain ⟨rfl, hxs⟩ := Prod.mk.inj hp
  obtain ⟨front, back, hys, hfront, hback⟩ := exists_edges ys
  rw [hxs] at hys
  have hskip : tidied skipped = [] := by
    simpa [tidied, List.filter_eq_nil_iff] using hs
  refine ⟨before ++ skipped, front, back, after, ?_, ?_, rfl, ?_, hfront, hback⟩
  · rw [← hys, List.append_assoc]
  · rw [tidied_append, hskip, List.append_nil]
    rfl
  · rintro rfl
    simp only [hys, List.append_nil, List.any_append, Bool.or_eq_true, List.any_eq_true] at hy
    rcases hy with ⟨x, hx, hn⟩ | ⟨x, hx, hn⟩
    · simp [hfront x hx] at hn
    · simp [hback x hx] at hn

/-- Where the lines of a chunk stand. The rest of their run is behind them, and
if there is no chunk before them, nothing is but break lines and empty texts. -/
theorem exists_lines_of_segmentation {ls : List Text} {as bs : List (Kind × List Text)}
    {p : Kind × List Text} (h : segmentation ls = as ++ p :: bs) :
    ∃ before run back after, ls = before ++ run ++ back ++ after ∧ run ≠ [] ∧
      (∀ l ∈ run, InRun p.1 l) ∧ run.map textOf = p.2 ∧ (∀ l ∈ back, textOf l = []) ∧
      EndsRun p.1 after ∧ segmentation after = bs ∧
      (as = [] → ∀ l ∈ before, isBreak l = true ∨ textOf l = []) := by
  obtain ⟨k, xs⟩ := p
  obtain ⟨ps, front, back, qs, hp, ha, hb, hx, hfront, hback⟩ := exists_piece_of_tidied h
  obtain ⟨before, run, after, rfl, -, hr, ht, he, rfl, hbefore⟩ := exists_run_of_pieces hp
  obtain ⟨r, back', rfl, hr', rfl⟩ := List.map_eq_append_iff.1 ht.symm
  obtain ⟨front', run, rfl, rfl, rfl⟩ := List.map_eq_append_iff.1 hr'
  refine ⟨before ++ front', run, back', after, by simp, ?_, ?_, rfl, ?_, he, hb, ?_⟩
  · rintro rfl
    exact hx rfl
  · intro l hl
    exact hr l (by simp [hl])
  · intro l hl
    exact hback _ (List.mem_map_of_mem hl)
  · intro has l hl
    rcases List.mem_append.1 hl with hl | hl
    · rcases hbefore l hl with hl | ⟨q, hq, hl⟩
      · exact .inl hl
      · exact .inr (blank_of_tidied_eq_nil (ha.trans has) q hq _ hl)
    · exact .inr (hfront _ (List.mem_map_of_mem hl))

end Segmentation

theorem outline_markContinued (afterOpen : Bool) (cs : List Chunk) :
    (markContinued afterOpen cs).map outline = cs.map outline := by
  induction cs generalizing afterOpen with
  | nil => rfl
  | cons c cs ih => cases c <;> simp [markContinued, outline, kind, lines, ih]

/-- Cutting comes to splitting the lines. -/
theorem outline_ofText (t : Text) : (ofText t).map outline = segmentation t.lines := by
  unfold ofText
  split
  · rename_i h
    rw [h]
    rfl
  · rename_i first rest h
    rw [h, outline_markContinued, outline_tidy,
      outline_segment [] (first :: rest) (by simp) (outline_empty _)]
    rfl

theorem exists_lines_of_ofText {t : Text} {as bs : List Chunk} {c : Chunk}
    (h : ofText t = as ++ c :: bs) :
    ∃ before run back after, t.lines = before ++ run ++ back ++ after ∧ run ≠ [] ∧
      (∀ l ∈ run, InRun c.kind l) ∧ run.map textOf = c.lines ∧ (∀ l ∈ back, textOf l = []) ∧
      EndsRun c.kind after ∧ segmentation after = bs.map outline := by
  have hs : segmentation t.lines = as.map outline ++ outline c :: bs.map outline := by
    rw [← outline_ofText, h]
    simp
  obtain ⟨before, run, back, after, hl, hn, hr, ht, hb, he, ha, -⟩ :=
    exists_lines_of_segmentation hs
  exact ⟨before, run, back, after, hl, hn, hr, ht, hb, he, ha⟩

/-- Between the lines of two neighbours are break lines and lines without a
text, and something that ends a run if the neighbours are of one kind. -/
theorem exists_gap_of_ofText {t : Text} {as bs : List Chunk} {c d : Chunk}
    (h : ofText t = as ++ c :: d :: bs) :
    ∃ before run gap run' after, t.lines = before ++ run ++ gap ++ run' ++ after ∧
      (∀ l ∈ run, InRun c.kind l) ∧ run.map textOf = c.lines ∧
      (∀ l ∈ run', InRun d.kind l) ∧ run'.map textOf = d.lines ∧
      (∀ l ∈ gap, isBreak l = true ∨ textOf l = []) ∧
      (c.kind = d.kind → ∃ l ∈ gap, isBreak l = true ∨ kindOf l ≠ c.kind) := by
  obtain ⟨before, run, back, rest, hl, -, hr, ht, hb, he, hs⟩ := exists_lines_of_ofText h
  have hd : segmentation rest = [] ++ outline d :: bs.map outline := hs
  obtain ⟨before', run', back', after, rfl, hn', hr', ht', -, -, -, hg⟩ :=
    exists_lines_of_segmentation hd
  refine ⟨before, run, back ++ before', run', back' ++ after, by simp [hl], hr, ht, hr', ht',
    ?_, ?_⟩
  · intro l hl
    rcases List.mem_append.1 hl with hl | hl
    · exact .inr (hb l hl)
    · exact hg rfl l hl
  · intro hk
    cases before' with
    | nil =>
        obtain ⟨l, run', rfl⟩ := List.exists_cons_of_ne_nil hn'
        exact absurd (hk ▸ hr' l List.mem_cons_self) (he l rfl)
    | cons l before' =>
        refine ⟨l, by simp, ?_⟩
        have hl : ¬InRun c.kind l := he l rfl
        by_cases hb : isBreak l = true
        · exact .inl hb
        · exact .inr fun hk => hl ⟨by simpa using hb, hk⟩

/-- The chunks of a text are its segmentation. So a text that is not empty is
there once, in its place and in a chunk of its kind; a chunk is made of lines in
a row, empty ones inside of it included; and two neighbours of one kind have a
break line between them or a line of the other kind, which has no text. -/
theorem ofText_segmentation (t : Text) :
    (ofText t).map outline = segmentation t.lines ∧
    ((ofText t).flatMap fun c => c.lines.map fun x => (c.kind, x)).filter (fun x => x.2 ≠ []) =
      ((t.lines.filter fun l => !isBreak l).map fun l => (kindOf l, textOf l)).filter
        (fun x => x.2 ≠ []) ∧
    (∀ c ∈ ofText t, ∃ before run after, t.lines = before ++ run ++ after ∧
      (∀ l ∈ run, InRun c.kind l) ∧ run.map textOf = c.lines) ∧
    ∀ as c d bs, ofText t = as ++ c :: d :: bs →
      ∃ before run gap run' after, t.lines = before ++ run ++ gap ++ run' ++ after ∧
        (∀ l ∈ run, InRun c.kind l) ∧ run.map textOf = c.lines ∧
        (∀ l ∈ run', InRun d.kind l) ∧ run'.map textOf = d.lines ∧
        (∀ l ∈ gap, isBreak l = true ∨ textOf l = []) ∧
        (c.kind = d.kind → ∃ l ∈ gap, isBreak l = true ∨ kindOf l ≠ c.kind) := by
  refine ⟨outline_ofText t, ?_, ?_, fun as c d bs h => exists_gap_of_ofText h⟩
  · have hc : ((ofText t).flatMap fun c => c.lines.map fun x => (c.kind, x)) =
        texts ((ofText t).map outline) := by
      simp [texts, List.flatMap_map, outline]
    rw [hc, outline_ofText, segmentation, texts_tidied, texts_pieces]
    rfl
  · intro c hc
    obtain ⟨as, bs, h⟩ := List.append_of_mem hc
    obtain ⟨before, run, back, after, hl, -, hr, ht, -⟩ := exists_lines_of_ofText h
    exact ⟨before, run, back ++ after, by simp [hl], hr, ht⟩

/-- Two chunks of prose with a code line between them that has no text. -/
theorem ofText_segmentation_blank_code :
    ofText "#' a\n\n#'\n#' b\n".toList = [] ++ prose [['a']] :: prose [['b']] :: [] ∧
    ∃ before run gap run' after,
      Text.lines "#' a\n\n#'\n#' b\n".toList = before ++ run ++ gap ++ run' ++ after ∧
      (∀ l ∈ run, InRun .prose l) ∧ run.map textOf = [['a']] ∧
      (∀ l ∈ run', InRun .prose l) ∧ run'.map textOf = [['b']] ∧
      (∀ l ∈ gap, isBreak l = true ∨ textOf l = []) ∧
      (Kind.prose = Kind.prose → ∃ l ∈ gap, isBreak l = true ∨ kindOf l ≠ .prose) :=
  ⟨by decide, (ofText_segmentation _).2.2.2 [] (prose [['a']]) (prose [['b']]) [] (by decide)⟩

end Weave.Chunk
