import Weave.Proofs.Chunk.Continuation

/-!
# The chunks that texts have

Which lists of chunks come from cutting a text, told by the lists themselves. One
half says that cutting never leaves anything else. For the other half a text is
written for a given list: a break line before each chunk keeps neighbours of one
kind apart, every text of prose gets its mark back, whatever it looks like, and
every line ends in two characters, because of a carriage return that is content
the reader takes away only the one that belongs to the ending.

The flags are no part of what is written. They agree because the list says of its
flags what marking makes of them.
-/
namespace Weave.Chunk

open Segmentation

/-- The flag of each code chunk says whether the chunk or the code next to it is
indented where a statement could go on. -/
def Flagged (cs : List Chunk) : Prop :=
  ∀ before c after, cs = before ++ c :: after → c.isCode = true →
    (c.isContinued = true ↔ OpensBlank c ∨ ClosesBlank c ∨
      (∃ p, LastCode before p ∧ ClosesBlank p) ∨ ∃ n, FirstCode after n ∧ OpensBlank n)

/-- What is true of every chunk of a text, wherever it stands. -/
structure WellFormed (c : Chunk) : Prop where
  nonempty : c.lines ≠ []
  first : c.firstLine? ≠ some []
  last : c.lastLine? ≠ some []
  oneLine : ∀ line ∈ c.lines, '\n' ∉ line
  unmarked : c.isCode = true → ∀ line ∈ c.lines, ¬"#'".toList <+: line ∧ ¬"#-".toList <+: line

theorem newline_not_mem_lines (t : Text) : ∀ line ∈ t.lines, '\n' ∉ line := by
  fun_induction Text.lines t with
  | case1 => simp
  | case2 rest ih => simpa using ih
  | case3 rest hr ih => simpa using ih
  | case4 c rest hr hc hl ih => simpa using Ne.symm hc
  | case5 c rest hr hc line more hl ih =>
      rw [hl] at ih
      have hline : '\n' ∉ c :: line := by simpa [Ne.symm hc] using ih line (by simp)
      exact List.forall_mem_cons.2 ⟨hline, fun l h => ih l (by simp [h])⟩

theorem mem_of_mem_textOf {x : Char} {line : Text} (h : x ∈ textOf line) : x ∈ line := by
  unfold textOf at h
  split at h
  · simp at h
  · simp [h]
  · exact h

theorem kindOf_eq_prose_iff (line : Text) : kindOf line = .prose ↔ "#'".toList <+: line := by
  constructor
  · unfold kindOf
    split
    · exact fun _ => ⟨_, rfl⟩
    · simp
  · rintro ⟨rest, rfl⟩
    rfl

theorem isBreak_iff (line : Text) : isBreak line = true ↔ "#-".toList <+: line := by
  constructor
  · unfold isBreak
    split
    · exact fun _ => ⟨_, rfl⟩
    · simp
  · rintro ⟨rest, rfl⟩
    rfl

/-- A code line is its own text. -/
theorem textOf_of_code {line : Text} (h : kindOf line = .code) : textOf line = line := by
  unfold textOf
  split
  · simp [kindOf] at h
  · simp [kindOf] at h
  · rfl

theorem not_marked_of_inRun {line : Text} (h : InRun .code line) :
    ¬"#'".toList <+: line ∧ ¬"#-".toList <+: line := by
  obtain ⟨hb, hk⟩ := h
  constructor
  · intro hp
    rw [(kindOf_eq_prose_iff line).2 hp] at hk
    contradiction
  · intro hp
    rw [(isBreak_iff line).2 hp] at hb
    contradiction

/-- The lines of a chunk are texts of lines that could stand in one run. -/
theorem exists_inRun_of_mem_ofText {t : Text} {c : Chunk} (hc : c ∈ ofText t) :
    ∀ line ∈ c.lines, ∃ l ∈ t.lines, InRun c.kind l ∧ textOf l = line := by
  intro line hline
  obtain ⟨as, bs, h⟩ := List.append_of_mem hc
  obtain ⟨before, run, back, after, hl, -, hr, ht, -⟩ := exists_lines_of_ofText h
  rw [← ht] at hline
  obtain ⟨l, hrun, rfl⟩ := List.mem_map.1 hline
  exact ⟨l, by simp [hl, hrun], hr l hrun, rfl⟩

/-- What cutting leaves is well formed. -/
theorem wellFormed_of_mem_ofText {t : Text} {c : Chunk} (hc : c ∈ ofText t) : WellFormed c := by
  obtain ⟨⟨x, line, rest, hfirst⟩, rest', x', line', hlast⟩ := edges_of_mem_ofText hc
  refine ⟨by simp [hfirst], by simp [firstLine?, hfirst], by simp [lastLine?, hlast], ?_, ?_⟩
  · intro line hline
    obtain ⟨l, hl, -, rfl⟩ := exists_inRun_of_mem_ofText hc line hline
    exact fun hn => newline_not_mem_lines t l hl (mem_of_mem_textOf hn)
  · intro hcode line hline
    obtain ⟨l, -, hin, rfl⟩ := exists_inRun_of_mem_ofText hc line hline
    have hk : c.kind = .code := by simpa [isCode] using hcode
    rw [hk] at hin
    rw [textOf_of_code hin.2]
    exact not_marked_of_inRun hin

/-- A line whose text is given. -/
def sourceLine : Kind → Text → Text
  | .prose, x => proseLead ++ x
  | .code, x => x

/-- The lines of a chunk, behind a break line. -/
def sourceLines (c : Chunk) : List Text :=
  breakMark :: c.lines.map (sourceLine c.kind)

def lineEnd : Text := ['\r', '\n']

/-- A text that is cut into these chunks. -/
def toText (cs : List Chunk) : Text :=
  (cs.flatMap sourceLines).flatMap (· ++ lineEnd)

theorem lines_ended_line {line : Text} (h : '\n' ∉ line) (rest : Text) :
    Text.lines (line ++ '\r' :: '\n' :: rest) = line :: Text.lines rest := by
  induction line with
  | nil => rw [List.nil_append, Text.lines]
  | cons c line ih =>
      have hc : c ≠ '\n' := fun hc => h (by simp [hc])
      have hl : '\n' ∉ line := fun hl => h (by simp [hl])
      rw [List.cons_append, Text.lines, if_neg hc, ih hl]
      -- The first line does not end right behind `c`, so `c` is not part of its ending.
      intro rest' _ he
      cases line with
      | nil => simp at he
      | cons d line =>
          obtain ⟨rfl, -⟩ := List.cons.inj he
          exact hl (by simp)

theorem lines_ended_lines {ls : List Text} (h : ∀ l ∈ ls, '\n' ∉ l) :
    Text.lines (ls.flatMap (· ++ lineEnd)) = ls := by
  induction ls with
  | nil => rfl
  | cons l ls ih =>
      have hl : '\n' ∉ l := h l (by simp)
      simp only [List.flatMap_cons, lineEnd, List.append_assoc, List.cons_append, List.nil_append]
      rw [lines_ended_line hl, ← lineEnd, ih fun x hx => h x (by simp [hx])]

theorem kindOf_eq_code_of_not_marked {line : Text} (h : ¬"#'".toList <+: line) :
    kindOf line = .code := by
  cases hk : kindOf line with
  | prose => exact absurd ((kindOf_eq_prose_iff line).1 hk) h
  | code => rfl

/-- A source line is in a run of its kind and has the text that was given. -/
theorem inRun_sourceLine {k : Kind} {x : Text}
    (h : k = .code → ¬"#'".toList <+: x ∧ ¬"#-".toList <+: x) :
    InRun k (sourceLine k x) ∧ textOf (sourceLine k x) = x := by
  cases k with
  | prose => exact ⟨⟨rfl, rfl⟩, rfl⟩
  | code =>
      obtain ⟨hp, hb⟩ := h rfl
      have hk := kindOf_eq_code_of_not_marked hp
      exact ⟨⟨Bool.eq_false_iff.2 fun hx => hb ((isBreak_iff x).1 hx), hk⟩, textOf_of_code hk⟩

namespace WellFormed

variable {c : Chunk}

theorem unmarked_of_kind (h : WellFormed c) {x : Text} (hx : x ∈ c.lines) (hk : c.kind = .code) :
    ¬"#'".toList <+: x ∧ ¬"#-".toList <+: x :=
  h.unmarked (by simp [isCode, hk]) x hx

theorem inRun (h : WellFormed c) : ∀ l ∈ c.lines.map (sourceLine c.kind), InRun c.kind l := by
  intro l hl
  obtain ⟨x, hx, rfl⟩ := List.mem_map.1 hl
  exact (inRun_sourceLine (h.unmarked_of_kind hx)).1

theorem map_textOf (h : WellFormed c) : (c.lines.map (sourceLine c.kind)).map textOf = c.lines := by
  have ht : ∀ x ∈ c.lines, textOf (sourceLine c.kind x) = x :=
    fun x hx => (inRun_sourceLine (h.unmarked_of_kind hx)).2
  rw [List.map_map]
  exact (List.map_congr_left ht).trans (List.map_id' _)

/-- Tidying leaves a chunk that begins and ends with a text. -/
theorem tidied_outline (h : WellFormed c) : tidied [outline c] = [outline c] := by
  obtain ⟨x, rest, hx⟩ := List.exists_cons_of_ne_nil h.nonempty
  have hfirst : x.isEmpty = false := by simpa [firstLine?, hx] using h.first
  have hlast : ¬(c.lines.getLast h.nonempty).isEmpty = true := by
    have := h.last
    rw [lastLine?, List.getLast?_eq_some_getLast h.nonempty] at this
    simpa using this
  have hd : c.lines.dropWhile List.isEmpty = c.lines := by simp [hx, hfirst]
  have hr : c.lines.rdropWhile List.isEmpty = c.lines :=
    (List.rdropWhile_eq_self_iff).2 fun _ => hlast
  have ha : (c.lines.any fun x => !x.isEmpty) = true := by simp [hx, hfirst]
  simp [tidied, outline, ha, hd, hr]

theorem newline_not_mem_sourceLines (h : WellFormed c) : ∀ l ∈ sourceLines c, '\n' ∉ l := by
  refine List.forall_mem_cons.2 ⟨by decide, fun l hl => ?_⟩
  obtain ⟨x, hx, rfl⟩ := List.mem_map.1 hl
  have hn := h.oneLine x hx
  cases c.kind with
  | prose => simpa [sourceLine, proseLead] using hn
  | code => exact hn

theorem pieces_sourceLines (h : WellFormed c) {rest : List Text} (he : EndsRun c.kind rest) :
    pieces (sourceLines c ++ rest) = outline c :: pieces rest := by
  have hn : c.lines.map (sourceLine c.kind) ≠ [] := by simpa using h.nonempty
  have hb : pieces (sourceLines c ++ rest) = pieces (c.lines.map (sourceLine c.kind) ++ rest) :=
    pieces_append_break [] _ rfl
  rw [hb, pieces_append_run hn h.inRun he, h.map_textOf, outline]

end WellFormed

/-- The lines of further chunks begin with a break line. -/
theorem endsRun_flatMap_sourceLines (k : Kind) (cs : List Chunk) :
    EndsRun k (cs.flatMap sourceLines) := by
  cases cs with
  | nil => simp [EndsRun]
  | cons c cs =>
      intro l hl
      have hm : l = breakMark := by simpa [sourceLines, eq_comm] using hl
      subst hm
      exact fun hin => Bool.noConfusion hin.1

theorem segmentation_sourceLines {cs : List Chunk} (h : ∀ c ∈ cs, WellFormed c) :
    segmentation (cs.flatMap sourceLines) = cs.map outline := by
  induction cs with
  | nil => rfl
  | cons c cs ih =>
      have hc := h c (by simp)
      have ih := ih fun d hd => h d (by simp [hd])
      rw [List.flatMap_cons, segmentation, hc.pieces_sourceLines (endsRun_flatMap_sourceLines _ cs),
        tidied_cons, hc.tidied_outline, ← segmentation, ih]
      rfl

/-- The written text is cut into the chunks, as far as their lines go. -/
theorem outline_ofText_toText {cs : List Chunk} (h : ∀ c ∈ cs, WellFormed c) :
    (ofText (toText cs)).map outline = cs.map outline := by
  have hn : ∀ l ∈ cs.flatMap sourceLines, '\n' ∉ l := by
    intro l hl
    obtain ⟨c, hc, hl⟩ := List.mem_flatMap.1 hl
    exact (h c hc).newline_not_mem_sourceLines l hl
  rw [outline_ofText, toText, lines_ended_lines hn, segmentation_sourceLines h]

/-- A chunk without its flag is told by its kind and its lines. -/
theorem setContinued_false_eq (c : Chunk) :
    c.setContinued false = (empty (outline c).1).mapLines fun _ => (outline c).2 := by
  cases c <;> rfl

theorem map_setContinued_false_of_outline_eq {a b : List Chunk}
    (h : a.map outline = b.map outline) :
    a.map (setContinued false) = b.map (setContinued false) := by
  have hm : setContinued false = (fun p => (empty p.1).mapLines fun _ => p.2) ∘ outline :=
    funext setContinued_false_eq
  rw [hm, ← List.map_map, ← List.map_map, h]

theorem setContinued_of_isContinued_eq {c : Chunk} {value : Bool} (h : c.isContinued = value) :
    c.setContinued value = c := by
  cases c with
  | prose ls => rfl
  | code ls continued => exact congrArg (code ls) h.symm

theorem closesAfter_concat_prose (afterOpen : Bool) (before : List Chunk) (ls : List Text) :
    closesAfter afterOpen (before ++ [prose ls]) = closesAfter afterOpen before := by
  have hp : isCode (prose ls) = false := rfl
  simp [closesAfter, hp]

theorem closesAfter_concat_code (afterOpen : Bool) (before : List Chunk) {c : Chunk}
    (hc : c.isCode = true) : closesAfter afterOpen (before ++ [c]) = c.closesIndented := by
  simp [closesAfter, hc]

theorem nextOpens_map_setContinued (value : Bool) (cs : List Chunk) :
    nextOpens (cs.map (setContinued value)) = nextOpens cs := by
  induction cs with
  | nil => rfl
  | cons c cs ih =>
      cases c with
      | prose ls => exact ih
      | code ls continued => rfl

/-- Flags that are as they should be are those that marking sets. The induction is
on the chunks to come, of which those passed say one bit. -/
theorem eq_markContinued (before : List Chunk) {rest : List Chunk}
    (h : Flagged (before ++ rest)) :
    rest = markContinued (closesAfter false before) (rest.map (setContinued false)) := by
  induction rest generalizing before with
  | nil => rfl
  | cons c rest ih =>
      have ih := ih (before ++ [c]) (by simpa using h)
      cases c with
      | prose ls =>
          rw [closesAfter_concat_prose] at ih
          rw [List.map_cons, setContinued, markContinued, ← ih]
      | code ls continued =>
          have hf := h before (code ls continued) rest rfl rfl
          rw [← closesAfter_iff, ← nextOpens_iff, ← opensIndented_iff, ← closesIndented_iff] at hf
          rw [closesAfter_concat_code false before rfl] at ih
          have hc : (code ls continued).isContinued = (opensIndented (code ls continued) ||
              closesIndented (code ls continued) || closesAfter false before ||
              nextOpens rest) := by
            rw [Bool.eq_iff_iff]
            simpa only [Bool.or_eq_true, or_assoc] using hf
          rw [List.map_cons, setContinued, markContinued, nextOpens_map_setContinued,
            Bool.false_or]
          congr 1
          exact congrArg (code ls) hc

/-- Which lists of chunks come from cutting a text: their chunks have lines, begin
and end with a text, no line holds a newline, no line of code looks like a mark, and
the flags say what is indented where code meets. -/
theorem exists_ofText_eq_iff (cs : List Chunk) :
    (∃ t, ofText t = cs) ↔ (∀ c ∈ cs, WellFormed c) ∧ Flagged cs := by
  constructor
  · rintro ⟨t, rfl⟩
    exact ⟨fun c hc => wellFormed_of_mem_ofText hc, fun before c after h hc => isContinued_iff h hc⟩
  · rintro ⟨hw, hf⟩
    refine ⟨toText cs, ?_⟩
    obtain ⟨bare, hm, hb⟩ := exists_markContinued_of_ofText (toText cs)
    have ho : bare.map outline = cs.map outline := by
      rw [← outline_ofText_toText hw, hm, outline_markContinued]
    have hbare : bare = bare.map (setContinued false) :=
      ((List.map_congr_left fun c hc => setContinued_of_isContinued_eq (hb c hc)).trans
        (List.map_id' _)).symm
    rw [hm, hbare, map_setContinued_false_of_outline_eq ho]
    exact (eq_markContinued [] hf).symm

/-- Neighbours of one kind, prose that looks like a mark, and lines that end in a
carriage return. -/
example : ofText (toText [prose ["#'".toList], prose ["#- x".toList], code ["y\r".toList] false]) =
    [prose ["#'".toList], prose ["#- x".toList], code ["y\r".toList] false] := by decide

end Weave.Chunk
