import Weave.Proofs.Artifact.Agreement
import Weave.Proofs.Chunk.Edges

/-!
# A script read as a source

The lines of a script are the lines of its code chunks, with an empty line behind each
chunk. No mark begins a line of code, so a script is code from end to end: one chunk, in
which the chunks of the script are apart by one empty line each. The empty line at the end
of the script is trimmed, and a script of the one chunk has it again.

It takes that no line of code ends in a carriage return, which would be taken for a part
of the line's ending when the script is read.
-/
namespace Weave.Script

open Chunk (Kind ofText WellFormed)
open Chunk.Segmentation

/-- The lines of each code chunk. -/
def codeBlocks (cs : List Chunk) : List (List Text) :=
  (cs.filter Chunk.isCode).map Chunk.lines

/-- The lines of all blocks, with one empty line between two of them. -/
def apart (blocks : List (List Text)) : List Text :=
  List.intercalate [[]] blocks

theorem apart_cons_cons (b c : List Text) (blocks : List (List Text)) :
    apart (b :: c :: blocks) = b ++ [] :: apart (c :: blocks) := by
  simp [apart]

theorem ofChunks_eq_flatMap (cs : List Chunk) :
    ofChunks cs = (codeBlocks cs).flatMap fun b => Text.unlines (b ++ [[]]) := by
  induction cs with
  | nil => rfl
  | cons c cs ih =>
      cases c with
      | prose ls => exact ih
      | code ls continued =>
          have hs : ofChunks (.code ls continued :: cs) =
              Text.unlines (ls ++ [[]]) ++ ofChunks cs := by
            simp [ofChunks, ofChunk, Text.unlines_append]
          rw [hs, ih]
          rfl

theorem flatMap_unlines {blocks : List (List Text)} (h : blocks ≠ []) :
    (blocks.flatMap fun b => Text.unlines (b ++ [[]])) = Text.unlines (apart blocks ++ [[]]) := by
  induction blocks with
  | nil => exact absurd rfl h
  | cons b blocks ih =>
      cases blocks with
      | nil => simp [apart]
      | cons c blocks =>
          rw [List.flatMap_cons, ih (List.cons_ne_nil c blocks), apart_cons_cons,
            ← Text.unlines_append]
          simp

/-- A line that is read as it was written, when a newline stands behind it. -/
def Plain (line : Text) : Prop :=
  '\n' ∉ line ∧ line.getLast? ≠ some '\r'

theorem lines_unlines {ls : List Text} (h : ∀ l ∈ ls, Plain l) : (Text.unlines ls).lines = ls := by
  induction ls with
  | nil => rfl
  | cons l ls ih =>
      obtain ⟨⟨hl, hr⟩, hls⟩ := List.forall_mem_cons.1 h
      have hs : Text.unlines (l :: ls) = (l ++ ['\n']) ++ Text.unlines ls := by simp
      rw [hs, Text.lines_ended_line_append hl, Text.bareLine_ended_line, if_neg hr, ih hls]

theorem mem_apart {blocks : List (List Text)} {l : Text} (h : l ∈ apart blocks) :
    l = [] ∨ ∃ b ∈ blocks, l ∈ b := by
  induction blocks with
  | nil => exact absurd h List.not_mem_nil
  | cons b blocks ih =>
      cases blocks with
      | nil => exact .inr ⟨b, List.mem_cons_self, by simpa [apart] using h⟩
      | cons c blocks =>
          rw [apart_cons_cons, List.mem_append, List.mem_cons] at h
          rcases h with h | h | h
          · exact .inr ⟨b, List.mem_cons_self, h⟩
          · exact .inl h
          · obtain h | ⟨d, hd, h⟩ := ih h
            · exact .inl h
            · exact .inr ⟨d, List.mem_cons_of_mem b hd, h⟩

/-- Two chunks of code with an empty line between them could be one. -/
theorem wellFormed_append {a b : List Text} {continued : Bool}
    (ha : WellFormed (.code a continued)) (hb : WellFormed (.code b continued)) :
    WellFormed (.code (a ++ [] :: b) continued) := by
  have hmem : ∀ {P : Text → Prop}, (∀ l ∈ a, P l) → P [] → (∀ l ∈ b, P l) →
      ∀ l ∈ a ++ [] :: b, P l := fun ha he hb =>
    List.forall_mem_append.2 ⟨ha, List.forall_mem_cons.2 ⟨he, hb⟩⟩
  refine ⟨by simp [Chunk.lines], ?_, ?_, hmem ha.oneLine List.not_mem_nil hb.oneLine, ?_⟩
  · obtain ⟨x, a, rfl⟩ := List.exists_cons_of_ne_nil ha.nonempty
    exact ha.first
  · obtain ⟨b, y, rfl⟩ := (List.eq_nil_or_concat b).resolve_left hb.nonempty
    have hs : a ++ [] :: b.concat y = (a ++ [] :: b) ++ [y] := by simp
    rw [Chunk.lastLine?, Chunk.lines, hs, List.getLast?_concat]
    simpa [Chunk.lastLine?, Chunk.lines] using hb.last
  · exact fun hc => hmem (ha.unmarked hc) ⟨by decide, by decide⟩ (hb.unmarked hc)

theorem wellFormed_apart {blocks : List (List Text)} (hn : blocks ≠ [])
    (h : ∀ b ∈ blocks, WellFormed (.code b false)) : WellFormed (.code (apart blocks) false) := by
  induction blocks with
  | nil => exact absurd rfl hn
  | cons b blocks ih =>
      obtain ⟨hb, hs⟩ := List.forall_mem_cons.1 h
      cases blocks with
      | nil => simpa [apart] using hb
      | cons c blocks =>
          rw [apart_cons_cons]
          exact wellFormed_append hb (ih (List.cons_ne_nil c blocks) hs)

theorem segmentation_code {ls : List Text} (h : WellFormed (.code ls false)) :
    segmentation (ls ++ [[]]) = [(.code, ls)] := by
  have hrun : ∀ l ∈ ls ++ [[]], InRun .code l := by
    refine List.forall_mem_append.2 ⟨fun l hl => ?_, fun l hl => ?_⟩
    · exact (Artifact.inRun_code_iff l).2 (h.unmarked rfl l hl)
    · rw [List.mem_singleton.1 hl]
      exact ⟨rfl, rfl⟩
  have htext : (ls ++ [[]]).map textOf = ls ++ [[]] :=
    (List.map_congr_left fun l hl => Chunk.textOf_of_code (hrun l hl).2).trans (List.map_id' _)
  have hpieces : pieces ((ls ++ [[]]) ++ []) = (.code, (ls ++ [[]]).map textOf) :: pieces [] :=
    pieces_append_run (by simp) hrun (by simp [EndsRun])
  rw [List.append_nil, pieces_nil, htext] at hpieces
  rw [segmentation, hpieces, tidied_concat_nil]
  exact h.tidied_outline

/-- A script of one block is one chunk. -/
theorem ofText_unlines {ls : List Text} (h : WellFormed (.code ls false))
    (hp : ∀ l ∈ ls, Plain l) : ∃ continued,
      ofText (Text.unlines (ls ++ [[]])) = [.code ls continued] := by
  have hlines : (Text.unlines (ls ++ [[]])).lines = ls ++ [[]] :=
    lines_unlines (List.forall_mem_append.2 ⟨hp, by simp [Plain]⟩)
  rw [Chunk.ofText_eq_markContinued, hlines, segmentation_code h]
  exact ⟨_, rfl⟩

theorem wellFormed_of_mem_codeBlocks {t : Text} {b : List Text} (h : b ∈ codeBlocks (ofText t)) :
    WellFormed (.code b false) := by
  obtain ⟨c, hc, rfl⟩ := List.mem_map.1 h
  obtain ⟨hmem, hcode⟩ := List.mem_filter.1 hc
  have hw := Chunk.wellFormed_of_mem_ofText hmem
  exact ⟨hw.nonempty, hw.first, hw.last, hw.oneLine, fun _ => hw.unmarked hcode⟩

theorem ofChunks_eq_nil {cs : List Chunk} (h : codeBlocks cs = []) : ofChunks cs = [] := by
  rw [ofChunks_eq_flatMap, h]
  rfl

/-- The lines of a script, and the one chunk that it is read as. -/
theorem reread {cs : List Chunk} (hn : codeBlocks cs ≠ [])
    (hw : ∀ b ∈ codeBlocks cs, WellFormed (.code b false))
    (hp : ∀ b ∈ codeBlocks cs, ∀ l ∈ b, Plain l) :
    (ofChunks cs).lines = apart (codeBlocks cs) ++ [[]] ∧ ∃ continued,
      ofText (ofChunks cs) = [.code (apart (codeBlocks cs)) continued] ∧
      ofChunks [.code (apart (codeBlocks cs)) continued] = ofChunks cs := by
  have hplain : ∀ l ∈ apart (codeBlocks cs), Plain l := by
    intro l hl
    obtain rfl | ⟨b, hb, hl⟩ := mem_apart hl
    · exact ⟨List.not_mem_nil, by simp⟩
    · exact hp b hb l hl
  have hs : ofChunks cs = Text.unlines (apart (codeBlocks cs) ++ [[]]) := by
    rw [ofChunks_eq_flatMap, flatMap_unlines hn]
  obtain ⟨continued, ht⟩ := ofText_unlines (wellFormed_apart hn hw) hplain
  rw [hs]
  refine ⟨lines_unlines (List.forall_mem_append.2 ⟨hplain, by simp [Plain]⟩), continued, ht, ?_⟩
  simp [ofChunks, ofChunk, Text.unlines_append]

/-- A script is read as one chunk of code, or as none if there is no code in it, and no line of it
has a mark. The lines of the chunk are those of the code it was made of, with one empty line between
two chunks. So a script of it is the same again. -/
theorem ofChunks_ofText_ofChunks {t : Text}
    (hr : ∀ c ∈ ofText t, c.isCode = true → ∀ l ∈ c.lines, l.getLast? ≠ some '\r') :
    (∀ l ∈ (ofChunks (ofText t)).lines, ¬"#'".toList <+: l ∧ ¬"#-".toList <+: l) ∧
    ((∀ c ∈ ofText t, c.isCode = false) → ofText (ofChunks (ofText t)) = []) ∧
    ((∃ c ∈ ofText t, c.isCode = true) → ∃ continued, ofText (ofChunks (ofText t)) =
      [.code (List.intercalate [[]] (((ofText t).filter Chunk.isCode).map Chunk.lines))
        continued]) ∧
    ofChunks (ofText (ofChunks (ofText t))) = ofChunks (ofText t) := by
  have hw : ∀ b ∈ codeBlocks (ofText t), WellFormed (.code b false) :=
    fun b hb => wellFormed_of_mem_codeBlocks hb
  have hp : ∀ b ∈ codeBlocks (ofText t), ∀ l ∈ b, Plain l := by
    intro b hb l hl
    refine ⟨(hw b hb).oneLine l hl, ?_⟩
    obtain ⟨c, hc, rfl⟩ := List.mem_map.1 hb
    exact hr c (List.mem_filter.1 hc).1 (List.mem_filter.1 hc).2 l hl
  by_cases hn : codeBlocks (ofText t) = []
  · have hs := ofChunks_eq_nil hn
    have hnone : ∀ c ∈ ofText t, c.isCode = false := by
      simpa [codeBlocks, List.filter_eq_nil_iff] using hn
    rw [hs]
    refine ⟨by simp, fun _ => rfl, ?_, rfl⟩
    rintro ⟨c, hc, hcode⟩
    exact absurd hcode (by simp [hnone c hc])
  · obtain ⟨hl, continued, ht, hs⟩ := reread hn hw hp
    refine ⟨?_, fun hnone => ?_, fun _ => ⟨continued, ht⟩, ?_⟩
    · rw [hl]
      have hone := wellFormed_apart hn hw
      exact List.forall_mem_append.2 ⟨hone.unmarked rfl, by decide⟩
    · refine absurd ?_ hn
      simpa [codeBlocks, List.filter_eq_nil_iff] using hnone
    · rw [ht, hs]

/-- A call with prose in it and code behind a break, whose lines end in two characters. -/
def brokenCall : Text := "f(\r\n\r\n#' x\r\n 1)\r\n#-\r\ny #'".toList

theorem ofChunks_ofText_ofChunks_call :
    (∀ c ∈ ofText brokenCall, c.isCode = true → ∀ l ∈ c.lines, l.getLast? ≠ some '\r') ∧
    (∃ continued, ofText (ofChunks (ofText brokenCall)) =
      [.code ["f(".toList, [], " 1)".toList, [], "y #'".toList] continued]) ∧
    ofChunks (ofText (ofChunks (ofText brokenCall))) = ofChunks (ofText brokenCall) := by
  have ht : ofText brokenCall = [.code ["f(".toList] true, .prose ["x".toList],
      .code [" 1)".toList] true, .code ["y #'".toList] true] := by decide
  have hr : ∀ c ∈ ofText brokenCall, c.isCode = true → ∀ l ∈ c.lines, l.getLast? ≠ some '\r' := by
    rw [ht]
    decide
  obtain ⟨-, -, hone, hfixed⟩ := ofChunks_ofText_ofChunks hr
  obtain ⟨continued, hone⟩ := hone (by rw [ht]; exact ⟨_, List.mem_cons_self, rfl⟩)
  refine ⟨hr, ⟨continued, hone.trans ?_⟩, hfixed⟩
  rw [ht]
  rfl

end Weave.Script
