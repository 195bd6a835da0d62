import Weave.Artifact
import Weave.Notebook.Basic
import Weave.Proofs.Chunk.Image

/-!
# One source in three artifacts

Scripts end every line, notebooks end every line of a cell but the last, and
documents put fences around. On the chunks of a text the three agree: what a
script or a document says of a chunk is the source of its cell between fixed
words. It takes that no chunk is without lines, for then a script and a document
would still end a line where the cell has none.

A script can also be told from the text itself, without its chunks: its lines are
the lines of code, empty ones aside.
-/
namespace Weave.Artifact

open Notebook (Cell)
open Chunk.Segmentation

/-- The source of a cell without the newline of its last line. -/
theorem flatten_sourceLines {ls : List Text} (h : ls ≠ []) :
    (Cell.sourceLines ls).flatten ++ ['\n'] = Text.unlines ls := by
  induction ls with
  | nil => exact absurd rfl h
  | cons l ls ih =>
      cases ls with
      | nil => simp [Cell.sourceLines]
      | cons m ls =>
          have ih := ih (by simp)
          rw [Cell.sourceLines, List.flatten_cons, List.append_assoc, ih, Text.unlines_cons,
            List.append_assoc, List.singleton_append]
          · simp
          · exact List.cons_ne_nil m ls

theorem unlines_concat_newline {ls : List Text} (h : ls ≠ []) :
    Text.unlines ls ++ ['\n'] = (Cell.sourceLines ls).flatten ++ "\n\n".toList := by
  rw [← flatten_sourceLines h, List.append_assoc]
  rfl

theorem isCode_ofChunk (c : Chunk) : (Cell.ofChunk c).isCode = c.isCode := by
  cases c <;> rfl

/-- A code cell in a document: its source between the lines of the fence. The first
of them goes on in an example when the code does. -/
def fenced (fence : Markdown.Fence) (continued : Bool) (source : Text) : Text :=
  fence.opening ++ (if continued ∧ "```@example".toList <+: fence.opening then
    "; continued = true".toList else []) ++ "\n".toList ++ source ++ "\n".toList ++ fence.closing ++
    "\n\n".toList

theorem script_ofChunk {c : Chunk} (h : c.lines ≠ []) : Script.ofChunk c =
    if (Cell.ofChunk c).isCode then (Cell.ofChunk c).source.flatten ++ "\n\n".toList else [] := by
  cases c with
  | prose ls => rfl
  | code ls continued => exact unlines_concat_newline h

theorem openingFor_eq (fence : Markdown.Fence) (continued : Bool) :
    fence.openingFor continued = fence.opening ++
      if continued ∧ "```@example".toList <+: fence.opening then "; continued = true".toList
      else [] := by
  have he : fence.isExample = true ↔ "```@example".toList <+: fence.opening :=
    List.isPrefixOf_iff_prefix
  rw [Markdown.Fence.openingFor]
  simp only [Bool.and_eq_true, he]
  rfl

theorem markdown_ofChunk (fence : Markdown.Fence) {c : Chunk} (h : c.lines ≠ []) :
    Markdown.ofChunk fence c = if (Cell.ofChunk c).isCode then
        fenced fence c.isContinued (Cell.ofChunk c).source.flatten
      else (Cell.ofChunk c).source.flatten ++ "\n\n".toList := by
  cases c with
  | prose ls => exact unlines_concat_newline h
  | code ls continued =>
      have hn : ls ≠ [] := h
      change Text.unlines ([fence.openingFor continued] ++ ls ++ [fence.closing]) ++ ['\n'] =
        fenced fence continued (Cell.sourceLines ls).flatten
      have hu : ∀ l : Text, Text.unlines [l] = l ++ "\n".toList := fun l =>
        List.flatMap_singleton _ l
      have hs : "\n\n".toList = "\n".toList ++ ['\n'] := rfl
      rw [Text.unlines_append, Text.unlines_append, ← flatten_sourceLines hn, hu, hu, openingFor_eq,
        fenced, hs]
      simp only [List.append_assoc]
      rfl

section

variable {cs : List Chunk} (h : ∀ c ∈ cs, c.lines ≠ [])
include h

theorem script_ofChunks : Script.ofChunks cs =
    ((cs.map Cell.ofChunk).filter Cell.isCode).flatMap fun c =>
      c.source.flatten ++ "\n\n".toList := by
  induction cs with
  | nil => rfl
  | cons c cs ih =>
      have hc := script_ofChunk (h c List.mem_cons_self)
      have ih := ih fun d hd => h d (List.mem_cons_of_mem c hd)
      rw [Script.ofChunks, List.flatMap_cons, ← Script.ofChunks, ih, hc, List.map_cons,
        List.filter_cons]
      split <;> rfl

theorem markdown_ofChunks (fence : Markdown.Fence) : Markdown.ofChunks fence cs =
    (cs.zip (cs.map Cell.ofChunk)).flatMap fun p =>
      if p.2.isCode then fenced fence p.1.isContinued p.2.source.flatten
      else p.2.source.flatten ++ "\n\n".toList := by
  have hz : cs.zip (cs.map Cell.ofChunk) = cs.map fun c => (c, Cell.ofChunk c) := by
    simpa using List.zip_map' (f := id) (g := Cell.ofChunk) (l := cs)
  rw [hz, List.flatMap_map, Markdown.ofChunks, List.flatMap_def, List.flatMap_def,
    List.map_congr_left fun c hc => markdown_ofChunk fence (h c hc)]

end

theorem splitOn_unlines {ls : List Text} (h : ∀ l ∈ ls, '\n' ∉ l) (rest : Text) :
    List.splitOn '\n' (Text.unlines ls ++ rest) = ls ++ List.splitOn '\n' rest := by
  induction ls with
  | nil => rfl
  | cons l ls ih =>
      obtain ⟨hl, hls⟩ := List.forall_mem_cons.1 h
      have ih := ih hls
      have hs : l.splitOnP (· == '\n') = [l] :=
        List.splitOnP_eq_singleton fun c hc => by simpa using ne_of_mem_of_not_mem hc hl
      rw [List.splitOn_eq_splitOnP] at ih ⊢
      rw [Text.unlines_cons, List.append_assoc, List.cons_append,
        List.splitOnP_append_cons l _ (by simp), hs, ih, List.splitOn_eq_splitOnP]
      rfl

/-- The texts of code among texts with their kinds. -/
def codeTexts (xs : List (Chunk.Kind × Text)) : List Text :=
  (xs.filter fun x => x.1 = .code).map Prod.snd

theorem codeTexts_append (xs ys : List (Chunk.Kind × Text)) :
    codeTexts (xs ++ ys) = codeTexts xs ++ codeTexts ys := by
  simp [codeTexts]

/-- A script has the lines of code and no others, but for empty ones. -/
theorem filter_splitOn_script {cs : List Chunk} (h : ∀ c ∈ cs, ∀ l ∈ c.lines, '\n' ∉ l) :
    (List.splitOn '\n' (Script.ofChunks cs)).filter (· ≠ []) =
      codeTexts ((texts (cs.map Chunk.outline)).filter fun x => x.2 ≠ []) := by
  induction cs with
  | nil => rfl
  | cons c cs ih =>
      obtain ⟨hc, hcs⟩ := List.forall_mem_cons.1 h
      have ih := ih hcs
      rw [List.map_cons, texts_cons, List.filter_append, codeTexts_append, ← ih]
      cases c with
      | prose ls =>
          have hn : codeTexts ((texts [Chunk.outline (.prose ls)]).filter
              fun x => x.2 ≠ []) = [] := by
            simp [codeTexts, Chunk.outline, Chunk.kind, List.filter_filter]
          rw [hn]
          rfl
      | code ls continued =>
          have hc' : ∀ l ∈ ls, '\n' ∉ l := hc
          have hs : codeTexts ((texts [Chunk.outline (.code ls continued)]).filter
              fun x => x.2 ≠ []) = ls.filter (· ≠ []) := by
            simp [codeTexts, Chunk.outline, Chunk.kind, Chunk.lines, List.filter_map,
              Function.comp_def]
          have ho : Script.ofChunks (.code ls continued :: cs) =
              Text.unlines ls ++ (Text.unlines [[]] ++ Script.ofChunks cs) := by
            simp [Script.ofChunks, Script.ofChunk, Text.unlines]
          rw [ho, splitOn_unlines hc', splitOn_unlines (by simp), hs, List.filter_append,
            List.filter_append]
          rfl

/-- A line without a mark is a line of code. -/
theorem inRun_code_iff (l : Text) : InRun .code l ↔ ¬"#'".toList <+: l ∧ ¬"#-".toList <+: l := by
  refine ⟨Chunk.not_marked_of_inRun, fun ⟨hp, hb⟩ => ⟨?_, ?_⟩⟩
  · exact Bool.eq_false_iff.2 fun h => hb ((Chunk.isBreak_iff l).1 h)
  · exact Chunk.kindOf_eq_code_of_not_marked hp

theorem code_text_iff (l : Text) :
    isBreak l = false ∧ kindOf l = .code ∧ textOf l ≠ [] ↔
      l ≠ [] ∧ ¬"#'".toList <+: l ∧ ¬"#-".toList <+: l := by
  rw [← inRun_code_iff]
  constructor
  · rintro ⟨hb, hc, ht⟩
    exact ⟨Chunk.textOf_of_code hc ▸ ht, hb, hc⟩
  · rintro ⟨hn, hb, hc⟩
    exact ⟨hb, hc, (Chunk.textOf_of_code hc).symm ▸ hn⟩

/-- Lines of code are their own texts, so what the chunks have of them are the lines
themselves. -/
theorem codeTexts_lines (ls : List Text) :
    codeTexts (((ls.filter fun l => !isBreak l).map contribution).filter fun x => x.2 ≠ []) =
      ls.filter fun l => l ≠ [] ∧ ¬"#'".toList <+: l ∧ ¬"#-".toList <+: l := by
  rw [codeTexts, List.filter_map, List.filter_map, List.map_map, List.filter_filter,
    List.filter_filter]
  calc
    _ = (ls.filter fun l => l ≠ [] ∧ ¬"#'".toList <+: l ∧ ¬"#-".toList <+: l).map textOf := by
      refine congrArg (List.map textOf) (List.filter_congr fun l _ => ?_)
      rw [Bool.eq_iff_iff, decide_eq_true_iff, ← code_text_iff]
      simp only [Function.comp_apply, Bool.and_eq_true, decide_eq_true_iff, Bool.not_eq_true']
      exact and_comm
    _ = (ls.filter fun l => l ≠ [] ∧ ¬"#'".toList <+: l ∧ ¬"#-".toList <+: l).map id := by
      refine List.map_congr_left fun l hl => ?_
      have hm : l ≠ [] ∧ ¬"#'".toList <+: l ∧ ¬"#-".toList <+: l :=
        of_decide_eq_true (List.mem_filter.1 hl).2
      exact Chunk.textOf_of_code ((inRun_code_iff l).2 hm.2).2
    _ = _ := List.map_id _

/-- The three artifacts of a text agree. There is a cell for each chunk, of its
kind; a script is the sources of the code cells; a document is the sources of all
cells, those of code between the fence's lines, of which the first tells in an
example that the chunk is continued. And the lines of a script are the lines of
the text that have no mark, as long as empty ones do not count. -/
theorem artifacts_agree (t : Text) (fence : Markdown.Fence) (runtime : Notebook.Runtime) :
    (Notebook.ofChunks runtime (Chunk.ofText t)).cells.map Cell.isCode =
      (Chunk.ofText t).map Chunk.isCode ∧
    Script.ofChunks (Chunk.ofText t) =
      ((Notebook.ofChunks runtime (Chunk.ofText t)).cells.filter Cell.isCode).flatMap
        (fun c => c.source.flatten ++ "\n\n".toList) ∧
    Markdown.ofChunks fence (Chunk.ofText t) =
      ((Chunk.ofText t).zip (Notebook.ofChunks runtime (Chunk.ofText t)).cells).flatMap
        (fun p => if p.2.isCode then fenced fence p.1.isContinued p.2.source.flatten
          else p.2.source.flatten ++ "\n\n".toList) ∧
    (List.splitOn '\n' (Script.ofChunks (Chunk.ofText t))).filter (· ≠ []) =
      t.lines.filter fun l => l ≠ [] ∧ ¬"#'".toList <+: l ∧ ¬"#-".toList <+: l := by
  have hw : ∀ c ∈ Chunk.ofText t, Chunk.WellFormed c :=
    fun c hc => Chunk.wellFormed_of_mem_ofText hc
  have hn : ∀ c ∈ Chunk.ofText t, c.lines ≠ [] := fun c hc => (hw c hc).nonempty
  refine ⟨?_, script_ofChunks hn, markdown_ofChunks hn fence, ?_⟩
  · simp only [Notebook.ofChunks, List.map_map, Function.comp_def, isCode_ofChunk]
  · rw [filter_splitOn_script fun c hc => (hw c hc).oneLine, Chunk.outline_ofText, segmentation,
      texts_tidied, texts_pieces, codeTexts_lines]

end Weave.Artifact
