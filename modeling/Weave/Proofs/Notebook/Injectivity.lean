import Weave.Proofs.Artifact.Agreement
import Weave.Proofs.Notebook.RoundTrip

/-!
# What a notebook tells of its chunks

A cell keeps the lines of its chunk in one source, and no newline stands in a line, so
the lines are the parts of the source between its newlines. No chunk is without lines,
or its cell would read as one empty line. The flags are not in the notebook, and they
need not be: marking the chunks once more sets them all, because the flags of a text's
chunks are a function of the kinds and the lines.

So the chunks of a text can be read in its notebook, and the file of the notebook tells
them apart from the chunks of any other text.
-/
namespace Weave.Notebook

open Chunk (ofText)

/-- The lines of a cell: its source between the newlines. -/
def Cell.textLines (c : Cell) : List Text :=
  List.splitOn '\n' c.source.flatten

/-- The chunk that a cell was made of, but for its flag. -/
def Cell.toChunk (c : Cell) : Chunk :=
  if c.isCode then .code c.textLines false else .prose c.textLines

/-- The chunks that a notebook was made of. -/
def toChunks (nb : Notebook) : List Chunk :=
  Chunk.markContinued false (nb.cells.map Cell.toChunk)

/-- The source of a cell has a newline between two lines and nowhere else. -/
theorem flatten_sourceLines_eq_intercalate (ls : List Text) :
    (Cell.sourceLines ls).flatten = List.intercalate ['\n'] ls := by
  induction ls with
  | nil => rfl
  | cons l ls ih =>
      cases ls with
      | nil => simp [Cell.sourceLines]
      | cons m ls =>
          rw [List.intercalate_cons_cons, ← ih, Cell.sourceLines, List.flatten_cons]
          exact List.cons_ne_nil m ls

theorem textLines_ofChunk {c : Chunk} (hn : c.lines ≠ []) (hl : ∀ l ∈ c.lines, '\n' ∉ l) :
    (Cell.ofChunk c).textLines = c.lines := by
  have hs : (Cell.ofChunk c).source = Cell.sourceLines c.lines := by
    cases c <;> rfl
  rw [Cell.textLines, hs, flatten_sourceLines_eq_intercalate]
  exact List.splitOn_intercalate '\n' hl hn

/-- A cell tells its chunk, but for the flag. -/
theorem toChunk_ofChunk {c : Chunk} (h : Chunk.WellFormed c) :
    (Cell.ofChunk c).toChunk = c.setContinued false := by
  have ht := textLines_ofChunk h.nonempty h.oneLine
  cases c with
  | prose ls => exact congrArg Chunk.prose ht
  | code ls continued => exact congrArg (Chunk.code · false) ht

/-- The flags of a text's chunks say nothing that the chunks do not. -/
theorem markContinued_setContinued_ofText (t : Text) :
    Chunk.markContinued false ((ofText t).map (Chunk.setContinued false)) = ofText t := by
  have hf : Chunk.Flagged ([] ++ ofText t) := fun _ _ _ h hc => Chunk.isContinued_iff h hc
  exact (Chunk.eq_markContinued [] hf).symm

theorem toChunks_ofChunks_ofText (runtime : Runtime) (t : Text) :
    (ofChunks runtime (ofText t)).toChunks = ofText t := by
  have hc : ∀ c ∈ ofText t, (Cell.ofChunk c).toChunk = c.setContinued false :=
    fun c hc => toChunk_ofChunk (Chunk.wellFormed_of_mem_ofText hc)
  calc
    _ = Chunk.markContinued false ((ofText t).map fun c => (Cell.ofChunk c).toChunk) := by
      rw [toChunks, ofChunks, List.map_map]
      rfl
    _ = Chunk.markContinued false ((ofText t).map (Chunk.setContinued false)) := by
      rw [List.map_congr_left hc]
    _ = ofText t := markContinued_setContinued_ofText t

/-- What is printed of chunks is read. -/
theorem decode_print_ofChunks (runtime : Runtime) (cs : List Chunk) :
    decode (ofChunks runtime cs).print = .ok (ofChunks runtime cs) :=
  decode_print_of_storable (List.forall_mem_map.2 fun c _ => storable_ofChunk c)
    (List.forall_mem_map.2 fun c _ => integral_ofChunk c)

/-- The file of a notebook tells the chunks of the text it was made of, with their flags. They
can be read in it: the source of each cell between its newlines is the lines of a chunk, the
kind of the cell is its kind, and marking the chunks again sets their flags. -/
theorem print_ofText_injective :
    (∀ runtime t₁ t₂, (ofChunks runtime (ofText t₁)).print = (ofChunks runtime (ofText t₂)).print →
      ofText t₁ = ofText t₂) ∧
    ∀ runtime t, ∃ nb, decode (ofChunks runtime (ofText t)).print = .ok nb ∧
      nb.cells.map Cell.isCode = (ofText t).map Chunk.isCode ∧
      nb.cells.map (fun c => List.splitOn '\n' c.source.flatten) = (ofText t).map Chunk.lines ∧
      nb.toChunks = ofText t := by
  constructor
  · intro runtime t₁ t₂ h
    have hd := decode_print_ofChunks runtime (ofText t₁)
    rw [h, decode_print_ofChunks] at hd
    have hn : ofChunks runtime (ofText t₂) = ofChunks runtime (ofText t₁) := Except.ok.inj hd
    rw [← toChunks_ofChunks_ofText runtime t₁, ← hn, toChunks_ofChunks_ofText]
  · intro runtime t
    refine ⟨_, decode_print_ofChunks runtime _, ?_, ?_, toChunks_ofChunks_ofText runtime t⟩
    · rw [ofChunks, List.map_map]
      exact List.map_congr_left fun c _ => Artifact.isCode_ofChunk c
    · rw [ofChunks, List.map_map]
      refine List.map_congr_left fun c hc => ?_
      have hw := Chunk.wellFormed_of_mem_ofText hc
      exact textLines_ofChunk hw.nonempty hw.oneLine

/-- Two texts of a call with prose in it. They differ in break lines and in empty lines at the
edges of chunks, of which a notebook says nothing. -/
theorem print_ofText_injective_call :
    (ofChunks {} (ofText "f(\n#' x\n 1)".toList)).print =
      (ofChunks {} (ofText "\nf(\n#- y\n#' x\n#'\n 1)\n\n".toList)).print ∧
    ofText "f(\n#' x\n 1)".toList = ofText "\nf(\n#- y\n#' x\n#'\n 1)\n\n".toList := by
  have h : (ofChunks {} (ofText "f(\n#' x\n 1)".toList)).print =
      (ofChunks {} (ofText "\nf(\n#- y\n#' x\n#'\n 1)\n\n".toList)).print := by
    rfl
  exact ⟨h, print_ofText_injective.1 {} _ _ h⟩

end Weave.Notebook
