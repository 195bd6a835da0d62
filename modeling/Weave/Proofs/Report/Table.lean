import Weave.Proofs.Chunk.Image
import Weave.Report

/-!
# The table of chunks

The table has one line for each chunk below a title, the names of its columns and a rule. A
number or a word that is wider than its column is kept whole and still ends at a space, so the
first four words of a line are the same whatever their widths and whatever the text of the
chunk, and behind them and one space the rest of the line is the preview.
-/
namespace Weave.Report

/-- What stands between the spaces of a line. -/
def words (line : Text) : List Text :=
  (List.splitOn ' ' line).filter (· ≠ [])

section Words

variable {word : Text}

theorem words_append_space (a b : Text) : words (a ++ ' ' :: b) = words a ++ words b := by
  simp only [words, List.splitOn_eq_splitOnP]
  rw [List.splitOnP_append_cons a b (by simp), List.filter_append]

theorem words_word (hn : word ≠ []) (hs : ' ' ∉ word) : words word = [word] := by
  have hsplit : word.splitOnP (· == ' ') = [word] :=
    List.splitOnP_eq_singleton fun c hc => by simpa using ne_of_mem_of_not_mem hc hs
  rw [words, List.splitOn_eq_splitOnP, hsplit]
  simpa using hn

theorem words_append_spaces (a : Text) (n : Nat) : words (a ++ List.replicate n ' ') = words a := by
  induction n generalizing a with
  | zero => simp
  | succ n ih =>
      have hspace : words (a ++ ' ' :: []) = words a := by
        rw [words_append_space]
        exact List.append_nil _
      rw [List.replicate_succ, ← hspace, ← ih (a ++ [' ']), List.append_assoc]
      rfl

/-- A word fills its column or reaches beyond it, but it is one word. -/
theorem words_pad (width : Nat) (hn : word ≠ []) (hs : ' ' ∉ word) :
    words (pad width word) = [word] := by
  rw [pad, words_append_spaces, words_word hn hs]

end Words

section Numbers

theorem ofNat_eq_toDigits (n : Nat) : Text.ofNat n = Nat.toDigits 10 n := by
  rw [Text.ofNat, Nat.toString_eq_repr, Nat.toList_repr]

theorem ofNat_ne_nil (n : Nat) : Text.ofNat n ≠ [] := by
  rw [ofNat_eq_toDigits]
  exact Nat.toDigits_ne_nil

theorem not_mem_ofNat {c : Char} (hc : c.isDigit = false) (n : Nat) : c ∉ Text.ofNat n := by
  intro hm
  rw [ofNat_eq_toDigits] at hm
  have hd := Nat.isDigit_of_mem_toDigits (by decide) (by decide) hm
  exact absurd hd (by simp [hc])

end Numbers

/-- How the table says whether a chunk is continued. -/
def flag (c : Chunk) : Text :=
  if c.isContinued then "yes".toList else ['-']

/-- What is told of a chunk before its preview. -/
def fields (index : Nat) (c : Chunk) : List Text :=
  [Text.ofNat index, c.kind.name, Text.ofNat c.lines.length, flag c]

/-- The lines of a chunk in one text. -/
def joined (c : Chunk) : Text :=
  List.intercalate ['\\', 'n'] c.lines

/-- What a line of the table shows of a chunk. -/
structure Shows (line : Text) (index : Nat) (c : Chunk) : Prop where
  first : (words line).take 4 = fields index c
  /-- Behind the words and one space, the rest of the line is the preview. -/
  preview : ∃ front shown, line = front ++ ' ' :: shown ∧ words front = fields index c ∧
    ((joined c).length ≤ 40 → shown = joined c) ∧
    (40 < (joined c).length → shown = (joined c).take 37 ++ "...".toList) ∧ shown.length ≤ 40

section Rows

variable {c : Chunk}

/-- The columns before the preview. -/
def columns (index : Nat) (c : Chunk) : Text :=
  pad 6 (Text.ofNat index) ++ ' ' :: pad 6 c.kind.name ++ ' ' :: pad 6 (Text.ofNat c.lines.length)
    ++ ' ' :: pad 10 (flag c)

theorem chunkRow_eq (index : Nat) (c : Chunk) :
    chunkRow index c = (columns index c ++ ' ' :: preview c) ++ ['\n'] := by
  simp [chunkRow, row, columns, flag]

theorem words_columns (index : Nat) (c : Chunk) : words (columns index c) = fields index c := by
  have hnum : ∀ n, words (pad 6 (Text.ofNat n)) = [Text.ofNat n] := fun n =>
    words_pad 6 (ofNat_ne_nil n) (not_mem_ofNat (by decide) n)
  have hkind : words (pad 6 c.kind.name) = [c.kind.name] := by
    cases c.kind <;> exact words_pad 6 (by decide) (by decide)
  have hflag : words (pad 10 (flag c)) = [flag c] := by
    rw [flag]
    split <;> exact words_pad 10 (by decide) (by decide)
  simp only [columns, List.append_assoc, List.cons_append, words_append_space, hnum, hkind, hflag]
  rfl

/-- A preview is the text or, of a longer one, its beginning and three dots. -/
theorem preview_eq (c : Chunk) : preview c =
    if (joined c).length ≤ 40 then joined c else (joined c).take 37 ++ "...".toList := rfl

theorem length_preview_le (c : Chunk) : (preview c).length ≤ 40 := by
  have hdots : "...".toList.length = 3 := rfl
  rw [preview_eq]
  split
  · assumption
  · rw [List.length_append, List.length_take, hdots]
    omega

theorem shows_columns (index : Nat) (c : Chunk) :
    Shows (columns index c ++ ' ' :: preview c) index c := by
  refine ⟨?_, columns index c, preview c, rfl, words_columns index c, fun h => ?_, fun h => ?_,
    length_preview_le c⟩
  · rw [words_append_space, words_columns]
    rfl
  · rw [preview_eq, if_pos h]
  · rw [preview_eq, if_neg (by omega)]

theorem newline_not_mem_pad {t : Text} (h : '\n' ∉ t) (width : Nat) : '\n' ∉ pad width t := by
  simp [pad, h]

theorem newline_not_mem_columns (index : Nat) (c : Chunk) : '\n' ∉ columns index c := by
  have hnum : ∀ n, '\n' ∉ Text.ofNat n := not_mem_ofNat (by decide)
  have hkind : '\n' ∉ c.kind.name := by
    cases c.kind <;> decide
  have hflag : '\n' ∉ flag c := by
    rw [flag]
    split <;> decide
  simp [columns, newline_not_mem_pad, hnum, hkind, hflag]

theorem newline_not_mem_intercalate {ls : List Text} (h : ∀ line ∈ ls, '\n' ∉ line) :
    '\n' ∉ List.intercalate ['\\', 'n'] ls := by
  induction ls with
  | nil => simp
  | cons line ls ih =>
      have hline := h line (by simp)
      have ih := ih fun l hl => h l (by simp [hl])
      cases ls with
      | nil => simpa using hline
      | cons next ls =>
          rw [List.intercalate_cons_cons]
          simp only [List.mem_append, not_or]
          exact ⟨⟨hline, by decide⟩, ih⟩

/-- The newlines between the lines of a chunk are written out, and its lines have none. -/
theorem newline_not_mem_preview (h : ∀ line ∈ c.lines, '\n' ∉ line) : '\n' ∉ preview c := by
  have hj : '\n' ∉ joined c := newline_not_mem_intercalate h
  have hshort : '\n' ∉ (joined c).take 37 := fun hm => hj (List.mem_of_mem_take hm)
  rw [preview_eq]
  split
  · exact hj
  · simp [hshort]

end Rows

section Lines

variable {cs : List Chunk}

/-- The line of a chunk without its newline. -/
def chunkLine (index : Nat) (c : Chunk) : Text :=
  columns index c ++ ' ' :: preview c

def headerLine : Text :=
  pad 6 "Index".toList ++ ' ' :: pad 6 "Kind".toList ++ ' ' :: pad 6 "Lines".toList
    ++ ' ' :: pad 10 "Continued".toList ++ ' ' :: "Preview".toList

def title (target : Target) (cs : List Chunk) : Text :=
  Text.ofNat cs.length ++ " chunks (".toList ++ target.name ++ "):".toList

/-- The lines of the table, the title first. -/
def tableLines (target : Target) (cs : List Chunk) : List Text :=
  title target cs :: headerLine :: List.replicate 70 '-' :: cs.mapIdx chunkLine

theorem chunkRows_eq (index : Nat) (cs : List Chunk) :
    chunkRows index cs = Text.unlines (cs.mapIdx fun i c => chunkLine (index + i) c) := by
  induction cs generalizing index with
  | nil => rfl
  | cons c cs ih =>
      have hnext : ∀ i, index + 1 + i = index + (i + 1) := by omega
      simp only [chunkRows, chunkRow_eq, ih, List.mapIdx_cons, Text.unlines, List.flatMap_cons,
        chunkLine, hnext, Nat.add_zero]

theorem chunksText_eq (target : Target) (h : cs ≠ []) :
    chunksText target cs = Text.unlines (tableLines target cs) := by
  rw [chunksText, if_neg h, chunkRows_eq]
  simp [tableLines, Text.unlines, title, header, headerLine, row, rule]

theorem newline_not_mem_title (target : Target) (cs : List Chunk) : '\n' ∉ title target cs := by
  have hnum : '\n' ∉ Text.ofNat cs.length := not_mem_ofNat (by decide) _
  have hname : '\n' ∉ target.name := by
    cases target <;> decide
  simp [title, hnum, hname]

/-- Every newline of the table ends one of its lines. -/
theorem newline_not_mem_tableLines (target : Target)
    (h : ∀ c ∈ cs, ∀ line ∈ c.lines, '\n' ∉ line) : ∀ line ∈ tableLines target cs, '\n' ∉ line := by
  intro line hline
  simp only [tableLines, List.mem_cons] at hline
  rcases hline with rfl | rfl | rfl | hrow
  · exact newline_not_mem_title target cs
  · decide
  · simp
  · obtain ⟨i, hi, rfl⟩ := List.mem_mapIdx.1 hrow
    have hpreview := newline_not_mem_preview (h _ (List.getElem_mem hi))
    simp [chunkLine, newline_not_mem_columns, hpreview]

end Lines

/-- The table of a text's chunks has three lines and one for each chunk, which shows the chunk
whatever its text is and however wide its numbers are. -/
theorem chunks_text_rows {content : Text} (h : Chunk.ofText content ≠ []) (target : Target) :
    ∃ rows, chunks .text target (Chunk.ofText content) = Text.unlines rows ∧
      (∀ line ∈ rows, '\n' ∉ line) ∧ rows.length = (Chunk.ofText content).length + 3 ∧
      ∀ i c, (Chunk.ofText content)[i]? = some c →
        ∃ line, rows[i + 3]? = some line ∧ Shows line i c := by
  refine ⟨tableLines target (Chunk.ofText content), chunksText_eq target h,
    newline_not_mem_tableLines target fun c hc => (Chunk.wellFormed_of_mem_ofText hc).oneLine,
    by simp [tableLines], fun i c hi => ⟨chunkLine i c, ?_, shows_columns i c⟩⟩
  simp [tableLines, hi]

/-- A statement that a line of text interrupts. -/
theorem chunks_text_rows_interrupted :
    Chunk.ofText "#' text\nx =\n#' more\n  1\n".toList ≠ [] ∧
      ∃ rows, chunks .text .script (Chunk.ofText "#' text\nx =\n#' more\n  1\n".toList) =
          Text.unlines rows ∧
        (∀ line ∈ rows, '\n' ∉ line) ∧
        rows.length = (Chunk.ofText "#' text\nx =\n#' more\n  1\n".toList).length + 3 ∧
        ∀ i c, (Chunk.ofText "#' text\nx =\n#' more\n  1\n".toList)[i]? = some c →
          ∃ line, rows[i + 3]? = some line ∧ Shows line i c :=
  have h : Chunk.ofText "#' text\nx =\n#' more\n  1\n".toList ≠ [] := by decide
  ⟨h, chunks_text_rows h .script⟩

end Weave.Report
