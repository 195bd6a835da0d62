import Weave.Proofs.Json.Record
import Weave.Report

/-!
# Reports in JSON read back

A dump of chunks is read by one who knows how chunks are told apart and takes nothing else:
prose has a kind and lines, code has a flag behind them. What is read is what was dumped, so
no two dumps of different chunks have the same text.

The summary of a conversion is read in the same way, unless the path of the artifact is no
text; then it tells nothing.
-/
namespace Weave.Report

open Json (Draft Fault Whole)

/-- What stands in a dump. The count is left as it was met. -/
structure Dump where
  target : Text
  count : Draft
  chunks : List Chunk

def readLines (depth : Nat) (d : Draft) : Except Fault (List Text) :=
  Draft.list (fun _ => Draft.text) depth d

def readProse (depth : Nat) (d : Draft) : Except Fault Chunk := do
  match ← d.object ["kind", "lines"] with
  | [kind, lines] =>
    if kind.text = .ok "prose".toList then return .prose (← readLines depth lines)
    else .error .misshapen
  | _ => .error .misshapen

def readCode (depth : Nat) (d : Draft) : Except Fault Chunk := do
  match ← d.object ["kind", "lines", "continued"] with
  | [kind, lines, continued] =>
    if kind.text = .ok "code".toList then
      return .code (← readLines depth lines) (← continued.truth)
    else .error .misshapen
  | _ => .error .misshapen

/-- The members of a chunk's object say which kind it is of, and its kind says so again. -/
def readChunk (depth : Nat) (d : Draft) : Except Fault Chunk :=
  match readProse depth d with
  | .ok c => .ok c
  | .error _ => readCode depth d

def readDump (d : Draft) : Except Fault Dump := do
  match ← d.object ["target", "count", "chunks"] with
  | [target, count, chunks] =>
    return ⟨← target.text, count, ← Draft.list readChunk Json.maxDepth chunks⟩
  | _ => .error .misshapen

section Layout

theorem readLines_layout (depth : Nat) (ls : List Text) :
    readLines (depth + 1) (Json.texts ls).layout = .ok ls := by
  rw [Json.texts, Json.layout, Json.layoutItems_eq_map, List.map_map]
  exact Draft.list_map fun _ _ => rfl

theorem readProse_layout (depth : Nat) (ls : List Text) :
    readProse (depth + 1) (chunkJson (.prose ls)).layout = .ok (.prose ls) := by
  have h := Draft.object_record [("kind", .str "prose".toList), ("lines", .texts ls)]
  simp only [List.map_cons, List.map_nil] at h
  rw [readProse, chunkJson, Chunk.Kind.name, h, ok_bind]
  simp only [readLines_layout, ok_bind]
  rfl

theorem readCode_layout (depth : Nat) (ls : List Text) (continued : Bool) :
    readCode (depth + 1) (chunkJson (.code ls continued)).layout = .ok (.code ls continued) := by
  have h := Draft.object_record
    [("kind", .str "code".toList), ("lines", .texts ls), ("continued", .bool continued)]
  simp only [List.map_cons, List.map_nil] at h
  rw [readCode, chunkJson, Chunk.Kind.name, h, ok_bind]
  simp only [readLines_layout, ok_bind]
  rfl

/-- Code has a member too many to be read as prose. -/
theorem readProse_layout_code (depth : Nat) (ls : List Text) (continued : Bool) :
    readProse depth (chunkJson (.code ls continued)).layout = .error .misshapen := by
  rw [readProse, chunkJson, Draft.object_record_of_ne (by simp), error_bind]

theorem readChunk_layout (depth : Nat) (c : Chunk) :
    readChunk (depth + 1) (chunkJson c).layout = .ok c := by
  cases c with
  | prose ls => rw [readChunk, readProse_layout]
  | code ls continued => rw [readChunk, readProse_layout_code, readCode_layout]

theorem readDump_layout (target : Target) (cs : List Chunk) :
    readDump (chunksJson target cs).layout =
      .ok ⟨target.name, (Json.nat cs.length).layout, cs⟩ := by
  have h := Draft.object_record [("target", .str target.name), ("count", .nat cs.length),
    ("chunks", .arr (cs.map chunkJson))]
  have hchunks :
      Draft.list readChunk Json.maxDepth (Json.arr (cs.map chunkJson)).layout = .ok cs := by
    rw [Json.layout, Json.layoutItems_eq_map, List.map_map]
    exact Draft.list_map fun c _ => readChunk_layout _ c
  simp only [List.map_cons, List.map_nil] at h
  rw [readDump, chunksJson, h, ok_bind]
  simp only [hchunks, ok_bind]
  rfl

end Layout

theorem whole_chunkJson (c : Chunk) : Whole (chunkJson c) := by
  cases c <;> simp [chunkJson]

theorem whole_chunksJson (target : Target) (cs : List Chunk) : Whole (chunksJson target cs) := by
  simp [chunksJson, whole_chunkJson]

theorem decode_chunks (target : Target) (cs : List Chunk) :
    Draft.decode readDump (chunks .json target cs) =
      .ok ⟨target.name, (Json.nat cs.length).layout, cs⟩ := by
  rw [chunks, encoded_ofJson, Draft.decode_layout (whole_chunksJson target cs), readDump_layout]

/-- A dump is one document, of which the target and the chunks are read as they were, and their
number too if it is one that a reader of numbers can hold. No two dumps have the same text. -/
theorem chunks_json_lossless :
    (∀ target cs, Draft.decode readDump (chunks .json target cs) =
        .ok ⟨target.name, (Json.nat cs.length).layout, cs⟩ ∧
      (cs.length < 2 ^ 64 → Draft.natBelow (2 ^ 64) (Json.nat cs.length).layout = .ok cs.length)) ∧
    ∀ target cs target' cs',
      chunks .json target cs = chunks .json target' cs' ↔ target = target' ∧ cs = cs' := by
  refine ⟨fun target cs => ⟨decode_chunks target cs, fun h => Draft.natBelow_layout h h⟩,
    fun target cs target' cs' => ⟨fun h => ?_, fun ⟨ht, hc⟩ => ht ▸ hc ▸ rfl⟩⟩
  have hread := decode_chunks target cs
  rw [h, decode_chunks] at hread
  obtain ⟨hname, -, hchunks⟩ := Dump.mk.inj (Except.ok.inj hread)
  have htarget := congrArg Target.ofName? hname
  rw [Target.ofName?_name, Target.ofName?_name] at htarget
  exact ⟨(Option.some.inj htarget).symm, hchunks.symm⟩

/-- Quotes, control characters and newlines in lines, and chunks without lines. -/
def awkward : List Chunk :=
  [.prose ["\"\\\n".toList, []], .code ["\x01\x7f".toList] true, .code [] false, .prose []]

theorem chunks_json_lossless_awkward :
    awkward.length < 2 ^ 64 ∧
      Draft.decode readDump (chunks .json .markdown awkward) =
        .ok ⟨"markdown".toList, (Json.nat 4).layout, awkward⟩ ∧
      Draft.natBelow (2 ^ 64) (Json.nat 4).layout = .ok 4 :=
  have h : awkward.length < 2 ^ 64 := by decide
  ⟨h, (chunks_json_lossless.1 .markdown awkward).1, (chunks_json_lossless.1 .markdown awkward).2 h⟩

section Summaries

/-- What a summary tells. The counts are left as they were met. -/
structure Summary where
  target : Text
  output : Text
  name : Text
  proseChunks : Draft
  codeChunks : Draft
  executed : Bool

def readSummary (d : Draft) : Except Fault Summary := do
  match ← d.object ["target", "output", "name", "prose_chunks", "code_chunks", "executed"] with
  | [target, output, name, proseChunks, codeChunks, executed] =>
    return ⟨← target.text, ← output.text, ← name.text, proseChunks, codeChunks,
      ← executed.truth⟩
  | _ => .error .misshapen

variable {g : Generated}

/-- The members of a summary, if the path of the artifact is a text. -/
def summaryMembers (g : Generated) : List (String × Json) :=
  [("target", .str g.target.name), ("output", .str g.output), ("name", .str g.name),
    ("prose_chunks", .nat g.proseChunks), ("code_chunks", .nat g.codeChunks),
    ("executed", .bool g.executed)]

theorem generated_of_isText (h : g.output.isText = true) :
    generated .json g = (Json.record (summaryMembers g)).print := by
  have hencode : (generatedData g).encode = .ok (Json.record (summaryMembers g)) := by
    simp only [generatedData, Json.Data.record, List.map_cons, List.map_nil, Json.Data.encode,
      Json.Data.encodeMembers, h, if_true, ok_bind]
    rfl
  rw [generated, encoded, hencode]

/-- A path that is no text leaves nothing of the summary. -/
theorem generated_of_not_isText (h : g.output.isText = false) :
    generated .json g = "\x7b\x7d".toList := by
  have hencode : (generatedData g).encode = .error Json.Data.pathNotText := by
    simp only [generatedData, Json.Data.record, List.map_cons, List.map_nil, Json.Data.encode,
      Json.Data.encodeMembers, h, Bool.false_eq_true, if_false, ok_bind]
    rfl
  rw [generated, encoded, hencode]

theorem whole_summary (g : Generated) : Whole (Json.record (summaryMembers g)) := by
  simp [summaryMembers]

theorem decode_generated (h : g.output.isText = true) :
    Draft.decode readSummary (generated .json g) =
      .ok ⟨g.target.name, g.output, g.name, (Json.nat g.proseChunks).layout,
        (Json.nat g.codeChunks).layout, g.executed⟩ := by
  have hobject := Draft.object_record (summaryMembers g)
  simp only [summaryMembers, List.map_cons, List.map_nil] at hobject
  rw [generated_of_isText h, Draft.decode_layout (whole_summary g), readSummary, summaryMembers,
    hobject, ok_bind]
  rfl

end Summaries

end Weave.Report
