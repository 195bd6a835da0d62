import Weave.Conversion

/-!
# Reports

What is shown of a result: a sentence or a table for people, or one JSON
object. In the table a number or word that is wider than its column pushes the
rest to the right; only the preview is cut.
-/
namespace Weave.Report

inductive Format where
  | text
  | json
deriving Repr, DecidableEq

/-- Any word but the one for JSON asks for text. -/
def Format.ofWord (word : Text) : Format :=
  if Text.isWord "json" word then .json else .text

/-- Data as they are printed in JSON. An empty object stands for those of which no JSON is
made. -/
def encoded (d : Json.Data) : Text :=
  match d.encode with
  | .ok j => j.print
  | .error _ => "\x7b\x7d".toList

def generatedData (g : Generated) : Json.Data := .record [
  ("target", .str g.target.name),
  ("output", .path g.output),
  ("name", .str g.name),
  ("prose_chunks", .int g.proseChunks),
  ("code_chunks", .int g.codeChunks),
  ("executed", .bool g.executed)]

def generatedText (g : Generated) : Text :=
  "Wrote ".toList ++ g.target.name ++ ' ' :: g.output.shown ++ " (".toList
    ++ Text.ofNat g.proseChunks ++ " prose, ".toList ++ Text.ofNat g.codeChunks
    ++ " code chunks)".toList ++ (if g.executed then ", executed".toList else []) ++ ['\n']

def generated (format : Format) (g : Generated) : Text :=
  match format with
  | .text => generatedText g
  | .json => encoded (generatedData g)

def chunkJson : Chunk → Json
  | .prose ls => .record [("kind", .str Chunk.Kind.prose.name), ("lines", .texts ls)]
  | .code ls continued => .record [
      ("kind", .str Chunk.Kind.code.name), ("lines", .texts ls), ("continued", .bool continued)]

def chunksJson (target : Target) (chunks : List Chunk) : Json := .record [
  ("target", .str target.name),
  ("count", .nat chunks.length),
  ("chunks", .arr (chunks.map chunkJson))]

/-- Fills a text with spaces up to a width, and cuts nothing. -/
def pad (width : Nat) (t : Text) : Text :=
  t ++ List.replicate (width - t.length) ' '

/-- How many characters of a chunk its row shows. -/
def previewWidth : Nat := 40

/-- A text of more characters than the width ends in three dots. -/
def shorten (width : Nat) (t : Text) : Text :=
  if t.length ≤ width then t
  else if width ≤ 3 then t.take width
  else t.take (width - 3) ++ "...".toList

/-- The lines of a chunk in one, with the newlines written out. -/
def preview (c : Chunk) : Text :=
  shorten previewWidth (Text.joinWith "\\n".toList c.lines)

def row (index kind lines continued preview : Text) : Text :=
  pad 6 index ++ ' ' :: pad 6 kind ++ ' ' :: pad 6 lines ++ ' ' :: pad 10 continued
    ++ ' ' :: preview ++ ['\n']

def header : Text :=
  row "Index".toList "Kind".toList "Lines".toList "Continued".toList "Preview".toList

def rule : Text :=
  List.replicate 70 '-' ++ ['\n']

def chunkRow (index : Nat) (c : Chunk) : Text :=
  row (Text.ofNat index) c.kind.name (Text.ofNat c.lines.length)
    (if c.isContinued then "yes".toList else ['-']) (preview c)

def chunkRows (index : Nat) : List Chunk → Text
  | [] => []
  | c :: rest => chunkRow index c ++ chunkRows (index + 1) rest

def chunksText (target : Target) (chunks : List Chunk) : Text :=
  if chunks = [] then "No chunks found for target: ".toList ++ target.name ++ ['\n']
  else
    Text.ofNat chunks.length ++ " chunks (".toList ++ target.name ++ "):\n".toList
      ++ header ++ rule ++ chunkRows 0 chunks

def chunks (format : Format) (target : Target) (chunks : List Chunk) : Text :=
  match format with
  | .text => chunksText target chunks
  | .json => encoded (.ofJson (chunksJson target chunks))

def error (format : Format) (e : Error) : Text :=
  match format with
  | .text => e.message
  | .json => encoded (.ofJson (.record [("error", .str e.message)]))

/-- What is JSON already is printed as it is. -/
theorem encoded_ofJson (j : Json) : encoded (.ofJson j) = j.print := by
  rw [encoded, Json.Data.encode_ofJson]

end Weave.Report
