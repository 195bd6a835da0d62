import Weave.Chunk.Basic
import Weave.Error
import Weave.Json.Data

/-!
# Notebooks

A notebook has one cell for each chunk and describes its kernel and language.
The description comes from a runtime that the caller supplies, so a notebook
is a function of the chunks and the runtime alone. Its text is the printed
JSON of its fields in a fixed order; the kind of a cell is its first member.
-/
namespace Weave

namespace Notebook

/-- The kernel and language that a notebook is written for. -/
structure Runtime where
  nbformat : UInt32 := 4
  nbformatMinor : UInt32 := 3
  language : Text := "julia".toList
  displayLanguage : Text := "Julia".toList
  version : Text := "1.0.0".toList
  fileExtension : Text := ".jl".toList
  mimetype : Text := "application/julia".toList
deriving Repr, DecidableEq

namespace Runtime

/-- The language and the first two parts of its version. -/
def kernelName (r : Runtime) : Text :=
  r.language ++ '-' :: Text.joinWith ['.'] ((Text.splitOn '.' r.version).take 2)

def displayName (r : Runtime) : Text :=
  r.displayLanguage ++ ' ' :: r.version

end Runtime

structure Kernel where
  displayName : Text
  language : Text
  name : Text
deriving Repr, DecidableEq

structure Language where
  fileExtension : Text
  mimetype : Text
  name : Text
  version : Text
deriving Repr, DecidableEq

structure Metadata where
  kernel : Kernel
  language : Language
deriving Repr, DecidableEq

def Runtime.metadata (r : Runtime) : Metadata where
  kernel := ⟨r.displayName, r.language, r.kernelName⟩
  language := ⟨r.fileExtension, r.mimetype, r.language, r.version⟩

/-- A cell keeps what an execution has left in it. -/
inductive Cell where
  | markdown (metadata : List (Text × Json)) (outputs : List Json) (source : List Text)
  | code (executionCount : Option UInt64) (metadata : List (Text × Json)) (outputs : List Json)
      (source : List Text)
deriving Repr

namespace Cell

def source : Cell → List Text
  | markdown _ _ source => source
  | code _ _ _ source => source

def isCode : Cell → Bool
  | markdown _ _ _ => false
  | code _ _ _ _ => true

/-- The lines of a cell are ended, except the last. -/
def sourceLines : List Text → List Text
  | [] => []
  | [line] => [line]
  | line :: rest => (line ++ ['\n']) :: sourceLines rest

/-- The cell of a chunk, not yet executed. -/
def ofChunk : Chunk → Cell
  | .prose ls => markdown [] [] (sourceLines ls)
  | .code ls _ => code none [] [] (sourceLines ls)

end Cell

end Notebook

structure Notebook where
  cells : List Notebook.Cell
  metadata : Notebook.Metadata
  nbformat : UInt32
  nbformatMinor : UInt32
deriving Repr

namespace Notebook

def ofChunks (runtime : Runtime) (chunks : List Chunk) : Notebook where
  cells := chunks.map Cell.ofChunk
  metadata := runtime.metadata
  nbformat := runtime.nbformat
  nbformatMinor := runtime.nbformatMinor

def Cell.toJson : Cell → Json
  | markdown metadata outputs source => .record [
      ("cell_type", .str "markdown".toList),
      ("metadata", .obj metadata),
      ("outputs", .arr outputs),
      ("source", .texts source)]
  | code executionCount metadata outputs source => .record [
      ("cell_type", .str "code".toList),
      ("execution_count", match executionCount with
        | some n => .nat n.toNat
        | none => .null),
      ("metadata", .obj metadata),
      ("outputs", .arr outputs),
      ("source", .texts source)]

def Kernel.toJson (k : Kernel) : Json := .record [
  ("display_name", .str k.displayName),
  ("language", .str k.language),
  ("name", .str k.name)]

def Language.toJson (l : Language) : Json := .record [
  ("file_extension", .str l.fileExtension),
  ("mimetype", .str l.mimetype),
  ("name", .str l.name),
  ("version", .str l.version)]

def Metadata.toJson (m : Metadata) : Json := .record [
  ("kernelspec", m.kernel.toJson),
  ("language_info", m.language.toJson)]

def toJson (nb : Notebook) : Json := .record [
  ("cells", .arr (nb.cells.map Cell.toJson)),
  ("metadata", nb.metadata.toJson),
  ("nbformat", .nat nb.nbformat.toNat),
  ("nbformat_minor", .nat nb.nbformatMinor.toNat)]

/-- The printed JSON of a notebook. -/
def print (nb : Notebook) : Text :=
  nb.toJson.print

/-- The text of a notebook's file, or why there is none. -/
def encode (nb : Notebook) : Except Error Text :=
  match (Json.Data.ofJson nb.toJson).encode with
  | .ok j => .ok j.print
  | .error what => .error (.encoding what)

/-- There is no path in a notebook, so it has a text. -/
theorem encode_eq_ok (nb : Notebook) : nb.encode = .ok nb.print := by
  rw [encode, Json.Data.encode_ofJson]
  rfl

@[simp]
theorem length_sourceLines (ls : List Text) : (Cell.sourceLines ls).length = ls.length := by
  fun_induction Cell.sourceLines ls <;> simp_all

@[simp]
theorem length_cells_ofChunks (runtime : Runtime) (chunks : List Chunk) :
    (ofChunks runtime chunks).cells.length = chunks.length := by
  simp [ofChunks]

end Notebook

end Weave
