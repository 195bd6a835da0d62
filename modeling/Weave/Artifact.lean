import Weave.Chunk.Basic

/-!
# Artifacts without cells

The texts of scripts and of documents.
-/

/-!
## Scripts

A script keeps the code chunks and drops the prose. Every line is ended, and an
empty line follows each chunk.
-/
namespace Weave.Script

def ofChunk : Chunk → Text
  | .prose _ => []
  | .code ls _ => Text.unlines ls ++ ['\n']

def ofChunks (chunks : List Chunk) : Text :=
  chunks.flatMap ofChunk

example : ofChunks [.prose ["Hello".toList], .code ["x = 1".toList] false] =
    "x = 1\n\n".toList := by decide

end Weave.Script

/-!
## Markdown documents

Prose is written as it is and code stands between two fences. The default
fence opens an executable example that carries the document's name, and the
examples of continued chunks say so, that the documentation build evaluates
them together.
-/
namespace Weave.Markdown

/-- The lines before and behind a code block. -/
structure Fence where
  opening : Text
  closing : Text
deriving Repr, DecidableEq

/-- How the opening of an executable example begins. -/
def exampleOpening : Text := "```@example".toList

def continuedSuffix : Text := "; continued = true".toList

namespace Fence

def defaultClosing : Text := "```".toList

/-- The example block of a document. -/
def exampleOf (name : Text) : Fence :=
  ⟨exampleOpening ++ ' ' :: name, defaultClosing⟩

def isExample (fence : Fence) : Bool :=
  Text.beginsWith exampleOpening fence.opening

/-- The line that opens a chunk. Only examples tell that they are continued. -/
def openingFor (fence : Fence) (continued : Bool) : Text :=
  fence.opening ++ if continued && fence.isExample then continuedSuffix else []

end Fence

def ofChunk (fence : Fence) : Chunk → Text
  | .prose ls => Text.unlines ls ++ ['\n']
  | .code ls continued =>
    Text.unlines ([fence.openingFor continued] ++ ls ++ [fence.closing]) ++ ['\n']

def ofChunks (fence : Fence) (chunks : List Chunk) : Text :=
  chunks.flatMap (ofChunk fence)

end Weave.Markdown
