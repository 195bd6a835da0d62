import Weave.Config
import Weave.Execution.Executor
import Weave.Source

/-!
# Conversions

A conversion checks the output directory, names the document, reads the source,
tailors, cuts and renders it between the two hooks, and writes the artifact to
the output directory under the document's name. Only a notebook may then be
executed. A step that fails ends the conversion, so the artifact is there when
its execution fails and in no other failure.
-/
namespace Weave

/-- What a conversion has made. -/
structure Generated where
  target : Target
  output : Path
  name : Text
  proseChunks : Nat
  codeChunks : Nat
  executed : Bool
deriving Repr, DecidableEq

namespace Conversion

/-- The path of the artifact. -/
def outputPath (target : Target) (name : Text) (outdir : Path) : Path :=
  Path.join outdir (name ++ '.' :: target.extension)

/-- The chunks of a source's content. -/
def chunksOf (config : Config) (target : Target) (name content : Text) : List Chunk :=
  Source.chunks target name (config.preprocess content)

/-- The text of the artifact made from a source's content. -/
def artifact (config : Config) (target : Target) (name content : Text) : Except Error Text :=
  (config.render target name (chunksOf config target name content)).map config.postprocess

/-- Whether the artifact is executed once it is written. -/
def executes (config : Config) (target : Target) : Bool :=
  target = .notebook && config.execute

def nameFor (config : Config) (input : Path) : Run Text :=
  Run.ofExcept (config.nameFor input)

def generate (executor : Executor) (config : Config) (target : Target) (input outdir : Path) :
    Run Generated := do
  Run.requireDirectory outdir
  Run.note .info ("generating ".toList ++ target.name ++ " from ".toList ++ input.shown) []
  let name ← nameFor config input
  let output := outputPath target name outdir
  let content ← Run.readText input
  let chunks := chunksOf config target name content
  let text ← Run.ofExcept (artifact config target name content)
  Run.note .info ("writing result to ".toList ++ output.shown) []
  Run.writeText output text
  if executes config target then executor.executeNotebook output
  return {
    target, output, name
    proseChunks := chunks.countP Chunk.isProse
    codeChunks := chunks.countP Chunk.isCode
    executed := executes config target }

end Conversion

end Weave
