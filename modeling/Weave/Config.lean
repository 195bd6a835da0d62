import Weave.Artifact
import Weave.Notebook.Basic
import Weave.Target
import Weave.Text.Replacement

/-!
# Settings of a conversion

One configuration serves all three targets; a target takes no notice of what
concerns another. The two hooks are any functions on texts. Edits are hooks
that can be written down.
-/
namespace Weave

/-- A change to a text. -/
inductive Edit where
  | replace (old new : Text)
  | prepend (text : Text)
  | append (text : Text)
deriving Repr, DecidableEq

namespace Edit

def apply : Edit → Text → Text
  | replace old new, t => Text.replaceAll old new t
  | prepend text, t => text ++ t
  | append text, t => t ++ text

/-- All edits, one after the other. -/
def applyAll (edits : List Edit) (t : Text) : Text :=
  edits.foldl (fun t e => e.apply t) t

end Edit

structure Config where
  /-- The name of the document, instead of the stem of its source. -/
  name : Option Text := none
  preprocess : Text → Text := id
  postprocess : Text → Text := id
  /-- The fence of code blocks, instead of the example fence. -/
  fence : Option Markdown.Fence := none
  /-- Whether a notebook is executed once it is written. -/
  execute : Bool := false
  runtime : Notebook.Runtime := {}
  /-- The program that executes notebooks. -/
  tool : Path := "jupyter".toList

namespace Config

/-- The name of the document made from a source: the configured one, whatever
it is, or else the stem of the source's file name, if that is a text. -/
def nameFor (config : Config) (input : Path) : Except Error Text :=
  match config.name with
  | some name => .ok name
  | none =>
    match input.stem?.filter Path.isText with
    | some stem => .ok stem
    | none => .error (.nameless input.shown)

def fenceFor (config : Config) (name : Text) : Markdown.Fence :=
  config.fence.getD (.exampleOf name)

/-- The text of the artifact for a target. -/
def render (config : Config) (target : Target) (name : Text) (chunks : List Chunk) :
    Except Error Text :=
  match target with
  | .script => .ok (Script.ofChunks chunks)
  | .markdown => .ok (Markdown.ofChunks (config.fenceFor name) chunks)
  | .notebook => (Notebook.ofChunks config.runtime chunks).encode

/-- A description for whoever looks for a mistake. The hooks are left out. -/
def describe (config : Config) : Text :=
  let optional (t : Option Text) : Text := match t with
    | some t => "Some(".toList ++ t ++ ")".toList
    | none => "None".toList
  let fence := config.fence.map fun f =>
    "CodeFence \x7b open: ".toList ++ f.opening.quoted ++ ", close: ".toList ++ f.closing.quoted
      ++ " \x7d".toList
  let r := config.runtime
  let runtime :=
    "NotebookRuntime \x7b nbformat: ".toList ++ Text.ofNat r.nbformat.toNat
      ++ ", nbformat_minor: ".toList ++ Text.ofNat r.nbformatMinor.toNat
      ++ ", language: ".toList ++ r.language.quoted
      ++ ", display_language: ".toList ++ r.displayLanguage.quoted
      ++ ", version: ".toList ++ r.version.quoted
      ++ ", file_extension: ".toList ++ r.fileExtension.quoted
      ++ ", mimetype: ".toList ++ r.mimetype.quoted ++ " \x7d".toList
  "Config \x7b name: ".toList ++ optional (config.name.map Text.quoted)
    ++ ", codefence: ".toList ++ optional fence
    ++ ", execute: ".toList ++ (if config.execute then "true" else "false").toList
    ++ ", runtime: ".toList ++ runtime
    ++ ", jupyter: ".toList ++ config.tool.quoted ++ ", .. \x7d".toList

/-- A text is made of any chunks, whatever the target. -/
theorem exists_render (config : Config) (target : Target) (name : Text) (chunks : List Chunk) :
    ∃ text, config.render target name chunks = .ok text := by
  cases target with
  | script => exact ⟨_, rfl⟩
  | markdown => exact ⟨_, rfl⟩
  | notebook => exact ⟨_, Notebook.encode_eq_ok _⟩

end Config

end Weave
