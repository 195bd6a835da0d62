import Weave.Json.Shape
import Weave.Notebook.Basic

/-!
# Reading notebooks

A notebook is read from its text by shape. Its own records may come as objects
or as arrays of their fields, and members that a notebook does not know are
dropped. A cell is read as a whole before its members are looked at, because
its kind may stand anywhere in it; only a kind that is unknown or given twice
is refused at once.
-/
namespace Weave.Notebook

open Json (Fault Draft)
open Json.Draft (NamedField)

/-- The members of a cell other than its kind, in an object or in an array. -/
inductive Cell.Content where
  | named (members : List (Text × Json))
  | listed (items : List Json)

namespace Cell

inductive Kind where
  | markdown
  | code
deriving Repr, DecidableEq

def Kind.read (d : Draft) : Except Fault Kind := do
  let word ← d.text
  if word = "markdown".toList then .ok .markdown
  else if word = "code".toList then .ok .code
  else .error .misshapen

def kindMember : Text := "cell_type".toList

/-- Reads the members of a cell and sets its kind apart. -/
def readMembers (depth : Nat) : List (Json.Leaf Text × Draft) → Option Kind →
    Except Fault (Option Kind × List (Text × Json))
  | [], kind => .ok (kind, [])
  | (key, value) :: rest, kind => do
    let key ← key.value
    if key = kindMember then
      if kind.isSome then .error .misshapen
      else do
        let kind ← Kind.read value
        readMembers depth rest (some kind)
    else do
      let value ← value.json depth
      let (kind, members) ← readMembers depth rest kind
      return (kind, (key, value) :: members)

/-- The cell's kind, which comes first in an array, and its content. -/
def readContent : Nat → Draft → Except Fault (Kind × Content)
  | depth + 1, .obj members stop => do
    let (kind, members) ← readMembers depth members none
    match stop, kind with
    | some f, _ => .error f
    | none, none => .error .misshapen
    | none, some kind => .ok (kind, .named members)
  | depth + 1, .arr items stop => do
    match items, stop with
    | [], some f => .error f
    | [], none => .error .misshapen
    | item :: items, stop =>
      let kind ← Kind.read item
      let items ← Draft.jsonItems depth items
      match stop with
      | some f => .error f
      | none => .ok (kind, .listed items)
  | 0, .obj _ _ => .error .malformed
  | 0, .arr _ _ => .error .malformed
  | _, d => .error d.mismatch

def text? : Json → Option Text
  | .str value => some value
  | _ => none

def source? : Json → Option (List Text)
  | .arr items => items.mapM text?
  | _ => none

def outputs? : Json → Option (List Json)
  | .arr items => some items
  | _ => none

def metadata? : Json → Option (List (Text × Json))
  | .obj members => some members
  | _ => none

def executionCount? : Json → Option (Option UInt64)
  | .null => some none
  | .int value =>
    if 0 ≤ value ∧ value < 2 ^ 64 then some (some (UInt64.ofNat value.toNat)) else none
  | _ => none

/-- The one member of a name. There is no answer where the name is given twice. -/
def member? (name : String) (members : List (Text × Json)) : Option (Option Json) :=
  match members.filter fun m => m.1 == name.toList with
  | [] => some none
  | [m] => some (some m.2)
  | _ => none

def markdown? (metadata outputs source : Json) : Option Cell :=
  return markdown (← metadata? metadata) (← outputs? outputs) (← source? source)

def code? (executionCount metadata outputs source : Json) : Option Cell :=
  return code (← executionCount? executionCount) (← metadata? metadata) (← outputs? outputs)
    (← source? source)

/-- The cell of a kind. The execution count alone may be missing, and a markdown
cell has none. -/
def ofContent? : Kind → Content → Option Cell
  | .markdown, .listed [metadata, outputs, source] => markdown? metadata outputs source
  | .code, .listed [executionCount, metadata, outputs, source] =>
    code? executionCount metadata outputs source
  | _, .listed _ => none
  | .markdown, .named members => do
    markdown? (← (← member? "metadata" members)) (← (← member? "outputs" members))
      (← (← member? "source" members))
  | .code, .named members => do
    let executionCount ← member? "execution_count" members
    code? (executionCount.getD .null) (← (← member? "metadata" members))
      (← (← member? "outputs" members)) (← (← member? "source" members))

def read (depth : Nat) (d : Draft) : Except Fault Cell := do
  let (kind, content) ← readContent depth d
  match ofContent? kind content with
  | some cell => .ok cell
  | none => .error .misshapen

end Cell

def textField (name : String) : NamedField Text :=
  ⟨name.toList, fun _ d => d.text⟩

def Kernel.read (depth : Nat) (d : Draft) : Except Fault Kernel := do
  match ← d.record [textField "display_name", textField "language", textField "name"] depth with
  | [displayName, language, name] => .ok ⟨displayName, language, name⟩
  | _ => .error .misshapen

def Language.read (depth : Nat) (d : Draft) : Except Fault Language := do
  let fields := [textField "file_extension", textField "mimetype", textField "name",
    textField "version"]
  match ← d.record fields depth with
  | [fileExtension, mimetype, name, version] => .ok ⟨fileExtension, mimetype, name, version⟩
  | _ => .error .misshapen

/-- A field of the metadata. -/
inductive Metadata.Part where
  | kernel (k : Kernel)
  | language (l : Language)

def Metadata.fields : List (NamedField Metadata.Part) := [
  ⟨"kernelspec".toList, fun depth d => .kernel <$> Kernel.read depth d⟩,
  ⟨"language_info".toList, fun depth d => .language <$> Language.read depth d⟩]

def Metadata.read (depth : Nat) (d : Draft) : Except Fault Metadata := do
  match ← d.record Metadata.fields depth with
  | [.kernel k, .language l] => .ok ⟨k, l⟩
  | _ => .error .misshapen

/-- A field of the notebook. -/
inductive Part where
  | cells (cells : List Cell)
  | metadata (m : Metadata)
  | version (n : UInt32)

def readVersion (d : Draft) : Except Fault UInt32 :=
  UInt32.ofNat <$> d.natBelow (2 ^ 32)

def fields : List (NamedField Part) := [
  ⟨"cells".toList, fun depth d => .cells <$> Draft.list Cell.read depth d⟩,
  ⟨"metadata".toList, fun depth d => .metadata <$> Metadata.read depth d⟩,
  ⟨"nbformat".toList, fun _ d => .version <$> readVersion d⟩,
  ⟨"nbformat_minor".toList, fun _ d => .version <$> readVersion d⟩]

def ofDraft (depth : Nat) (d : Draft) : Except Fault Notebook := do
  match ← d.record fields depth with
  | [.cells cells, .metadata m, .version nbformat, .version minor] =>
    .ok ⟨cells, m, nbformat, minor⟩
  | _ => .error .misshapen

/-- Reads the text of a notebook's file. -/
def decode (t : Text) : Except Fault Notebook :=
  Draft.decode (ofDraft Json.maxDepth) t

end Weave.Notebook
