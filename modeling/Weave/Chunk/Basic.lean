import Weave.Text.Line

/-!
# Chunks

A chunk is a run of lines that is either prose or code. Only code can be
continued, which says that a statement goes on across the chunk's edge.
-/
namespace Weave

namespace Chunk

inductive Kind where
  | prose
  | code
deriving Repr, DecidableEq

def Kind.name : Kind → Text
  | .prose => "prose".toList
  | .code => "code".toList

end Chunk

inductive Chunk where
  | prose (lines : List Text)
  | code (lines : List Text) (continued : Bool)
deriving Repr, DecidableEq

namespace Chunk

/-- The chunk without lines. -/
def empty : Kind → Chunk
  | .prose => prose []
  | .code => code [] false

def kind : Chunk → Kind
  | prose _ => .prose
  | code _ _ => .code

def lines : Chunk → List Text
  | prose ls => ls
  | code ls _ => ls

def isCode (c : Chunk) : Bool :=
  c.kind == .code

def isProse (c : Chunk) : Bool :=
  c.kind == .prose

def isContinued : Chunk → Bool
  | prose _ => false
  | code _ continued => continued

/-- Prose stays as it is. -/
def setContinued (value : Bool) : Chunk → Chunk
  | prose ls => prose ls
  | code ls _ => code ls value

def mapLines (f : List Text → List Text) : Chunk → Chunk
  | prose ls => prose (f ls)
  | code ls continued => code (f ls) continued

/-- Adds a line at the end. -/
def push (c : Chunk) (line : Text) : Chunk :=
  c.mapLines (· ++ [line])

/-- Every line is empty; so is a chunk without lines. -/
def isBlank (c : Chunk) : Bool :=
  c.lines.all List.isEmpty

def firstLine? (c : Chunk) : Option Text :=
  c.lines.head?

def lastLine? (c : Chunk) : Option Text :=
  c.lines.getLast?

/-- The lines without the empty ones at either end. -/
def dropEdges (ls : List Text) : List Text :=
  ((ls.dropWhile List.isEmpty).reverse.dropWhile List.isEmpty).reverse

def trim (c : Chunk) : Chunk :=
  c.mapLines dropEdges

@[simp]
theorem kind_empty (k : Kind) : (empty k).kind = k := by
  cases k <;> rfl

@[simp]
theorem lines_empty (k : Kind) : (empty k).lines = [] := by
  cases k <;> rfl

@[simp]
theorem kind_mapLines (f : List Text → List Text) (c : Chunk) : (c.mapLines f).kind = c.kind := by
  cases c <;> rfl

@[simp]
theorem lines_mapLines (f : List Text → List Text) (c : Chunk) :
    (c.mapLines f).lines = f c.lines := by
  cases c <;> rfl

@[simp]
theorem kind_setContinued (value : Bool) (c : Chunk) : (c.setContinued value).kind = c.kind := by
  cases c <;> rfl

@[simp]
theorem lines_setContinued (value : Bool) (c : Chunk) :
    (c.setContinued value).lines = c.lines := by
  cases c <;> rfl

end Chunk

end Weave
