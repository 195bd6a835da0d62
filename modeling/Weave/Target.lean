import Weave.Text.Character

/-!
# Targets

A literate source is converted into one of three artifacts. A target is asked
for by its name or by its directive mark, in any case.
-/
namespace Weave

inductive Target where
  | script
  | markdown
  | notebook
deriving Repr, DecidableEq

namespace Target

def name : Target → Text
  | script => "script".toList
  | markdown => "markdown".toList
  | notebook => "notebook".toList

/-- The extension of the artifact's file, without the dot. -/
def extension : Target → Text
  | script => "jl".toList
  | markdown => "md".toList
  | notebook => "ipynb".toList

/-- All words that ask for a target. -/
def words : Target → List String
  | script => ["script", "jl"]
  | markdown => ["markdown", "md"]
  | notebook => ["notebook", "nb", "ipynb"]

def ofName? (name : Text) : Option Target :=
  [script, markdown, notebook].find? fun target =>
    target.words.any fun word => Text.isWord word name

theorem ofName?_name (target : Target) : ofName? target.name = some target := by
  cases target <;> decide

end Target

end Weave
