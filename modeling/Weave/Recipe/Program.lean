import Weave.Text.Bytes

/-!
# Recipes

A recipe is a program whose blocks are told by how deep their lines are indented. Its
terms have values, and its statements give values to names. What can go wrong while it
runs is told with its place, so terms keep where they stand.
-/
namespace Weave.Recipe

/-- Where something stands: lines count from one and columns from zero. -/
structure Span where
  line : Nat := 0
  column : Nat := 0
  endLine : Nat := 0
  endColumn : Nat := 0
  /-- The columns of the part that does the work. -/
  focus : Option (Nat × Nat) := none
deriving Repr, DecidableEq, Inhabited

/-- How a function takes what it is given. -/
inductive Taking where
  /-- One by its position or by its name. -/
  | one
  /-- One by its name alone. -/
  | named
  /-- All that are left of those without a name. -/
  | rest
  /-- All that are left of those with a name. -/
  | namedRest
deriving Repr, DecidableEq

/-- What the items that a term makes become. -/
inductive Build where
  | list
  | set
  | dict
  /-- Items that are taken one after the other. -/
  | stream
deriving Repr, DecidableEq

/-- A term, whose value is worked out when it is needed. -/
inductive Term where
  | none
  | bool (b : Bool)
  | int (n : Int)
  | float (x : Float)
  | text (t : Text)
  | bytes (t : Bytes)
  /-- Three dots. -/
  | dots
  | name (span : Span) (n : String)
  /-- Texts behind one another. -/
  | joined (parts : List Term)
  /-- A value as it is shown in a text, after a conversion and by a format. -/
  | shown (span : Span) (t : Term) (conversion : Option Char) (format : Term)
  | tuple (items : List Term)
  | list (span : Span) (items : List Term)
  | set (items : List Term)
  | dict (span : Span) (entries : List (Term × Term))
  /-- All items of a value. -/
  | spread (t : Term)
  /-- All entries of a dictionary. -/
  | spreadNamed (t : Term)
  | named (n : String) (t : Term)
  | unary (span : Span) (op : String) (t : Term)
  | binary (span : Span) (op : String) (a b : Term)
  | both (a b : Term)
  | either (a b : Term)
  | not (t : Term)
  | compare (span : Span) (first : Term) (rest : List (String × Term))
  | choice (test a b : Term)
  | call (span : Span) (f : Term) (arguments : List Term)
  | attribute (span : Span) (t : Term) (n : String)
  | index (span : Span) (t i : Term)
  | slice (first last step : Term)
  | function (parameters : List (String × Taking × Option Term)) (body : Term)
  /-- What a term makes of all items of others; a clause without a target is a test. -/
  | build (how : Build) (item value : Term) (clauses : List (Option Term × Term))
  | bind (n : String) (t : Term)
  | yield (t : Term)
  | yieldAll (t : Term)
deriving Inhabited

/-- A parameter, with the value that it has where none is given. -/
abbrev Parameter := String × Taking × Option Term

/-- A statement, which stands in a line. -/
inductive Statement where
  | term (t : Term)
  | give (span : Span) (targets : List Term) (value : Term)
  | update (span : Span) (target : Term) (op : String) (value : Term)
  | delete (span : Span) (targets : List Term)
  | pass
  | break'
  | continue'
  | return' (value : Term)
  | raise (span : Span) (what cause : Option Term)
  | outer (isGlobal : Bool) (names : List String)
  /-- Modules, each with the name that it gets. -/
  | import' (span : Span) (modules : List (String × Option String))
  | importFrom (span : Span) (module : String) (names : List (String × Option String))
  | assert (span : Span) (test : Term) (message : Option Term)
  | if' (test : Term) (body other : List Statement)
  | while' (test : Term) (body other : List Statement)
  | for' (span : Span) (target source : Term) (body other : List Statement)
  /-- What is done where something in a body goes wrong: by kinds, and with a name. -/
  | try' (body : List Statement)
      (handlers : List (Span × Option Term × Option String × List Statement))
      (other final : List Statement)
  | with' (span : Span) (items : List (Term × Option Term)) (body : List Statement)
  | define (span : Span) (name : String) (parameters : List (String × Taking × Option Term))
      (body : List Statement) (yields : Bool) (decorators : List Term)
  | kind (span : Span) (name : String) (bases : List Term) (body : List Statement)
      (decorators : List Term)

/-- Why a text is no recipe. -/
structure Fault where
  kind : String
  message : Text
  span : Span
deriving Repr, DecidableEq

end Weave.Recipe
