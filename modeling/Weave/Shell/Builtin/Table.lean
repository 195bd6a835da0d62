import Weave.Shell.Builtin.Place
import Weave.Shell.Builtin.Signal
import Weave.Shell.Builtin.Variable

/-!
# The commands of the shell

The commands that the shell carries out itself, by name. Those that run others are
not among them.
-/
namespace Weave.Shell.Builtin

/-- A program of the system that the shell carries out itself. -/
def ofUtility (name : String) (utility : Dialect → Utility) : Builtin := fun words =>
  modify fun s => s.runWithin name.toList (utility s.dialect) words

def conditionText : Dialect → Utility.Condition.Wording
  | .standard => Utility.Condition.standardText
  | .extended => Utility.Condition.extendedText

def missingBracket : Dialect → String
  | .standard => "missing ]"
  | .extended => "missing `]'"

/-- The limits that there are for what programs use; there are none. -/
def ulimit : Builtin := fun words => do
  let known := "HSatfdsmcnpvrelw".toList
  let letters := (words.filter fun word => word.head? = some '-').flatMap (List.drop 1)
  match letters.find? fun c => !known.contains c with
  | some c => modify fun s => s.giveUp ("Illegal option -".toList ++ [c])
  | none =>
    if words.all fun word => word.head? = some '-' then
      modify fun s => { s with status := 0 }.print "unlimited\n".toList
    else succeed

/-- The time that has been used, which is next to nothing. -/
def times : Builtin := fun _ =>
  modify fun s =>
    let line := match s.dialect with
      | .standard => "0m0.000000s 0m0.000000s\n".toList
      | .extended => "0m0.000s 0m0.000s\n".toList
    { s with status := 0 }.print (line ++ line)

def table : List (String × Builtin) := [
  (":", fun _ => succeed),
  ("true", fun _ => succeed),
  ("false", fun _ => modify fun s => { s with status := 1 }),
  ("exit", exit), ("return", return'), ("break", break'), ("continue", continue'),
  ("shift", shift), ("set", set'), ("getopts", getopts), ("unset", unset), ("export", export'),
  ("readonly", readonly), ("local", local'), ("read", read), ("alias", alias'),
  ("unalias", unalias), ("cd", cd), ("chdir", cd), ("pwd", pwd), ("umask", umask), ("trap", trap),
  ("kill", kill), ("ulimit", ulimit), ("times", times),
  ("echo", ofUtility "echo" Utility.echo),
  ("printf", ofUtility "printf" fun d => Utility.printf ⟨d, false⟩),
  ("test", ofUtility "test" fun d => Utility.test d (conditionText d)),
  ("[", ofUtility "[" fun d => Utility.bracket d (conditionText d) (missingBracket d))]

/-- Commands of the shell that run other commands, or wait for them, or tell what they
are. -/
def runners : List String :=
  ["eval", ".", "source", "exec", "command", "type", "hash", "wait", "jobs", "fg", "bg"]

/-- Commands whose words are settings of variables, as they stand before a command. -/
def setters : List Bytes :=
  ["export", "readonly", "local", "alias"].map String.toList

end Weave.Shell.Builtin
