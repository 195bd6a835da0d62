import Weave.Path

/-!
# Command lines

A command line asks for one of four commands. Arguments that are refused, and
those that ask for help or for the version, end the program before a command is
run. Of words and values that are not paths only those that are UTF-8 are told of here;
the others would be refused.
-/
namespace Weave.CommandLine

/-- What every conversion is told. -/
structure Job where
  input : Path
  outdir : Path
  name : Option Text
deriving Repr, DecidableEq

inductive Command where
  | script (job : Job)
  | markdown (job : Job) (fenceOpening : Option Text) (fenceClosing : Text)
  | notebook (job : Job) (execute : Bool) (tool : Path) (languageVersion : Option Text)
  /-- Shows the chunks of a source and writes nothing. -/
  | chunks (input : Path) (target : Text) (name : Option Text)
deriving Repr, DecidableEq

structure Invocation where
  verbose : Bool
  format : Text
  command : Command
deriving Repr, DecidableEq

/-- The variables that the program reads, as far as they are UTF-8. Only that of the tool is a
path and may be something else. -/
structure Environment where
  tool : Option Text := none
  languageVersion : Option Text := none
  logLevel : Option Text := none
deriving Repr, DecidableEq

/-- Why no command is run. -/
inductive Refusal where
  | helpShown
  | versionShown (program : Text)
  | nothingGiven
  | commandMissing
  | commandUnknown
  | argumentUnknown
  | argumentMissing
  | valueUnusable
  | valueNotAllowed
  | givenTwice
deriving Repr, DecidableEq

/-- Help and version are answers, all else is an error. -/
def Refusal.exitCode : Refusal → Nat
  | helpShown => 0
  | versionShown _ => 0
  | _ => 2

end Weave.CommandLine

/-!
## Switches and positions

What may be given before the command and to each command. A switch is known by
its long word and maybe by one letter; it is a flag or takes one value. A
position is filled by a word that belongs to no switch.
-/
namespace Weave.CommandLine

/-- What a word on the command line can be given for. -/
inductive Slot where
  | help
  | version
  | verbose
  | format
  | name
  | fenceOpening
  | fenceClosing
  | execute
  | tool
  | languageVersion
  | target
  | input
  | outdir
deriving Repr, DecidableEq

/-- Slots whose value is a path, which cannot be empty. -/
def Slot.isPath : Slot → Bool
  | tool | input | outdir => true
  | _ => false

inductive Arity where
  | flag
  /-- Takes a value. A separate word that begins with a dash is none. -/
  | value
  /-- Takes a value, and any separate word is one. -/
  | anyValue
deriving Repr, DecidableEq

structure Switch where
  slot : Slot
  long : Text
  short : Option Char
  arity : Arity
deriving Repr, DecidableEq

/-- One level of the command line: the one before the command, or a command's. -/
structure Level where
  /-- The program's name as the version tells it. -/
  title : Text
  switches : List Switch
  positions : List Slot
  /-- What becomes of a word that fills no position. -/
  surplus : Refusal
deriving Repr, DecidableEq

inductive CommandName where
  | script
  | markdown
  | notebook
  | chunks
deriving Repr, DecidableEq

namespace CommandName

def word : CommandName → Text
  | script => "script".toList
  | markdown => "markdown".toList
  | notebook => "notebook".toList
  | chunks => "chunks".toList

/-- The command that a word asks for, exactly as it is written. -/
def ofWord? (w : Text) : Option CommandName :=
  [("script", script), ("jl", script), ("markdown", markdown), ("md", markdown),
   ("notebook", notebook), ("nb", notebook), ("chunks", chunks)].lookup (String.ofList w)

end CommandName

def programTitle : Text := "literate-rs".toList

def programVersion : Text := "0.1.0".toList

def helpWord : Text := "help".toList

/-- Switches that are known everywhere. -/
def commonSwitches : List Switch := [
  ⟨.help, "help".toList, some 'h', .flag⟩,
  ⟨.version, "version".toList, some 'V', .flag⟩,
  ⟨.verbose, "verbose".toList, some 'v', .flag⟩,
  ⟨.format, "format".toList, none, .value⟩]

def nameSwitch : Switch := ⟨.name, "name".toList, some 'n', .value⟩

namespace CommandName

def switches : CommandName → List Switch
  | script => [nameSwitch]
  | markdown => [
      nameSwitch,
      ⟨.fenceOpening, "fence-open".toList, none, .anyValue⟩,
      ⟨.fenceClosing, "fence-close".toList, none, .anyValue⟩]
  | notebook => [
      nameSwitch,
      ⟨.execute, "execute".toList, some 'x', .flag⟩,
      ⟨.tool, "jupyter".toList, none, .value⟩,
      ⟨.languageVersion, "language-version".toList, none, .value⟩]
  | chunks => [
      ⟨.target, "target".toList, some 't', .value⟩,
      nameSwitch]

def positions : CommandName → List Slot
  | chunks => [.input]
  | _ => [.input, .outdir]

def level (command : CommandName) : Level where
  title := programTitle ++ '-' :: command.word
  switches := command.switches ++ commonSwitches
  positions := command.positions
  surplus := .argumentUnknown

end CommandName

/-- The level before the command. -/
def topLevel : Level where
  title := programTitle
  switches := commonSwitches
  positions := []
  surplus := .commandUnknown

end Weave.CommandLine
