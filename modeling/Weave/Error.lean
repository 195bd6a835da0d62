import Weave.Text.Line

/-!
# Errors

Cutting, tailoring and rendering never fail. What fails is at the edge of the
program: files, the tool that executes notebooks, arguments and settings. Each
error names its cause, and `message` words it.
-/
namespace Weave

inductive FileError where
  | notFound (path : Text)
  | notReadable (path reason : Text)
  | notWritable (path reason : Text)
  | other (reason : Text)
deriving Repr, DecidableEq

inductive ExecutionError where
  | notStarted (program reason : Text)
  | failed (program status : Text)
deriving Repr, DecidableEq

inductive Error where
  | file (e : FileError)
  | execution (e : ExecutionError)
  | argument (what : Text)
  | setting (what : Text)
  | encoding (what : Text)
deriving Repr, DecidableEq

def FileError.message : FileError → Text
  | notFound path => "file not found: ".toList ++ path
  | notReadable path reason => "failed to read file: ".toList ++ path ++ ": ".toList ++ reason
  | notWritable path reason => "failed to write file: ".toList ++ path ++ ": ".toList ++ reason
  | other reason => "I/O error: ".toList ++ reason

def ExecutionError.message : ExecutionError → Text
  | notStarted program reason =>
    "failed to start ".toList ++ program ++ ": ".toList ++ reason
  | failed program status => program ++ " exited with ".toList ++ status

namespace Error

def message : Error → Text
  | file e => "I/O error: ".toList ++ e.message
  | execution e => "execution error: ".toList ++ e.message
  | argument what => "command error: invalid argument: ".toList ++ what
  | setting what => "configuration error: ".toList ++ what
  | encoding what => "serialization error: ".toList ++ what

def unknownTarget (name : Text) : Error :=
  argument ("unknown target: ".toList ++ name)

def notDirectory (dir : Text) : Error :=
  setting ("not a directory: ".toList ++ dir)

/-- No name is configured and the input's path has none. -/
def nameless (input : Text) : Error :=
  setting ("cannot derive a name from ".toList ++ input)

end Error

end Weave
