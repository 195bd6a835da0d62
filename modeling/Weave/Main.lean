import Weave.Execution.Tool
import Weave.FileTree.Manage
import Weave.Program

/-!
# Running the program

The files that a command can touch are read into a file tree, the program is
run on it, and what has changed in the tree is done to the files. What cannot be
read counts as not there.
-/
namespace Weave.Main

open CommandLine (Environment)

/-- What the operating system holds at a place. A file that begins like a
script may be run. -/
def entryAt? (place : Place) : IO (Option Entry) := do
  let path := String.ofList (FileTree.pathOf place)
  try
    let _ ← IO.FS.realPath (path ++ "/.")
    return some Entry.directory
  catch _ =>
    try
      let bytes ← IO.FS.readBinFile path
      return some (Entry.file bytes (bytes.toList.take 2 == [35, 33]))
    catch _ => return none

/-- Loads what stands at a place, unless the tree has something there already. -/
def loadPlace (files : FileTree) (place : Place) : IO FileTree := do
  if (files.at? place).isSome then return files
  else
    match ← entryAt? place with
    | some entry => return files.set place entry
    | none => return files

/-- Loads what stands on the way of a path. -/
def loadWay (files : FileTree) (place : Place) : List Text → IO FileTree
  | [] => return files
  | step :: rest => do
    if step = Path.dot then loadWay files place rest
    else if step = Path.dotDot then loadWay files place.dropLast rest
    else if step = FileTree.slashStep then loadWay files place rest
    else
      let place := place ++ [step]
      loadWay (← loadPlace files place) place rest

def load (files : FileTree) (path : Path) : IO FileTree :=
  loadWay files (files.start path) (FileTree.waySteps path)

/-- The file tree of the machine with everything that the command line can touch. -/
def loadFor (env : Environment) (words : List Text) : IO FileTree := do
  let here := (← IO.currentDir).toString.toList
  let steps := FileTree.waySteps here
  let files ← loadWay { Machine.files with here := steps } [] steps
  match CommandLine.parse env words with
  | .error _ => return files
  | .ok i => i.command.paths.foldlM load files

/-- What is done so that a place holds an entry. -/
def applyEntry (path : String) (e : Entry) : IO Unit :=
  match e.content with
  | .directory => IO.FS.createDir path
  | .file bytes => IO.FS.writeBinFile path bytes
  | .link _ => return ()
  | .device _ => return ()

def applyRemoval (path : String) (e : Entry) : IO Unit :=
  if e.isDirectory then IO.FS.removeDirAll path else IO.FS.removeFile path

/-- Does to the files what was done to the tree: first what is gone, outermost first,
then what is new. -/
def store (before after : FileTree) : IO Unit := do
  let order (a b : Place × Entry) : Bool := a.1 ≤ b.1
  for (place, e) in (FileTree.vacated before after).mergeSort order do
    try applyRemoval (String.ofList (FileTree.pathOf place)) e catch _ => pure ()
  for (place, e) in (FileTree.renewed before after).mergeSort order do
    applyEntry (String.ofList (FileTree.pathOf place)) e

def envText? (name : String) : IO (Option Text) := do
  return (← IO.getEnv name).map String.toList

def environment : IO Environment := do
  return ⟨← envText? "LITERATE_JUPYTER", ← envText? "LITERATE_LANGUAGE_VERSION",
    ← envText? "RUST_LOG"⟩

def run (args : List String) : IO UInt32 := do
  let words := args.map String.toList
  let env ← environment
  let before ← loadFor env words
  let outcome := Program.run Tool.executor env before words
  store before outcome.files
  IO.eprint (String.ofList outcome.errors)
  IO.print (String.ofList outcome.output)
  return UInt32.ofNat outcome.exitCode

end Weave.Main

def main (args : List String) : IO UInt32 :=
  Weave.Main.run args
