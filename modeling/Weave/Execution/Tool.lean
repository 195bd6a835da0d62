import Weave.Execution.Executor
import Weave.Shell.Run
import Weave.Text.Shape

/-!
# The notebook tool

The executor that the program uses by default starts a tool with the arguments
for executing one notebook in place, and waits for it. A tool that cannot be
started and one that leaves with a status other than zero are two errors.

What the tools of a system are is no part of the program, which is told of its executors. These
are for trying it out: what is proved of it holds with any others.
-/
namespace Weave.Tool

/-- The variables that a tool is given. -/
def environment (files : FileTree) : List (Bytes × Bytes) :=
  [("HOME".toList, "/root".toList),
   ("PATH".toList, Text.joinWith [':'] Machine.searched),
   ("PWD".toList, Bytes.ofText (FileTree.pathOf files.here))]

/-- What a tool leaves behind: a status, or a signal that has ended it. -/
structure Ending where
  files : FileTree
  output : Bytes
  errors : Bytes
  status : Nat
  signal : Option Nat

/-- The number of the program itself. -/
def number : Nat := 1000

/-- What a tool begins with: nothing to read, and two streams to print to. -/
def start (files : FileTree) : Shell.State where
  files := files
  streams :=
    [(2, { target := .errors, writes := true }), (1, { target := .output, writes := true }),
     (0, .ofText [])]
  name := []
  channels := [(0, 0), (1, 1), (2, 2)]
  vars := (environment files).reverse.map fun v =>
    { name := v.1, value := some v.2, exported := true }
  number := number
  scriptNumber := number
  parentNumber := number - 1
  lastNumber := number

/-- Runs what is started for a tool, by the name of its machine code and the words
for it, to its end. Where the tool has gone to is of no concern to the program. -/
def finish (files : FileTree) (image : String) (words : List Bytes) : Ending :=
  let (_, s) := StateT.run (Shell.runToEnd Shell.maxSteps image words) (start files)
  { files := { s.toHost.settled with here := files.here, mask := files.mask }
    output := Host.flatten s.output
    errors := Host.flatten s.errors
    status := s.status
    signal := match s.flow with
      | .dying signal => some signal
      | _ => none }

/-- Starts a program and waits for it. -/
def launch (files : FileTree) (program : Path) (arguments : List Text) :
    Except Failure Ending := do
  if (program :: arguments).any Path.holdsNul then throw .programHoldsNul
  else
    let (image, words) ←
      Image.ofCommand files Machine.searched (Bytes.ofText program) (arguments.map Bytes.ofText)
    return finish files image words

/-- The arguments for executing a notebook in place. `here` is the path of the
working directory. -/
def arguments (here : Path) (notebook : Path) : List Text :=
  let absolute := (Path.absolute? here notebook).getD notebook
  ["nbconvert".toList, "--ExecutePreprocessor.timeout=-1".toList, "--to".toList,
    "notebook".toList, "--execute".toList, "--inplace".toList, absolute, "--output".toList,
    notebook.fileName?.getD absolute]

/-- The result of a tool that has come to its end. -/
def resultOf (program : Path) (e : Ending) : Except Error Unit :=
  match e.signal with
  | some signal =>
    let title := Text.ofNat signal ++ " (SIG".toList ++ Signal.name signal ++ [')']
    .error (.execution (.failed program.shown ("signal: ".toList ++ title)))
  | none =>
    if e.status = 0 then .ok ()
    else .error (.execution (.failed program.shown ("exit status: ".toList ++ Text.ofNat e.status)))

/-- What a tool says stands in the log as it was printed. -/
def said (errors : Bytes) : List Log.Entry :=
  if errors = [] then [] else [.printed (Bytes.toText errors)]

/-- The executor that starts `program`. -/
def executor (program : Path) : Executor := fun files notebook =>
  let args := arguments (FileTree.pathOf files.here) notebook
  let event : Log.Event := ⟨.debug, "spawning notebook executor".toList,
    [("program", program.shown), ("args", Path.quotedList args)]⟩
  match launch files program args with
  | .error f =>
    ⟨files, [.event event], [], .error (.execution (.notStarted program.shown f.message))⟩
  | .ok e =>
    ⟨e.files, .event event :: said e.errors, Bytes.toText e.output, resultOf program e⟩

end Weave.Tool
