import Weave.World

/-!
# Executing notebooks

An executor is any function that is given the files and the path of a notebook
and leaves files, log events and a result behind. Executing a notebook hands it
to an executor and afterwards removes the directory of checkpoints beside the
notebook, whether the execution succeeded or not.
-/
namespace Weave

/-- What an executor leaves behind. -/
structure Execution where
  files : FileTree
  log : List Log.Entry := []
  output : Text := []
  result : Except Error Unit

abbrev Executor := FileTree → Path → Execution

namespace Executor

def checkpointDirectory : Text := ".ipynb_checkpoints".toList

/-- Where the checkpoints of a notebook are kept, unless its path has no parent. -/
def checkpointsOf? (notebook : Path) : Option Path :=
  notebook.parent?.map fun dir => Path.join dir checkpointDirectory

/-- What a notebook is called in the log. -/
def titleOf (notebook : Path) : Text :=
  Path.shown (notebook.fileName?.getD notebook)

/-- The world that an executor leaves. -/
def leaves (executor : Executor) (notebook : Path) (w : World) : World :=
  let e := executor w.files notebook
  { files := e.files
    log := w.log ++ e.log
    output := w.output ++ e.output
    executions := w.executions ++ [notebook] }

/-- Hands the notebook to the executor. The answer is the executor's result. -/
def handOver (executor : Executor) (notebook : Path) : Run (Except Error Unit) := do
  let w ← get
  set (executor.leaves notebook w)
  return (executor w.files notebook).result

/-- Removes the checkpoints beside a notebook. -/
def cleanUp (notebook : Path) : Run Unit :=
  match checkpointsOf? notebook with
  | some dir => Run.removeQuietly dir
  | none => return ()

def executeNotebook (executor : Executor) (notebook : Path) : Run Unit := do
  let title := titleOf notebook
  Run.note .info ("executing notebook ".toList ++ title) []
  match ← handOver executor notebook with
  | .ok _ => cleanUp notebook
  | .error e =>
    let said := "error when executing notebook ".toList ++ title ++ ": ".toList ++ e.message
    Run.note .error said []
    cleanUp notebook
    throw e

theorem run_handOver (executor : Executor) (notebook : Path) (w : World) :
    w.run (handOver executor notebook) =
      (.ok (executor w.files notebook).result, executor.leaves notebook w) := rfl

/-- A stand-in for trying a conversion out: it may add to the notebook, leave
checkpoints beside it and then fail. A text to add is added even if it is empty,
which makes a notebook that is missing. -/
structure Rehearsal where
  appended : Option Text := none
  leavesCheckpoints : Bool := false
  failure : Option Text := none
deriving Repr, DecidableEq

namespace Rehearsal

/-- Files that one has worked on, and the failure that has ended the work. -/
abbrev Work := FileTree × Option Failure

/-- Goes on with the work, unless it has ended. -/
def Work.andThen (w : Work) (next : FileTree → Work) : Work :=
  match w with
  | (files, none) => next files
  | ended => ended

def Work.ofExcept (before : FileTree) : Except Failure FileTree → Work
  | .ok files => (files, none)
  | .error f => (before, some f)

def addTo (notebook : Path) (text : Text) (files : FileTree) : Work :=
  .ofExcept files (files.appendBytes notebook (FileTree.bytesOfText text))

def leaveCheckpoints (notebook : Path) (files : FileTree) : Work :=
  match checkpointsOf? notebook with
  | none => (files, none)
  | some dir =>
    let inner := Path.join dir "sub".toList
    Work.andThen (files.makeDirectories inner) fun files =>
      .ofExcept files (files.writeText (Path.join inner "c".toList) "\x7b\x7d".toList)

def work (r : Rehearsal) (notebook : Path) (files : FileTree) : Work :=
  let added := match r.appended with
    | some text => addTo notebook text files
    | none => (files, none)
  if r.leavesCheckpoints then Work.andThen added (leaveCheckpoints notebook) else added

def executor (r : Rehearsal) : Executor := fun files notebook =>
  let (files, failure) := r.work notebook files
  { files := files
    result := match failure, r.failure with
      | some f, _ => .error (.file (.other f.message))
      | none, some status => .error (.execution (.failed "fake".toList status))
      | none, none => .ok () }

end Rehearsal

end Executor

end Weave
