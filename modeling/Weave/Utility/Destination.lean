import Weave.Utility.Job

/-!
# Where files go

Programs that copy, move or link files are told what they take and where it goes: to
one other path, or into a directory, in which every file keeps its last name.
-/
namespace Weave.Utility

open Job

/-- The name that a file gets in a directory. -/
def lastName (name : Bytes) : Bytes :=
  ((FileTree.partsOf name).getLast?).getD ['/']

structure Destination where
  sources : List Bytes
  target : Bytes
  /-- Whether every file keeps its name in the target, which is a directory. -/
  keepsNames : Bool

namespace Destination

/-- The longer names of the options that tell about the target. -/
def names : List (String × Char) :=
  [("target-directory", 't'), ("no-target-directory", 'T')]

/-- Where one of the sources goes. -/
def goal (d : Destination) (source : Bytes) : Bytes :=
  if d.keepsNames then Path.join d.target (lastName source) else d.target

/-- Why a path is no directory. -/
def fault (files : FileTree) (path : Bytes) : Bytes :=
  match files.find (Bytes.toName path) with
  | .ok _ => Failure.notDirectory.reason
  | .error f => f.reason

/-- Reads where the files go from the words of a program. `enters` tells which paths
count as directories, and `alone` whether one word without a target is enough. -/
def ofWords? (w : Words) (enters : FileTree → Bytes → Bool) (alone : Bool) :
    Task (Option Destination) := do
  let files := (← get).files
  match w.value? 't', w.rest with
  | _, [] =>
    misuse "missing file operand".toList
    return none
  | some dir, sources =>
    if enters files dir then return some ⟨sources, dir, true⟩
    let what := if alone then "failed to access ".toList else "target directory ".toList
    complain (what ++ shown dir ++ ": ".toList ++ fault files dir)
    return none
  | none, [only] =>
    if alone && !w.has "T" then return some ⟨[only], Path.dot, true⟩
    misuse ("missing destination file operand after ".toList ++ shown only)
    return none
  | none, [source, target] =>
    return some ⟨[source], target, !w.has "T" && enters files target⟩
  | none, rest =>
    if w.has "T" then
      hasExtra (rest[2]?.getD [])
      return none
    let target := rest.getLast?.getD []
    if enters files target then return some ⟨rest.dropLast, target, true⟩
    complain ("target ".toList ++ shown target ++ ": ".toList ++ fault files target)
    return none

end Destination

/-- Gives what is at a path another name, so that its place gets free. -/
def setAside (path : Bytes) : Task Unit := do
  let files := (← get).files
  if (files.findSelf (Bytes.toName path)).toOption.isSome then
    change ("cannot backup ".toList ++ shown path) fun files =>
      files.rename (Bytes.toName path) (Bytes.toName (path ++ ['~']))

/-- The place of what two paths lead to, if that is the same. -/
def isSamePlace (files : FileTree) (a b : Bytes) : Bool :=
  match files.find (Bytes.toName a), files.find (Bytes.toName b) with
  | .ok (p, e), .ok (q, f) => p = q || FileTree.isSame e f
  | _, _ => false

end Weave.Utility
