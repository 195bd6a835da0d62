import Weave.Execution.Image
import Weave.Shell.Builtin.Place
import Weave.Shell.State

/-!
# How shells begin

A shell knows the variables that it is given and sets some of its own. A shell that
another one starts is a process of its own on the same host.
-/
namespace Weave.Shell

/-- Where programs are looked for. -/
def searched (s : State) : List Bytes :=
  Image.directoriesOf ((s.value? "PATH".toList).getD [])

/-- The variables that a shell sets where it begins, unless it is given them. -/
def usual (s : State) : List (String × Bytes) :=
  [("OPTIND", ['1']), ("PS1", "# ".toList), ("PS2", "> ".toList), ("PS4", "+ ".toList),
   ("PPID", Text.ofNat s.parentNumber)]

/-- The working directory as a variable tells, if that is true. -/
def givenDirectory (s : State) : Bytes :=
  let physical := Builtin.physicalPath s
  match s.value? "PWD".toList with
  | some path =>
    let place := (s.files.find (Bytes.toName path)).toOption.map Prod.fst
    if path.head? = some '/' && place = some s.files.here then path else physical
  | none => physical

/-- A shell at its beginning, with its first variables. -/
def settled (s : State) : State :=
  let s := (usual s).foldl (fun s v =>
    if (s.holder? v.1.toList).isSome then s else s.set v.1.toList v.2) s
  let directory := givenDirectory s
  { (s.set "IFS".toList [' ', '\t', '\n']).set "PWD".toList directory with directory }.passOn
    "PWD".toList

/-- A shell that another one starts. It knows the variables that are passed on, and the
signals that are passed over. -/
def inner (s : State) (dialect : Dialect) (name : Bytes) (arguments : List Bytes) : State :=
  let number := s.lastNumber + 1
  settled { s with
    lastNumber := number
    toProcess :=
      { dialect, name, arguments, number
        vars := (s.vars.filter Variable.exported).map fun v => { v with fixed := false }
        channels := s.channels
        scriptNumber := number
        parentNumber := s.number
        waiting := s.number :: s.waiting
        traps := s.traps.filter fun t => t.2 = []
        depth := s.depth + 1 } }

/-- The shell in which a command runs that another one does not wait for. -/
def beside (s : State) (d : Deferred) : State :=
  { s with
    deferred := s.deferred.filter fun other => other.number != d.number
    files := { s.files with here := d.here, now := d.start }
    toProcess := { d.process with
      number := d.number
      waiting := d.process.number :: d.process.waiting
      jobs := []
      traps := d.process.traps.filter fun t => t.2 = []
      depth := d.process.depth + 1 } }

/-- Where programs are looked for if no variable tells. -/
def usualPath : Bytes := "/bin:/usr/bin".toList

/-- The shell that starts a program for a job. -/
def forJob (s : State) (job : Job) : State :=
  { s with
    toHost := job.toHost
    channels := job.channels
    depth := s.depth + 1
    vars := (job.environment.map fun v =>
      { name := v.1, value := some v.2, exported := true }).reverse
        ++ [{ name := "PATH".toList, value := some usualPath }] }

end Weave.Shell
