import Weave.Record.Read
import Weave.Record.State

/-!
# What programs for records read and print

What is printed for a file goes to it at once; what is printed for a command waits until
the command is closed, and is its input then. A command that is read from is run to its
end when its first line is wanted.
-/
namespace Weave.Record

open Job

/-- What a program runs with: its functions, and how to start others. -/
structure Setting where
  functions : List Function
  launch : Launch

/-- Does something with the files and streams. -/
def task {α : Type} (t : Task α) : Step α := ExceptT.lift (StateT.lift t)

/-- The text of a value. -/
def textOf (v : Value) : Step Bytes := do
  return (← get).textOf v

/-- Runs a command of the shell, maybe with a text as its input, and takes what it prints
if that is wanted. -/
def runCommand (launch : Launch) (command : Bytes) (input : Option Bytes) (isHeard : Bool) :
    Task (Nat × Bytes) := do
  let job ← modifyGet fun j => (j, { j with held := [] })
  let (channels, host) := match input with
    | some t =>
      let (n, host) := job.toHost.add (.ofText t)
      ((0, n) :: job.channels.filter (fun c => c.1 != 0), host)
    | none => (job.channels, job.toHost)
  let (channels, host) := if isHeard then
      let (n, host) := host.add { target := .pieces [] (2 ^ 21) false, writes := true }
      ((1, n) :: channels.filter (fun c => c.1 != 1), host)
    else (channels, host)
  modify fun j => { j with toHost := host, channels := channels }
  let _ ← launch "sh".toList ["-c".toList, command]
  let after ← get
  let heard := match after.toHost.streamOf? channels 1 with
    | some (_, ⟨.pieces held _ _, _, _, _, _⟩) => if isHeard then Host.flatten held else []
    | _ => []
  let isOld (n : Nat) : Bool := n < job.toHost.nextNumber
  set { job with toHost := after.toHost.closeAllBut isOld }
  let status := match after.signal with
    | some signal => 256 + signal
    | none => after.status
  return (status, heard)

/-- Takes the next line of something that is read besides the records. -/
def lineOf (rest : Bytes) : Step (Option (Bytes × Bytes)) := do
  return nextRecord ((← get).globalText "RS") rest

/-- Takes the next line of a file, or tells that the file cannot be read. -/
def fileLine (name : Bytes) : Step (Option (Option Bytes)) := do
  let s ← get
  let text ← match s.texts.lookup name with
    | some t => pure (some t)
    | none => do
      match ← task (read name) with
      | .ok t => pure (some t)
      | .error _ => pure none
  match text with
  | none => return none
  | some t =>
    let next ← lineOf t
    let rest := (next.map Prod.snd).getD []
    modify fun s => { s with texts := (name, rest) :: s.texts.filter fun e => e.1 != name }
    return some (next.map Prod.fst)

/-- Takes the next line that a command prints. -/
def commandLine (launch : Launch) (command : Bytes) : Step (Option Bytes) := do
  let s ← get
  let text ← match s.answers.lookup command with
    | some t => pure t
    | none => do
      task flush
      pure (← task (runCommand launch command none true)).2
  let next ← lineOf text
  let rest := (next.map Prod.snd).getD []
  modify fun s =>
    { s with answers := (command, rest) :: s.answers.filter fun e => e.1 != command }
  return next.map Prod.fst

/-- Whether an argument gives a name a value; then the name and the value. -/
def setting? (word : Bytes) : Option (Bytes × Bytes) :=
  let name := word.takeWhile Token.isNameChar
  match word.drop name.length with
  | '=' :: value => if name.head?.any Token.isNameStart then some (name, value) else none
  | _ => none

def give (name value : Bytes) : Step Unit :=
  modify fun s => s.setValue name (.read (Token.meaning value))

/-- Opens the next file that holds records, and tells whether there is one. -/
def openNext : Nat → Step Bool
  | 0 => return false
  | fuel + 1 => do
    let s ← get
    let n := s.nextArgument
    if Float.ofNat n < (s.global "ARGC").toNumber then
      set { s with nextArgument := n + 1 }
      match ((s.tables.lookup "ARGV".toList).getD []).lookup (Text.ofNat n) with
      | none => openNext fuel
      | some v =>
        let word := s.textOf v
        if word = [] then openNext fuel
        else
          match setting? word with
          | some (name, value) =>
            give name value
            openNext fuel
          | none =>
            match ← task (read word) with
            | .ok t =>
              modify fun s =>
                let named := s.setGlobal "FILENAME".toList (.read word)
                { named.setGlobal "FNR".toList (.ofNat 0) with input := some t, hasInput := true }
              return true
            | .error .isDirectory => throw (.fault false "read error (Is a directory)".toList)
            | .error f =>
              throw (.fault false
                ("cannot open \"".toList ++ word ++ "\" (".toList ++ f.reason ++ [')']))
    else if s.hasInput then return false
    else
      let t ← task takeInput
      modify fun s => { s with input := some t, hasInput := true }
      return true

def count (name : String) : Step Unit :=
  modify fun s => s.setGlobal name.toList (.number ((s.global name).toNumber + 1))

/-- Takes the next record of all files. -/
def takeRecord : Nat → Step (Option Bytes)
  | 0 => return none
  | fuel + 1 => do
    let s ← get
    match s.input with
    | none => if ← openNext 100000 then takeRecord fuel else return none
    | some t =>
      match nextRecord (s.globalText "RS") t with
      | none =>
        set { s with input := none }
        takeRecord fuel
      | some (record, rest) =>
        set { s with input := some rest }
        count "NR"
        count "FNR"
        return some record

/-- Prints to a file or for a command. -/
def printTo (sink : Sink) (name t : Bytes) : Step Unit := do
  let s ← get
  match sink with
  | .command =>
    let held := s.pipes.lookup name
    if held.isNone then task flush
    set { s with
      pipes := (name, t :: held.getD []) :: s.pipes.filter fun e => e.1 != name }
  | _ =>
    if name = ['-'] || name = "/dev/stdout".toList then task (print t)
    else if name = "/dev/stderr".toList then task (say t)
    else
      match s.files.lookup name with
      | some n => task (put n)
      | none =>
        let job ← task get
        let how := if sink = .file then Opening.write else .append
        match job.toHost.openPath job.channels how false (Bytes.toName name) with
        | .error f =>
          throw (.fault false
            ("cannot open \"".toList ++ name ++ "\" for output (".toList ++ f.reason ++ [')']))
        | .ok (n, host) =>
          task (set { job with toHost := host })
          set { s with files := s.files ++ [(name, n)] }
          task (put n)
where
  put (n : Nat) : Task Unit :=
    modify fun j => { j with toHost := (j.toHost.write n t).2 }

/-- Closes what has a name, and gives the status of a command, or less than zero if
nothing has that name. -/
def close (launch : Launch) (name : Bytes) : Step Int := do
  let s ← get
  let isOther {α : Type} (e : Bytes × α) : Bool := e.1 != name
  set { s with
    texts := s.texts.filter isOther
    answers := s.answers.filter isOther
    files := s.files.filter isOther
    pipes := s.pipes.filter isOther }
  if let some n := s.files.lookup name then
    task (modify fun j =>
      if j.channels.any fun c => c.2 = n then j
      else { j with toHost := j.toHost.closeAllBut (· ≠ n) })
    return 0
  match s.pipes.lookup name with
  | some pieces =>
    let (status, _) ← task (runCommand launch name (some (Host.flatten pieces)) false)
    return status
  | none =>
    return if (s.texts.lookup name).isSome || (s.answers.lookup name).isSome then 0 else -1

end Weave.Record
