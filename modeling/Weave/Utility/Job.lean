import Weave.Host.Basic
import Weave.Utility.Options

/-!
# What a system program works on

A program that the system provides is a step on a job: it reads its input and
the files, changes the files, prints, and leaves a status, which is zero unless
something went wrong. What is printed is held back and passed on at the end, or
sooner where the program does so, but what is said about mistakes is said at once.
All texts are bytes.
-/
namespace Weave

structure Job extends Host where
  /-- What the program calls itself in what it says. -/
  name : Bytes
  channels : Channels
  /-- The variables that the program is given, with their values. -/
  environment : List (Bytes × Bytes) := []
  /-- What is printed and not passed on yet, the last piece first. -/
  held : List Bytes := []
  /-- Whether what is held is passed on before something is said about a mistake. -/
  prompt : Bool := false
  /-- Why something that was printed could not be passed on. -/
  fault : Option Failure := none
  status : Nat := 0
  /-- The signal that has ended the program, or one that it has started and waited for. -/
  signal : Option Nat := none

/-- A step on a job. -/
abbrev Task := StateM Job

/-- A program is given the words behind its name. -/
abbrev Utility := List Bytes → Task Unit

/-- Starts a program by its name and the words for it, and waits for it; its status is
that of the job then. The answer is why it cannot be started. -/
abbrev Launch := Bytes → List Bytes → Task (Option Failure)

/-- A program that starts others. -/
abbrev Starter := Launch → Utility

namespace Job

def print (t : Bytes) : Task Unit :=
  modify fun j => { j with held := t :: j.held }

def printLine (t : Bytes) : Task Unit :=
  print (t ++ ['\n'])

def leave (status : Nat) : Task Unit :=
  modify fun j => { j with status := status }

/-- Prints to a channel at once; the answer is why that cannot be done. -/
def printTo (channel : Nat) (t : Bytes) : Task (Option Failure) := do
  let j ← get
  match j.channels.lookup channel with
  | none => return if t = [] then none else some .closed
  | some n =>
    let (failure, host) := j.toHost.write n t
    set { j with toHost := host }
    return failure

/-- Passes on what is held. -/
def flush : Task Unit := do
  let t := Host.flatten (← get).held
  modify fun j => { j with held := [] }
  if t != [] then
    let failure ← printTo 1 t
    modify fun j => { j with fault := j.fault.or failure }

/-- Says something about a mistake. -/
def say (t : Bytes) : Task Unit := do
  let _ ← printTo 2 t

/-- Says a line about a mistake. -/
def warn (t : Bytes) : Task Unit :=
  say (t ++ ['\n'])

/-- Says what went wrong and keeps it in the status. -/
def complain (what : Bytes) : Task Unit := do
  if (← get).prompt then flush
  warn ((← get).name ++ ": ".toList ++ what)
  leave 1

/-- A name as it is shown in a complaint. -/
abbrev shown : Bytes → Bytes := Naming.marked

/-- Says what went wrong with something, and keeps it in the status. -/
def complainOf (what : Bytes) (f : Failure) : Task Unit :=
  complain (what ++ ": ".toList ++ f.reason)

/-- Changes the files, or says why that cannot be done. -/
def change (what : Bytes) (act : FileTree → Except Failure FileTree) :
    Task Unit := do
  match act (← get).files with
  | .ok files => modify fun j => { j with files := files }
  | .error f => complainOf what f

/-- How much more can be printed before nobody reads it any more, if there is a
bound to that. -/
def room? : Task (Option Nat) := do
  let j ← get
  match j.toHost.streamOf? j.channels 1 with
  | some (_, ⟨.pieces _ room _, _, _, _, _⟩) => return some room
  | _ => return none

/-- What stands on a channel, read to its end. -/
def takeChannel (channel : Nat) : Task (Except Failure Bytes) := do
  let j ← get
  match j.channels.lookup channel with
  | none => return .error .closed
  | some n =>
    match j.toHost.takeAll n with
    | .ok (t, host) =>
      set { j with toHost := host }
      return .ok t
    | .error f => return .error f

/-- The input, which is then used up. -/
def takeInput : Task Bytes := do
  match ← takeChannel 0 with
  | .ok t => return t
  | .error f =>
    complainOf ['-'] f
    return []

/-- The next line of the input with its end, which is then used up; at the end of the
input there is none. -/
def takeLine : Task Bytes := do
  let j ← get
  match (j.channels.lookup 0).map fun n => (n, j.toHost.nextLine n) with
  | some (n, .ok line) =>
    let host := j.toHost.skip n line.length
    set { j with toHost := if line.getLast? = some '\n' then host else host.reachEnd n }
    return line
  | _ => return []

/-- Asks something and reads whether the answer is yes. -/
def confirm (question : Bytes) : Task Bool := do
  say ((← get).name ++ ": ".toList ++ question)
  let answer ← takeLine
  return answer.head? = some 'y' || answer.head? = some 'Y'

/-- What there is to be read of the input. -/
def unreadInput : Task (Except Failure Bytes) := do
  let j ← get
  match j.channels.lookup 0 with
  | none => return .error .closed
  | some n => return j.toHost.unread n

/-- Takes the input, of which only some bytes are wanted. Of a file the rest stays for
others; `whole` tells whether its end was looked for. -/
def useInput (wanted : Nat) (whole : Bool) : Task Unit :=
  modify fun j =>
    match j.toHost.streamOf? j.channels 0 with
    | none => j
    | some (n, s) =>
      let taken := match s.target with
        | .text rest _ => rest.length
        | _ => wanted
      let host := j.toHost.skip n taken
      { j with toHost := if whole then host.reachEnd n else host }

/-- The bytes of a file, or of the input for a dash. -/
def read (name : Bytes) : Task (Except Failure Bytes) := do
  if name = ['-'] then takeChannel 0
  else
    let j ← get
    match j.toHost.readPath j.channels (Bytes.toName name) with
    | .ok (t, host) =>
      set { j with toHost := host }
      return .ok t
    | .error f => return .error f

/-- The bytes of a file, or of the input for a dash, unless it cannot be read, which is
said. -/
def contentOf (name : Bytes) : Task (Option Bytes) := do
  match ← read name with
  | .ok t => return some t
  | .error f =>
    complainOf name f
    return none

/-- Opens a file, or a device, and prints to it. -/
def printToFile (name : Bytes) (how : Opening) (t : Bytes) : Task (Option Failure) := do
  let j ← get
  match j.toHost.openPath j.channels how false (Bytes.toName name) with
  | .error f => return some f
  | .ok (n, host) =>
    let (failure, host) := host.write n t
    let isOld := fun m => m < j.toHost.nextNumber
    set { j with toHost := host.closeAllBut isOld }
    return failure

/-- Says where to look for help. -/
def hint : Task Unit := do
  warn ("Try '".toList ++ (← get).name ++ " --help' for more information.".toList)

/-- Says what the program lacks and where to look for help. -/
def misuse (what : Bytes) : Task Unit := do
  complain what
  hint

/-- The status of a program that nobody reads any more. -/
def unreadStatus : Nat := 128 + 13

/-- Passes on what is still held. That it cannot be passed on is a mistake, which has
a status of its own. -/
def conclude (status : Nat) : Task Unit := do
  flush
  match (← get).fault with
  | none => return ()
  | some .unread => leave unreadStatus
  | some f =>
    complainOf "write error".toList f
    leave status

/-- Reads the words of a program and goes on with them, if they can be read. -/
def withWords (o : Options) (words : List Bytes) (next : Words → Task Unit) : Task Unit := do
  match Words.read o words with
  | .error f =>
    complain f.message
    if o.hints = [] then hint
    for line in o.hints do warn line.toList
    leave o.misuse
  | .ok w => next w

/-- Says of every option that is not known that it is not known, up to the first other
thing that is wrong. -/
def tellUnknown (o : Options) : Nat → List Bytes → Task Unit
  | 0, _ => return ()
  | fuel + 1, words => do
    match Words.read o words with
    | .error (.unknownName word) =>
      complain (Words.Fault.unknownName word).message
      tellUnknown o fuel (words.erase word)
    | .error f => complain f.message
    | .ok _ => return ()

/-- Reads words as others do, but tells of every option that is not known. -/
def withAllTold (o : Options) (words : List Bytes) (next : Words → Task Unit) : Task Unit := do
  match Words.read o words with
  | .ok w => next w
  | .error _ =>
    tellUnknown o words.length words
    hint
    leave o.misuse

/-- Says that words are missing. -/
def lacksOperand : Task Unit :=
  misuse "missing operand".toList

/-- Says that there is a word too many. -/
def hasExtra (word : Bytes) : Task Unit :=
  misuse ("extra operand ".toList ++ shown word)

end Job

end Weave
