import Weave.Shell.Command
import Weave.Utility.Table

/-!
# The state of a shell

What shells share is the host with its files and streams, the commands that run
beside them and the signals that have been sent. What belongs to one shell are its
variables, functions, arguments, channels and options; a shell inside another one
begins with the same and loses its changes at its end.
-/
namespace Weave.Shell

structure Variable where
  name : Bytes
  value : Option Bytes
  /-- Whether it is passed on to other programs. -/
  exported : Bool := false
  /-- Whether it stays as it is. -/
  fixed : Bool := false
deriving Repr, DecidableEq

/-- What comes after a command. -/
inductive Flow where
  | onward
  | leaving
  /-- Out of everything because of a mistake. -/
  | failing
  | returning
  /-- Out of so many loops. -/
  | breaking (loops : Nat)
  /-- Out of so many loops but the last, which goes on. -/
  | continuing (loops : Nat)
  /-- Ended by a signal. -/
  | dying (signal : Nat)
deriving Repr, DecidableEq

/-- A variable as it was before a function made it its own. -/
abbrev Kept := Bytes × Option Variable

/-- What belongs to one shell. -/
structure Process where
  dialect : Dialect := .standard
  /-- What the script is called. -/
  name : Bytes
  /-- The command of the shell that messages are about. -/
  title : Bytes := []
  arguments : List Bytes := []
  vars : List Variable := []
  functions : List (Bytes × Command) := []
  aliases : List (Bytes × Bytes) := []
  /-- The programs whose places are known because they have been run. -/
  known : List Bytes := []
  options : List Char := []
  channels : Channels := []
  status : Nat := 0
  /-- Whether the output of a command was put in its place. -/
  substituted : Bool := false
  line : Nat := 0
  /-- The line that reading the script has come to. -/
  reached : Nat := 0
  /-- The working directory as it was gone to, links and all. -/
  directory : Bytes := []
  /-- How many letters of an argument have been read as options. -/
  optionLetters : Nat := 0
  flow : Flow := .onward
  /-- The commands that were not waited for, the last one first. -/
  jobs : List Nat := []
  /-- The commands to run when a signal comes, or at the end, which counts as zero. -/
  traps : List (Nat × Bytes) := []
  /-- Variables to be put back at the end of each function that is running. -/
  saved : List (List Kept) := []
  /-- The number of the shell itself, that of its script, and that of the one that
  started it. -/
  number : Nat := 0
  scriptNumber : Nat := 0
  parentNumber : Nat := 0
  /-- The shells that wait for this one. -/
  waiting : List Nat := []
  /-- How many loops it is inside of, and how many shells and functions. -/
  loops : Nat := 0
  depth : Nat := 0

/-- A command that runs beside the shell and has not come to its end, because it takes
time. -/
structure Deferred where
  number : Nat
  /-- When it begins and when it will end. -/
  start : Int
  finish : Int
  here : Place
  process : Process
  command : Command

structure State extends Host, Process where
  deferred : List Deferred := []
  /-- How the commands ended that ran beside a shell. -/
  ended : List (Nat × Nat) := []
  /-- The signals that have been sent to shells and not been handled, the first one
  first. -/
  signals : List (Nat × Nat) := []
  lastNumber : Nat := 1000

/-- A step of a shell. -/
abbrev Step := StateM State

namespace State

def holder? (s : State) (name : Bytes) : Option Variable :=
  s.vars.find? fun v => v.name = name

def without (s : State) (name : Bytes) : State :=
  { s with vars := s.vars.filter fun v => v.name != name }

/-- Puts a variable back as it was. -/
def restore (s : State) (name : Bytes) (before : Option Variable) : State :=
  { s.without name with vars := before.toList ++ (s.without name).vars }

/-- Where a shell looks for the place of the next option. -/
def optionIndex : Bytes := "OPTIND".toList

def set (s : State) (name value : Bytes) : State :=
  let exported := (s.holder? name).any Variable.exported || s.options.contains 'a'
  let s := if name = optionIndex then { s with optionLetters := 0 }
    else if name = "PATH".toList then { s with known := [] } else s
  s.restore name (some { name, value := some value, exported })

/-- Makes a variable one that is passed on to other programs. -/
def passOn (s : State) (name : Bytes) : State :=
  let before := (s.holder? name).getD { name, value := none }
  s.restore name (some { before with exported := true })

/-- Makes a variable one that stays as it is. -/
def fix (s : State) (name : Bytes) : State :=
  let before := (s.holder? name).getD { name, value := none }
  s.restore name (some { before with fixed := true })

/-- The value of a variable, an argument or a sign. -/
def value? (s : State) (name : Bytes) : Option Bytes :=
  match name with
  | ['#'] => some (Text.ofNat s.arguments.length)
  | ['?'] => some (Text.ofNat s.status)
  | ['-'] => some s.options
  | ['$'] => some (Text.ofNat s.scriptNumber)
  | ['!'] => s.jobs.head?.map Text.ofNat
  | name =>
    if name.all Char.isDigit && name != [] then
      match Escape.numberIn 10 name with
      | 0 => some s.name
      | n + 1 => s.arguments[n]?
    else if name = "LINENO".toList && s.dialect = .extended then some (Text.ofNat s.line)
    else (s.holder? name).bind Variable.value

/-- The characters that separate fields. -/
def separators (s : State) : Bytes :=
  (s.value? "IFS".toList).getD [' ', '\t', '\n']

/-- Prints to a channel; the answer is why that cannot be done. -/
def printTo (s : State) (channel : Nat) (t : Bytes) : Option Failure × State :=
  match s.channels.lookup channel with
  | none => (if t = [] then none else some .closed, s)
  | some n =>
    let (failure, host) := s.toHost.write n t
    (failure, { s with toHost := host })

/-- Says something about a mistake. -/
def say (s : State) (t : Bytes) : State :=
  (s.printTo 2 t).2

/-- What stands before a message of the shell. -/
def prefixed (s : State) (message : Bytes) : Bytes :=
  let line := match s.dialect with
    | .standard => ": ".toList
    | .extended => ": line ".toList
  let title := if s.title = [] then [] else s.title ++ ": ".toList
  s.name ++ line ++ Text.ofNat s.line ++ ": ".toList ++ title ++ message

def complain (s : State) (message : Bytes) : State :=
  s.say (s.prefixed message ++ ['\n'])

/-- Ends everything with a status. -/
def leave (s : State) (status : Nat) : State :=
  { s with status := status % 256, flow := .leaving }

/-- Ends everything because of a mistake. -/
def giveUp (s : State) (message : Bytes) : State :=
  { s.complain message with status := if s.dialect = .standard then 2 else 1, flow := .failing }

/-- Ends everything because a variable is to stay as it is. -/
def refuseFixed (s : State) (name : Bytes) : State :=
  s.giveUp (name ++ match s.dialect with
    | .standard => ": is read only".toList
    | .extended => ": readonly variable".toList)

def isFixed (s : State) (name : Bytes) : Bool :=
  (s.holder? name).any Variable.fixed

/-- Gives a variable a value where it may have another one. -/
def assign (s : State) (name value : Bytes) : State :=
  if s.isFixed name then s.refuseFixed name else s.set name value

/-- The number of the signal that a program gets that prints what nobody reads. -/
def unreadSignal : Nat := 13

/-- Says that something could not be printed, unless the shell ends by that. -/
def refusePrint (s : State) (f : Failure) : State :=
  if f = .unread && s.traps.lookup unreadSignal != some [] then
    { s with flow := .dying unreadSignal }
  else
    let about := s.title
    { s.complain (match s.dialect with
        | .standard => about ++ ": I/O error".toList
        | .extended => "write error: ".toList ++ f.reason) with status := 1 }

/-- Prints to the output. -/
def print (s : State) (t : Bytes) : State :=
  match s.printTo 1 t with
  | (none, s) => s
  | (some f, s) => s.refusePrint f

/-- The variables that other programs are given. -/
def environment (s : State) : List (Bytes × Bytes) :=
  s.vars.reverse.filterMap fun v =>
    if v.exported then v.value.map fun value => (v.name, value) else none

/-- The job of a program that works on what the shell has. -/
def jobFor (s : State) (name : Bytes) : Job :=
  { s.toHost with name, channels := s.channels, environment := s.environment }

/-- What the shell has behind a job. -/
def behind (s : State) (job : Job) : State :=
  { s with
    toHost := job.toHost
    status := job.status
    flow := match job.signal with
      | some signal => .dying signal
      | none => s.flow }

/-- Runs a program of the system by the name it is given. Where it goes and what it
does not want to grant to others is its own. -/
def runUtility (s : State) (name : Bytes) (utility : Utility) (words : List Bytes) : State :=
  let (_, job) := StateT.run (utility words) (s.jobFor name)
  let files := { job.files with here := s.files.here, mask := s.files.mask }
  s.behind { job with files := files }

/-- Carries out a program of the system within the shell. -/
def runWithin (s : State) (name : Bytes) (utility : Utility) (words : List Bytes) : State :=
  let own := { s with title := [] }.prefixed name
  let (_, job) := StateT.run (do utility words; Job.flush) (s.jobFor own)
  match job.fault with
  | none => s.behind job
  | some f => { s.behind job with title := name }.refusePrint f

end State

end Weave.Shell
