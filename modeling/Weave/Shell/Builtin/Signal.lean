import Weave.Shell.Builtin.Basic
import Weave.Signal

/-!
# Commands on signals

A shell sends signals to itself, to shells that wait for it, and to commands that run
beside it; and it keeps commands to be run when a signal comes.
-/
namespace Weave.Shell.Builtin

/-- The name of a signal where a command for it is shown. -/
def signalTitle (d : Dialect) (n : Nat) : Bytes :=
  match d with
  | .standard => Signal.name n
  | .extended => if n = 0 then Signal.name n else "SIG".toList ++ Signal.name n

/-- The commands that are kept for signals. -/
def trapList (s : State) : Bytes :=
  let sorted := s.traps.mergeSort fun a b => a.1 ≤ b.1
  Text.unlines (sorted.map fun (n, action) =>
    "trap -- ".toList ++ singleQuoted action ++ ' ' :: signalTitle s.dialect n)

/-- Keeps a command for a signal; an empty one means that the signal is passed over. -/
def keepTrap (s : State) (action : Option Bytes) (n : Nat) : State :=
  let others := s.traps.filter fun t => t.1 != n
  { s with traps := (action.map fun a => (n, a)).toList ++ others }

/-- Keeps commands for signals, or for the end of the script, or shows them. -/
def trap : Builtin := fun words =>
  withOptions (if words.head? = some "-l".toList then "" else "p") words fun _ words => do
    succeed
    let isNumber (word : Bytes) : Bool := word != [] && word.all Char.isDigit
    let (action, events) := match words with
      | [] => (none, [])
      | [event] => (none, [event])
      | first :: rest =>
        if isNumber first then (none, words)
        else (if first = ['-'] then none else some first, rest)
    if words = [] then modify fun s => s.print (trapList s)
    for event in events do
      let s ← get
      if s.status = 0 then
        match Signal.ofWord? (s.dialect = .extended) event with
        | some n => set (keepTrap s action n)
        | none =>
          let said := match s.dialect with
            | .standard => s.say ("trap: ".toList ++ event ++ ": bad trap\n".toList)
            | .extended => s.complain (event ++ ": invalid signal specification".toList)
          set { said with status := 1 }

/-- The names of all signals, or of those that numbers or statuses stand for. -/
def signalList (s : State) (words : List Bytes) : State :=
  match words with
  | [] =>
    let names := (List.range Signal.names.length).map fun i => Signal.name (i + 1)
    { s with status := 0 }.print (Text.unlines (['0'] :: names))
  | word :: _ =>
    match count? word with
    | none => { s.complain (illegalNumber .standard word) with status := 2 }
    | some n =>
      let n := if n > 128 then n - 128 else n
      if n ≤ 64 then { s with status := 0 }.print (Signal.name n ++ ['\n'])
      else
        { s.complain ("invalid signal number or exit status: ".toList ++ word) with status := 2 }

/-- The number of what a word names: a shell or a command that runs beside it. -/
def numberOf? (s : State) (word : Bytes) : Option Nat :=
  match word with
  | '%' :: job => (count? job).bind fun n => if n = 0 then none else s.jobs.reverse[n - 1]?
  | word => count? word

/-- Sends a signal, unless there is nobody to get it. -/
def send (s : State) (signal number : Nat) : Option State :=
  if number = s.number || s.waiting.contains number then
    some (if signal = 0 then s else { s with signals := s.signals ++ [(number, signal)] })
  else if s.deferred.any fun d => d.number = number then
    some (if signal = 0 || Signal.isHarmless signal then s
      else { s with
        deferred := s.deferred.filter fun d => d.number != number
        ended := (number, Signal.statusOf signal) :: s.ended })
  else if number = s.parentNumber && signal = 0 then some s
  else none

/-- Splits the signal from those that are to get it, or says what is wrong. -/
def readKill (d : Dialect) : List Bytes → Except (Bytes × Nat) (Nat × List Bytes)
  | ['-', '-'] :: rest => .ok (15, rest)
  | ['-', 's'] :: word :: rest =>
    match Signal.ofWord? (d = .extended) word with
    | some n => .ok (n, rest)
    | none => .error ("invalid signal number or name: ".toList ++ word, 2)
  | [['-', 's']] => .error ("No arg for -s option".toList, 2)
  | ('-' :: c :: word) :: rest =>
    match Signal.ofWord? (d = .extended) (c :: word) with
    | some n => .ok (n, rest)
    | none => .error (match d with
        | .standard => ("Illegal option -".toList ++ [c], 2)
        | .extended => (c :: word ++ ": invalid signal specification".toList, 1))
  | words => .ok (15, words)

def killUsage : List String :=
  ["Usage: kill [-s sigspec | -signum | -sigspec] [pid | job]... or", "kill -l [exitstatus]"]

/-- Sends a signal, or shows the names of signals. -/
def kill : Builtin := fun words => do
  let s ← get
  if words.head? = some "-l".toList then set (signalList s (words.drop 1))
  else
    match readKill s.dialect words with
    | .error (message, status) => refuse message status
    | .ok (_, []) =>
      let said := s.say (s.prefixed (Text.joinWith ['\n'] (killUsage.map String.toList)) ++ ['\n'])
      set { said with status := 2 }
    | .ok (signal, targets) =>
      succeed
      for target in targets do
        let s ← get
        match numberOf? s (if target.head? = some '-' then target.drop 1 else target) with
        | none =>
          match s.dialect with
          | .standard => refuse (illegalNumber .standard target) 2
          | .extended => refuse (target ++ ": arguments must be process or job IDs".toList) 1
        | some number =>
          match send s signal number with
          | some s => set s
          | none =>
            match s.dialect with
            | .standard => refuse "No such process\n".toList 1
            | .extended => refuse ('(' :: target ++ ") - No such process".toList) 1

end Weave.Shell.Builtin
