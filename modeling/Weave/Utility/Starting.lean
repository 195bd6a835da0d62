import Weave.Number.Decimal
import Weave.Signal
import Weave.Utility.Job

/-!
# Waiting, and starting other programs

Programs that wait, and programs that start others in another way: for some time only, with
less haste, or with other buffers.
-/
namespace Weave.Utility

open Job

/-- The nanoseconds in a unit of time, by its letter. -/
def unitOf? (letter : Bytes) : Option Nat :=
  let second := 1000000000
  match letter with
  | [] => some second
  | ['s'] => some second
  | ['m'] => some (60 * second)
  | ['h'] => some (3600 * second)
  | ['d'] => some (86400 * second)
  | _ => none

/-- The nanoseconds of a time: a number, maybe with a letter for its unit. -/
def duration? (word : Bytes) : Option Nat :=
  match Decimal.read? word with
  | some (d, rest) =>
    if d.negative && d.digits != 0 then none
    else (unitOf? rest).map fun unit => (d.inSteps 9).natAbs * unit / 1000000000
  | none => if word = "inf".toList || word = "infinity".toList then some 0 else none

/-- Lets time pass. -/
def pass (nanoseconds : Nat) : Task Unit :=
  modify fun j => { j with files := { j.files with now := j.files.now + nanoseconds } }

/-- Waits. -/
def sleep : Utility := fun words =>
  withWords {} words fun w => do
    if w.rest = [] then lacksOperand
    else
      match w.rest.filter fun word => (duration? word).isNone with
      | [] => pass ((w.rest.filterMap duration?).foldl (· + ·) 0)
      | bad =>
        for word in bad do complain ("invalid time interval ".toList ++ shown word)
        hint

/-- Starts a command, or says why that cannot be done. -/
def startOr (launch : Launch) (say : Bytes → Failure → Bytes) (command : Bytes)
    (words : List Bytes) : Task Unit := do
  match ← launch command words with
  | none => return ()
  | some f =>
    complain (say command f)
    leave (if f = .notFound then 127 else 126)

def failedToRun (command : Bytes) (f : Failure) : Bytes :=
  "failed to run command ".toList ++ shown command ++ ": ".toList ++ f.reason

def misuse125 (what : Bytes) : Task Unit := do
  misuse what
  leave 125

/-- Starts a command that has only some time. -/
def timeout : Starter := fun launch words =>
  let o : Options :=
    { flags := "fpv", valued := "ks", anywhere := false, misuse := 125
      names := [("foreground", 'f'), ("preserve-status", 'p'), ("verbose", 'v'),
        ("kill-after", 'k'), ("signal", 's')] }
  withWords o words fun w => do
    let signal := (w.value? 's').getD "TERM".toList
    match (Signal.ofWord? true signal).filter (· != 0), w.rest with
    | none, _ => misuse125 (shown signal ++ ": invalid signal".toList)
    | some _, [] => do
      hint
      leave 125
    | some _, [_] => do
      hint
      leave 125
    | some number, time :: command :: words =>
      match duration? time with
      | none => misuse125 ("invalid time interval ".toList ++ shown time)
      | some limit =>
        let start := (← get).files.now
        startOr launch failedToRun command words
        let finish := (← get).files.now
        if limit != 0 && start + limit < finish then
          modify fun j => { j with
            files := { j.files with now := start + limit }
            signal := if number = Signal.kill then some number else none
            status := if number = Signal.kill || w.has "p" then Signal.statusOf number
              else 124 }

/-- Starts a command with less haste. -/
def nice : Starter := fun launch words =>
  let isLevel (word : Bytes) : Bool := match word with
    | '-' :: '-' :: c :: _ => c.isDigit
    | '-' :: c :: _ => c.isDigit
    | _ => false
  let words := if words.head?.any isLevel then words.drop 1 else words
  let o : Options :=
    { valued := "n", names := [("adjustment", 'n')], anywhere := false, misuse := 125 }
  withWords o words fun w => do
    let level := (w.value? 'n').getD ['0']
    let (_, size) := Decimal.readMinus level
    if size = [] || !size.all Char.isDigit then
      complain ("invalid adjustment ".toList ++ shown level)
      leave 125
    else
      match w.rest with
      | [] => printLine ['0']
      | command :: words =>
        startOr launch (fun c f => shown c ++ ": ".toList ++ f.reason) command words

/-- Starts a command that does not end with its terminal. -/
def nohup : Starter := fun launch words =>
  withWords { anywhere := false, misuse := 125 } words fun w => do
    match w.rest with
    | [] => misuse125 "missing operand".toList
    | command :: words => startOr launch failedToRun command words

/-- Starts a command in a session of its own. -/
def setsid : Starter := fun launch words =>
  let o : Options :=
    { flags := "cfw", anywhere := false, names := [("ctty", 'c'), ("fork", 'f'), ("wait", 'w')] }
  withWords o words fun w => do
    match w.rest with
    | [] => misuse "no command specified".toList
    | command :: words =>
      startOr launch (fun c f => "failed to execute ".toList ++ c ++ ": ".toList ++ f.reason)
        command words

/-- Starts a command with something about it changed that does not show. -/
def startPlainly : Starter := fun launch words =>
  withWords { anywhere := false } words fun w => do
    match w.rest with
    | [] => return ()
    | command :: words =>
      startOr launch (fun c f => "failed to execute ".toList ++ c ++ ": ".toList ++ f.reason)
        command words

/-- Starts a command with other buffers for its streams. -/
def stdbuf : Starter := fun launch words =>
  let o : Options :=
    { valued := "ioe", anywhere := false, misuse := 125
      names := [("input", 'i'), ("output", 'o'), ("error", 'e')] }
  let isMode (t : Bytes) : Bool := t = ['L'] || (t.head?.any Char.isDigit)
  withWords o words fun w => do
    match w.rest, w.values.find? fun v => !isMode v.2 with
    | _, some (_, mode) =>
      complain ("invalid mode ".toList ++ shown mode)
      leave 125
    | [], none => misuse125 "missing operand".toList
    | command :: words, none =>
      if w.values = [] then misuse125 "you must specify a buffering mode option".toList
      else startOr launch failedToRun command words

end Weave.Utility
