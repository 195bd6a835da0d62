import Weave.Number.Decimal
import Weave.Text.Replacement
import Weave.Utility.Lines

/-!
# Words from the input

Starting a command with words that are read from the input: with all of them, with some at
a time, or in place of a mark in its own words.
-/
namespace Weave.Utility

open Job


/-- Reads one word up to a space; marks and backslashes quote. -/
def readQuoted : Bytes → Option Char → Except Char (Bytes × Bytes)
  | [], none => .ok ([], [])
  | [], some mark => .error mark
  | c :: rest, some mark =>
    if c = mark then readQuoted rest none
    else if c = '\n' then .error mark
    else do
      let (word, behind) ← readQuoted rest (some mark)
      return (c :: word, behind)
  | '\\' :: c :: rest, none => do
    let (word, behind) ← readQuoted rest none
    return (c :: word, behind)
  | c :: rest, none =>
    if c = ' ' || c = '\t' || c = '\n' then .ok ([], c :: rest)
    else if c = '\'' || c = '"' then readQuoted rest (some c)
    else do
      let (word, behind) ← readQuoted rest none
      return (c :: word, behind)

/-- The words of a text, line by line. A line that ends in a space goes on in the next. -/
def readWords : Nat → Bytes → Except Char (List (List Bytes))
  | 0, _ => .ok []
  | fuel + 1, t =>
    match t.dropWhile fun c => c = ' ' || c = '\t' || c = '\n' with
    | [] => .ok []
    | t => do
      let (line, rest) ← readLine fuel t
      return line :: (← readWords fuel rest)
where
  readLine : Nat → Bytes → Except Char (List Bytes × Bytes)
    | 0, t => .ok ([], t)
    | fuel + 1, t => do
      let (word, behind) ← readQuoted t none
      let next := behind.dropWhile fun c => c = ' ' || c = '\t'
      match next with
      | [] => return ([word], [])
      | '\n' :: rest =>
        if next.length < behind.length then
          let (words, rest) ← readLine fuel (rest.dropWhile fun c => c = ' ' || c = '\t')
          return (word :: words, rest)
        else return ([word], rest)
      | next =>
        let (words, rest) ← readLine fuel next
        return (word :: words, rest)

/-- Words in groups of so many. -/
def inGroups {α : Type} (size : Nat) : Nat → List α → List (List α)
  | 0, _ => []
  | _, [] => []
  | fuel + 1, words => words.take size :: inGroups size fuel (words.drop size)

/-- The words that are added to each start of a command. -/
def groupsOf (w : Words) (lines : List (List Bytes)) : List (List Bytes) :=
  let amount? (letter : Char) : Option Nat := (w.value? letter).map Decimal.value
  match amount? 'n', amount? 'L' with
  | some n, _ => inGroups (max n 1) lines.flatten.length lines.flatten
  | none, some n => (inGroups (max n 1) lines.length lines).map List.flatten
  | none, none => [lines.flatten]

/-- Starts a command once more, unless its status forbids to go on. -/
def startNext (launch : Launch) (tells : Bool) (command : List Bytes) : Task Bool := do
  let job ← get
  let status := job.status
  if tells then warn (Text.joinWith [' '] (command.map Naming.bare))
  flush
  let (n, host) := (← get).toHost.add { target := .device .null, reads := true }
  modify fun j => { j with
    toHost := host
    channels := (0, n) :: job.channels.filter fun c => c.1 != 0 }
  let name := command.headD []
  let failure ← launch name (command.drop 1)
  modify fun j => { j with
    toHost := j.toHost.closeAllBut fun m => m < job.toHost.nextNumber
    channels := job.channels }
  match failure with
  | some f =>
    complainOf name f
    leave (if f = .notFound then 127 else 126)
    return false
  | none =>
    let after ← modifyGet fun j => (j, { j with signal := none })
    let own := after.status
    if own = 255 then
      complain (name ++ ": exited with status 255; aborting".toList)
      leave 124
      return false
    else if let some signal := after.signal then
      complain (name ++ ": terminated by signal ".toList ++ Text.ofNat signal)
      leave 125
      return false
    else
      leave (if own = 0 then status else 123)
      return true

def startAll (launch : Launch) (tells : Bool) : List (List Bytes) → Task Unit
  | [] => return ()
  | command :: more => do
    if ← startNext launch tells command then startAll launch tells more

/-- Starts a command with words from the input. -/
def xargs : Starter := fun launch words =>
  let o : Options :=
    { flags := "0rtxpo", valued := "adnILPsE", anywhere := false,
      names := [("null", '0'), ("no-run-if-empty", 'r'), ("verbose", 't'), ("exit", 'x'),
        ("interactive", 'p'), ("open-tty", 'o'), ("arg-file", 'a'), ("delimiter", 'd'),
        ("max-args", 'n'), ("replace", 'I'), ("max-lines", 'L'), ("max-procs", 'P'),
        ("max-chars", 's')] }
  withWords o words fun w => do
    let isNumber (t : Bytes) : Bool := t != [] && t.all Char.isDigit
    match w.values.find? fun v => "nLPs".toList.contains v.1 && !isNumber v.2 with
    | some (letter, word) =>
      misuse ("invalid number \"".toList ++ word ++ "\" for -".toList ++ letter :: " option".toList)
    | none =>
      let text ← match w.value? 'a' with
        | some file => contentOf file
        | none => pure (some (← takeInput))
      let some text := text | return ()
      let command := if w.rest = [] then ["echo".toList] else w.rest
      let mark? : Option Char := if w.has "0" then some '\x00'
        else (w.value? 'd').bind fun t => (Escape.expand .extended .format t).1.head?
      let split (mark : Char) : List Bytes := piecesBefore mark text
      match w.value? 'I' with
      | some mark =>
        let lines : List Bytes := match mark? with
          | some c => split c
          | none => ((Text.splitOn '\n' text).map fun (line : Bytes) =>
              line.dropWhile fun c => c = ' ' || c = '\t').filter (· ≠ [])
        startAll launch (w.has "t") (lines.map fun line =>
          command.map fun word => Text.replaceAll mark line word)
      | none =>
        let lines : Except Char (List (List Bytes)) := match mark? with
          | some c => .ok ((split c).map fun word => [word])
          | none => readWords (text.length + 1) text
        match lines with
        | .error mark =>
          let kind := if mark = '"' then "double" else "single"
          complain ("unmatched ".toList ++ kind.toList
            ++ " quote; by default quotes are special to xargs unless you use the -0 option".toList)
        | .ok lines =>
          if lines.flatten = [] then
            if !w.has "r" then startAll launch (w.has "t") [command]
          else startAll launch (w.has "t") ((groupsOf w lines).map fun group => command ++ group)

end Weave.Utility
