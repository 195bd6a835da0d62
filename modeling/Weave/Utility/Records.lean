import Weave.Record.Run

/-!
# The program for records

Its words give a program, or files that hold one, values for names, and the files with the
records.
-/
namespace Weave.Utility

open Job Record

/-- What the words ask for. -/
structure RecordWords where
  mark : Option Bytes := none
  settings : List Bytes := []
  files : List Bytes := []
  rest : List Bytes := []
deriving Repr, DecidableEq

namespace RecordWords

/-- Adds the value of an option. -/
def add (w : RecordWords) (c : Char) (value : Bytes) : RecordWords :=
  if c = 'f' then { w with files := w.files ++ [value] }
  else if c = 'F' then { w with mark := some value }
  else if c = 'v' then { w with settings := w.settings ++ [value] }
  else w

/-- Reads the options, or tells what is wrong with them. -/
def read : List Bytes → RecordWords → Except Bytes RecordWords
  | ['-', '-'] :: rest, w => .ok { w with rest := rest }
  | ('-' :: '-' :: name) :: rest, w =>
    if ["posix", "re-interval", "traditional", "lint"].any fun known => known.toList = name then
      read rest w
    else .error ("not an option: --".toList ++ name)
  | ('-' :: c :: cs) :: rest, w =>
    if c = 'f' || c = 'F' || c = 'v' || c = 'W' then
      match cs, rest with
      | [], value :: rest => read rest (w.add c value)
      | [], [] => .error ("option -".toList ++ c :: " lacks argument".toList)
      | value, rest => read rest (w.add c value)
    else .error ("not an option: -".toList ++ c :: cs)
  | rest, w => .ok { w with rest := rest }
end RecordWords

/-- What is said about a program that cannot be read. -/
def recordFault (f : Record.Fault) : Bytes :=
  match f with
  | .openText => "runaway string constant \" ...".toList
  | .openExpression => "runaway regular expression / ...".toList
  | .badExpression why => "regular expression compile failed (".toList ++ why
  | .unexpected what => "syntax error at or near ".toList ++ what
  | .lacksBrace => "missing \x7d near end of file".toList
  | .extraBrace => "extra '\x7d'".toList
  | .unknownSign c => "unexpected character '".toList ++ c :: ['\'']
  | .lacksParenthesis before => "missing ) near ".toList ++ before
  | .unknownFunction name => "function ".toList ++ name ++ " never defined".toList
  | .wrongCount function => "wrong number of arguments in call to ".toList ++ function
  | .tooMany function => "too many arguments in call to ".toList ++ function
  | .improper word => "improper use of ".toList ++ word
  | .outside word => word ++ " statement outside of loop".toList

/-- What a program begins with. -/
def recordStart (name : Bytes) (w : RecordWords) (environment : List (Bytes × Bytes))
    (arguments : List Bytes) : Record.State :=
  let texts : List (String × String) :=
    [("FS", " "), ("OFS", " "), ("ORS", "\n"), ("RS", "\n"), ("SUBSEP", "\x1c"),
     ("CONVFMT", "%.6g"), ("OFMT", "%.6g")]
  let numbers : List (String × Nat) := [("NR", 0), ("FNR", 0), ("NF", 0),
    ("ARGC", arguments.length + 1)]
  let words := (name :: arguments).zipIdx.map fun (word, i) => (Text.ofNat i, Value.read word)
  let s : Record.State := {
    values := (texts.map fun (n, t) => (n.toList, Value.text t.toList))
      ++ numbers.map fun (n, k) => (n.toList, .ofNat k)
    tables := [("ARGV".toList, words),
      ("ENVIRON".toList, environment.map fun (n, v) => (n, .read v))] }
  match w.mark with
  | some mark => s.setGlobal "FS".toList (.text (Token.meaning mark))
  | none => s

/-- The text of a program, or why a file with a part of it cannot be read. -/
def recordText : List Bytes → Task (Except Bytes Bytes)
  | [] => return .ok []
  | name :: names => do
    match ← read name with
    | .error f =>
      return .error ("cannot open \"".toList ++ name ++ "\" (".toList ++ f.reason ++ [')'])
    | .ok t =>
      match ← recordText names with
      | .ok more => return .ok (t ++ (if t.getLast? = some '\n' then [] else ['\n']) ++ more)
      | .error message => return .error message

/-- Runs a program that has been read. -/
def runRecords (launch : Launch) (name : Bytes) (program : Record.Program) (s : Record.State)
    (settings : List Bytes) : Task Unit := do
  let setting : Record.Setting := ⟨program.functions, launch⟩
  let whole : Record.Step Unit := do
    for word in settings do
      if let some (n, value) := Record.setting? word then Record.give n value
    Record.runProgram setting program
  let (result, s) ← (ExceptT.run whole).run s
  let finish : Task Unit := do
    let _ ← (ExceptT.run (Record.closeAll launch 1000)).run s
    return ()
  match result with
  | .ok _ =>
    finish
    match s.values.lookup "\x00status".toList with
    | some v => leave (Record.Value.truncated v.toNumber).toNat
    | none => leave 0
  | .error (.fault isRunning message) =>
    warn (name ++ ": ".toList ++ (if isRunning then "run time error: ".toList else []) ++ message)
    if isRunning then
      warn ("\tFILENAME=\"".toList ++ s.globalText "FILENAME" ++ "\" FNR=".toList
        ++ s.globalText "FNR" ++ " NR=".toList ++ s.globalText "NR")
    finish
    leave 2
  | .error _ =>
    finish
    leave 2

/-- Applies a program of rules to records. -/
def records : Starter := fun launch words => do
  let job ← get
  let name := lastPart job.name []
  let refuse (message : Bytes) : Task Unit := do
    warn (name ++ ": ".toList ++ message)
    leave 2
  match RecordWords.read words {} with
  | .error message => refuse message
  | .ok w =>
    match w.settings.find? fun word => (Record.setting? word).isNone with
    | some word => refuse ("improper assignment: -v ".toList ++ word)
    | none =>
      if w.files = [] && w.rest = [] then
        printLine "Usage: mawk [Options] [Program] [file ...]".toList
        return
      let text ← if w.files = [] then pure (.ok (w.rest.headD [])) else recordText w.files
      match text with
      | .error message => refuse message
      | .ok text =>
        match Record.Program.read text with
        | .error (f, line) =>
          let file := match w.files.getLast? with
            | some file => file ++ ": ".toList
            | none => []
          let place := (match f with
            | .unknownSign _ => file ++ Text.ofNat line
            | _ => file ++ "line ".toList ++ Text.ofNat line) ++ ": ".toList
          refuse (place ++ recordFault f)
          if f = .extraBrace then
            refuse (place ++ "syntax error at or near end of line".toList)
        | .ok program =>
          let arguments := if w.files = [] then w.rest.drop 1 else w.rest
          runRecords launch name program (recordStart name w job.environment arguments) w.settings

end Weave.Utility
