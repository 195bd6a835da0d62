import Weave.Utility.Job

/-!
# Programs about the environment

A program starts a command with other variables than its own: with none at all, without
some, or with some more. The words that say so may be given as one word that is to be
split. Others show the variables, and where programs are.
-/
namespace Weave.Utility

open Job

/-- What a command is started with. -/
structure Surroundings where
  /-- Whether it is given no variables but those that are set here. -/
  cleared : Bool := false
  removed : List Bytes := []
  settings : List (Bytes × Bytes) := []
  /-- Where it is started. -/
  directory : Option Bytes := none
  /-- Whether what is shown ends with zeros. -/
  ended : Bool := false
  command : List Bytes := []
deriving Repr, DecidableEq

namespace Surroundings

/-- A letter that is no option, or one that lacks its value. -/
inductive Fault where
  | unknown (c : Char)
  | unknownName (word : Bytes)
  | lacksValue (c : Char)
deriving Repr, DecidableEq

def isSpace (c : Char) : Bool := c = ' ' || (9 ≤ c.toNat && c.toNat ≤ 13)

def splitWords (t : Bytes) : List Bytes :=
  (Text.splitOn ' ' (t.map fun c => if isSpace c then ' ' else c)).filter (· ≠ [])

/-- Names and values, and the command behind them. -/
def readSettings : List Bytes → Surroundings → Surroundings
  | [], e => e
  | word :: words, e =>
    let name := word.takeWhile (· ≠ '=')
    match word.drop name.length with
    | [] => { e with command := word :: words }
    | _ :: value => readSettings words { e with settings := e.settings ++ [(name, value)] }

/-- Reads the letters of a word. The answer is the words behind. -/
def readLetters : Bytes → List Bytes → Surroundings → Except Fault (List Bytes × Surroundings)
  | [], words, e => .ok (words, e)
  | c :: letters, words, e =>
    if c = 'i' then readLetters letters words { e with cleared := true }
    else if c = '0' then readLetters letters words { e with ended := true }
    else if c = 'v' then readLetters letters words e
    else if c = 'u' || c = 'S' || c = 'C' then
      match if letters = [] then words else letters :: words with
      | [] => .error (.lacksValue c)
      | value :: words =>
        if c = 'S' then .ok (splitWords value ++ words, e)
        else if c = 'u' then .ok (words, { e with removed := e.removed ++ [value] })
        else .ok (words, { e with directory := some value })
    else .error (.unknown c)

/-- The letters of longer names. -/
def names : List (String × Char) :=
  [("ignore-environment", 'i'), ("null", '0'), ("unset", 'u'), ("chdir", 'C'),
   ("split-string", 'S'), ("debug", 'v')]

/-- The word with a letter in place of a longer name. -/
def shorten (word : Bytes) : Except Fault Bytes :=
  let name := (word.drop 2).takeWhile (· ≠ '=')
  match names.filter fun n => Text.beginsWith name n.1.toList with
  | [(_, c)] => .ok ('-' :: c :: (word.drop (name.length + 3)))
  | _ => .error (.unknownName word)

/-- Reads the words; the number bounds how often words are split. -/
def read : Nat → List Bytes → Surroundings → Except Fault Surroundings
  | 0, words, e => .ok (readSettings words e)
  | fuel + 1, words, e =>
    match words with
    | ['-'] :: words => .ok (readSettings words { e with cleared := true })
    | ['-', '-'] :: words => .ok (readSettings words e)
    | ('-' :: '-' :: name) :: words => do
      read fuel ((← shorten ('-' :: '-' :: name)) :: words) e
    | ('-' :: letters) :: words => do
      let (words, e) ← readLetters letters words e
      read fuel words e
    | words => .ok (readSettings words e)

def ofWords (words : List Bytes) : Except Fault Surroundings :=
  read (2 * words.length + 2 * words.flatten.length) words {}

/-- Variables with one that is set; where it was set before, it keeps its place. -/
def setIn (variables' : List (Bytes × Bytes)) (name value : Bytes) : List (Bytes × Bytes) :=
  if (variables'.lookup name).isSome then
    variables'.map fun v => if v.1 = name then (name, value) else v
  else variables' ++ [(name, value)]

/-- The variables that the command is given. -/
def apply (e : Surroundings) (before : List (Bytes × Bytes)) : List (Bytes × Bytes) :=
  let kept := if e.cleared then [] else before
  let left := kept.filter fun v => !e.removed.contains v.1
  e.settings.foldl (fun vars v => setIn vars v.1 v.2) left

/-- A word with the characters that end a line shown by letters. -/
def shownWord (word : Bytes) : Bytes :=
  word.flatMap fun c =>
    if c = '\n' then "\\n".toList else if c = '\r' then "\\r".toList
    else if c = '\t' then "\\t".toList else [c]

/-- Where a whole line was taken for one word, the program says how to split it. -/
def advice (name : Bytes) (isLine : Bool) : List Bytes :=
  if isLine then [name ++ ": use -[v]S to pass options in shebang lines".toList] else []

def Fault.lines (name : Bytes) (f : Fault) : List Bytes :=
  let hint := "Try '".toList ++ name ++ " --help' for more information.".toList
  let about (what : String) (c : Char) : List Bytes :=
    (name ++ ": ".toList ++ what.toList ++ " -- '".toList ++ [c, '\'']) :: advice name (isSpace c)
  match f with
  | unknown c => about "invalid option" c ++ [hint]
  | lacksValue c => about "option requires an argument" c ++ [hint]
  | unknownName word => [name ++ ": unrecognized option ".toList ++ Naming.quoted word, hint]

/-- What is said where the command cannot be started, and the status. -/
def refuse (name command : Bytes) (f : Failure) : List Bytes × Nat :=
  let said := name ++ ": '".toList ++ shownWord command ++ "': ".toList ++ f.reason
  (said :: advice name (f = .notFound && command.any isSpace), if f = .notFound then 127 else 126)

end Surroundings

/-- Prints variables as settings. -/
def showVariables (ending : Char) (shown' : List (Bytes × Bytes)) : Task Unit :=
  for (name, value) in shown' do print (name ++ '=' :: value ++ [ending])

/-- Starts a command in other surroundings, or shows what they would be. -/
def env : Starter := fun launch words => do
  let job ← get
  match Surroundings.ofWords words with
  | .error f =>
    for line in f.lines job.name do warn line
    leave 125
  | .ok e =>
    let inside := e.apply job.environment
    match e.command with
    | [] => showVariables (if e.ended then '\x00' else '\n') inside
    | program :: words =>
      match job.files.enter (Bytes.toName (e.directory.getD ['.'])) with
      | .error f =>
        complainOf ("cannot change directory to ".toList ++ shown (e.directory.getD [])) f
        leave 125
      | .ok files =>
        modify fun j => { j with environment := inside, files := files }
        let failure ← launch program words
        modify fun j => { j with environment := job.environment }
        match failure with
        | none => return ()
        | some f =>
          let (lines, status) := Surroundings.refuse job.name program f
          for line in lines do warn line
          leave status

/-- Shows variables, or the values of some of them. -/
def printenv : Utility := fun words =>
  let options : Options :=
    { flags := "0", names := [("null", '0')], anywhere := false, misuse := 2 }
  withWords options words fun w => do
    let environment := (← get).environment
    let ending := if w.has "0" then '\x00' else '\n'
    if w.rest = [] then showVariables ending environment
    for name in w.rest do
      match environment.lookup name with
      | some value => print (value ++ [ending])
      | none => leave 1

/-- Shows where programs are. -/
def which : Utility := fun words => do
  let job ← get
  let every := words.head? = some "-a".toList
  let names := if every then words.drop 1 else words
  let dirs := Text.splitOn ':' ((job.environment.lookup "PATH".toList).getD [])
  let runs (path : Bytes) : Bool :=
    (job.files.find (Bytes.toName path)).toOption.any fun f => f.2.isFile && f.2.isRunnable
  if names = [] then leave 1
  for name in names do
    let paths := if name.contains '/' then [name] else dirs.map fun dir => Path.join dir name
    let found := paths.filter runs
    if found = [] then leave 1
    for path in if every then found else found.take 1 do printLine path

end Weave.Utility
