import Weave.Shell.Redirect

/-!
# Commands of the shell that steer it

Commands that only the shell can carry out are given the words behind their name. The
ones here say what comes next: they leave the script, a function or loops.
-/
namespace Weave.Shell

/-- A command of the shell is given the words behind its name. -/
abbrev Builtin := List Bytes → Step Unit

namespace Builtin

def succeed : Step Unit :=
  modify fun s => { s with status := 0 }

def succeedUnlessFailed : Step Unit :=
  modify fun s => if s.flow = .onward then { s with status := 0 } else s

/-- Says what went wrong, for which there is a status. -/
def refuse (message : Bytes) (status : Nat) : Step Unit :=
  modify fun s => { s.complain message with status := status }

/-- A number that counts something. -/
def count? (t : Bytes) : Option Nat :=
  if t != [] && t.all Char.isDigit then some (Escape.numberIn 10 t) else none

/-- What is said about a word that is no number. -/
def illegalNumber (d : Dialect) (word : Bytes) : Bytes :=
  match d with
  | .standard => "Illegal number: ".toList ++ word
  | .extended => word ++ ": numeric argument required".toList

/-- What is said about a word that is no name. -/
def badName (d : Dialect) (name : Bytes) : Bytes :=
  match d with
  | .standard => name ++ ": bad variable name".toList
  | .extended => '\u0060' :: name ++ "': not a valid identifier".toList

/-- Goes on with the number that a command is given, or with another one. -/
def withCount (usual : Nat) (words : List Bytes) (next : Nat → Step Unit) : Step Unit :=
  match words with
  | [] => next usual
  | word :: _ =>
    match count? word with
    | some n => next n
    | none => modify fun s => s.giveUp (illegalNumber s.dialect word)

/-- Goes on with the status that a command is given, or with the one before. In the
extended dialect numbers may be negative, and a word that is none stands for two. -/
def withStatus (words : List Bytes) (next : Nat → Step Unit) : Step Unit := do
  let s ← get
  match s.dialect, words with
  | .standard, words => withCount s.status words next
  | .extended, [] => next s.status
  | .extended, word :: _ =>
    let size := if word.head? = some '-' then word.drop 1 else word
    match count? size with
    | some n => next (if size = word then n % 256 else (256 - n % 256) % 256)
    | none =>
      set (s.complain (illegalNumber s.dialect word))
      next 2

def exit : Builtin := fun words =>
  withStatus words fun n => modify fun s => s.leave n

def return' : Builtin := fun words =>
  withStatus words fun n => modify fun s => { s with status := n, flow := .returning }

/-- Goes on with the number of loops that a command is about, of which there are no
more than those that one is in. -/
def withLoops (words : List Bytes) (next : Nat → Flow) : Step Unit :=
  withCount 1 words fun n => do
    let s ← get
    if n = 0 then
      set (s.giveUp (match s.dialect with
        | .standard => illegalNumber .standard (words.headD [])
        | .extended => words.headD [] ++ ": loop count out of range".toList))
    else set { s with status := 0, flow := if s.loops = 0 then .onward else next (min n s.loops) }

def break' : Builtin := fun words => withLoops words .breaking

def continue' : Builtin := fun words => withLoops words .continuing

def shift : Builtin := fun words =>
  withCount 1 words fun n => do
    let s ← get
    if n ≤ s.arguments.length then
      set { s with arguments := s.arguments.drop n, status := 0 }
    else
      match s.dialect with
      | .standard => set (s.giveUp "can't shift that many".toList)
      | .extended => set { s with status := 1 }

/-- A text between single marks, where a mark itself stands between double ones. -/
def singleQuoted (t : Bytes) : Bytes :=
  let pieces := Text.splitOn '\'' t
  Text.joinWith "\"'\"".toList (pieces.map fun p => '\'' :: p ++ ['\''])

/-- A setting of a variable as a command that makes it again. -/
def shownSetting (name value : Bytes) : Bytes :=
  name ++ '=' :: singleQuoted value

/-- A name and the value that a word gives it. -/
def splitSetting (word : Bytes) : Bytes × Option Bytes :=
  let name := word.takeWhile (· ≠ '=')
  match word.drop name.length with
  | _ :: value => (name, some value)
  | [] => (name, none)

/-- Reads letters that are options at the front of some words. The answer is the
letters and the words behind, or the letter that is none. -/
def options (known : String) : List Bytes → Except Char (List Char × List Bytes)
  | ['-', '-'] :: words => .ok ([], words)
  | ('-' :: c :: letters) :: words => do
    for letter in c :: letters do
      if !known.toList.contains letter then throw letter
    let (more, words) ← options known words
    return (c :: letters ++ more, words)
  | words => .ok ([], words)

/-- Goes on with the letters that are options and with the words behind them. -/
def withOptions (known : String) (words : List Bytes)
    (next : List Char → List Bytes → Step Unit) : Step Unit :=
  match options known words with
  | .ok (letters, words) => next letters words
  | .error c => modify fun s => s.giveUp (match s.dialect with
    | .standard => "Illegal option -".toList ++ [c]
    | .extended => ['-', c] ++ ": invalid option".toList)

end Builtin

end Weave.Shell
