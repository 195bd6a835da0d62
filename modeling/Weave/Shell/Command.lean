import Weave.Shell.Token

/-!
# Commands of a shell

What the tokens of a script say: simple commands and those composed of others.
A script is read command by command, each up to the end of its line, so a fault
in a later line is met only when the earlier ones have run.
-/
namespace Weave.Shell

inductive Action where
  | read
  | write
  /-- Prints to a file whatever it is. -/
  | clobber
  | append
  /-- Reads from a file and prints to it. -/
  | update
  /-- Makes a channel the same as another one. -/
  | copy
  | document
deriving Repr, DecidableEq

structure Redirection where
  channel : Nat
  action : Action
  target : Word
deriving Repr, DecidableEq

inductive Command where
  | nothing
  /-- Settings of variables, words and redirections, with the line they begin in. -/
  | simple (line : Nat) (settings : List (Bytes × Word)) (words : List Word)
      (redirections : List Redirection)
  | pipe (a b : Command)
  | negation (c : Command)
  | both (a b : Command)
  | either (a b : Command)
  | sequence (a b : Command)
  /-- A command that is not waited for. -/
  | aside (c : Command)
  | subshell (c : Command)
  | choice (condition yes no : Command)
  /-- Repeats while the condition succeeds, or while it fails. -/
  | loop (succeeds : Bool) (condition body : Command)
  /-- Once for each word; without words, for each argument. It begins in a certain line. -/
  | each (line : Nat) (name : Bytes) (words : Option (List Word)) (body : Command)
  | select (line : Nat) (subject : Word) (arms : List (List Word × Command))
  | define (name : Bytes) (body : Command)
  | redirected (line : Nat) (c : Command) (redirections : List Redirection)
deriving Repr

namespace Command

/-- Words that begin a composed command. -/
def opening : List Bytes :=
  ["if", "while", "until", "for", "case", "\x7b"].map String.toList

/-- Words that end a list of commands. -/
def ending : List Bytes :=
  ["then", "else", "elif", "fi", "do", "done", "esac", "\x7d"].map String.toList

/-- Words that mean something where a command may begin. -/
def reserved : List Bytes :=
  opening ++ ending ++ ["in".toList, "!".toList]

/-- Commands of the shell that no function may be called by. -/
def special : List Bytes :=
  [":", ".", "break", "continue", "eval", "exec", "exit", "export", "local", "readonly", "return",
   "set", "shift", "times", "trap", "unset"].map String.toList

def isName (t : Bytes) : Bool :=
  t != [] && Word.nameOf t = t && t.head?.any Word.isNameStart

/-- A variable and its value, where a word sets one. -/
def setting? (w : Word) : Option (Bytes × Word) :=
  let isMark (part : Part) : Bool := part = .char '=' false
  let name := w.takeWhile fun part => !isMark part
  match w.drop name.length with
  | _ :: value => (Word.plain? name).bind fun n => if isName n then some (n, value) else none
  | [] => none

def quoted (t : Bytes) : Bytes := '"' :: t ++ ['"']

/-- What a token is called. Where a word may be reserved it is shown itself. -/
def shownToken (mayBeReserved : Bool) : Token → Bytes
  | .word w =>
    match Word.plain? w with
    | some t => if mayBeReserved && reserved.contains t then quoted t else "word".toList
    | none => "word".toList
  | .operator mark =>
    if mark.head? = some '<' || mark.head? = some '>' then "redirection".toList else quoted mark
  | .channel _ => "redirection".toList
  | .document _ => "redirection".toList
  | .newline => "newline".toList
  | .fault _ => "end of file".toList
  | .finish => "end of file".toList

/-- What is wrong with a script, and in which line. -/
abbrev Refusal := Nat × Fault

def refuseToken {α : Type} (mayBeReserved : Bool) (expected : Option Bytes) :
    List Placed → Except Refusal α
  | (line, .fault f) :: _ => .error (line, f)
  | (line, token) :: _ => .error (line, .unexpected (shownToken mayBeReserved token) expected)
  | [] => .error (0, .unexpected "end of file".toList expected)

/-- What is wrong with the token at the front, where a command could begin. -/
def refuse {α : Type} (expected : Option Bytes) (ts : List Placed) : Except Refusal α :=
  refuseToken true expected ts

/-- What is wrong with the token at the front, where no command could begin. -/
def refuseHere {α : Type} (expected : Option Bytes) (ts : List Placed) : Except Refusal α :=
  refuseToken false expected ts

def skipLines : List Placed → List Placed
  | (_, .newline) :: rest => skipLines rest
  | ts => ts

/-- The plain word at the front. -/
def plainWord? : List Placed → Option Bytes
  | (_, .word w) :: _ => Word.plain? w
  | _ => none

/-- Requires a reserved word. -/
def require (word : String) (ts : List Placed) : Except Refusal (List Placed) :=
  let ts := skipLines ts
  if plainWord? ts = some word.toList then .ok (ts.drop 1)
  else refuse (some (quoted word.toList)) ts

def actionOf? (mark : Bytes) : Option (Action × Nat) :=
  match String.ofList mark with
  | "<" => some (.read, 0)
  | "<>" => some (.update, 0)
  | ">" => some (.write, 1)
  | ">|" => some (.clobber, 1)
  | ">>" => some (.append, 1)
  | "<&" => some (.copy, 0)
  | ">&" => some (.copy, 1)
  | "<<" => some (.document, 0)
  | _ => none

/-- The redirection at the front. -/
def readRedirection? (ts : List Placed) : Except Refusal (Option Redirection × List Placed) :=
  let (channel, behind) := match ts with
    | (_, .channel n) :: rest => (some n, rest)
    | ts => (none, ts)
  match behind with
  | (_, .operator mark) :: rest =>
    match actionOf? mark with
    | none => .ok (none, ts)
    | some (action, usual) =>
      match rest with
      | (_, .word w) :: rest => .ok (some ⟨channel.getD usual, action, w⟩, rest)
      | (_, .document w) :: rest => .ok (some ⟨channel.getD usual, action, w⟩, rest)
      | rest => refuseHere none rest
  | _ => .ok (none, ts)

/-- The redirections at the front; the number bounds how many there are. -/
def readRedirections : Nat → List Placed → Except Refusal (List Redirection × List Placed)
  | 0, ts => .ok ([], ts)
  | fuel + 1, ts => do
    match ← readRedirection? ts with
    | (none, ts) => return ([], ts)
    | (some r, ts) =>
      let (rs, ts) ← readRedirections fuel ts
      return (r :: rs, ts)

/-- The settings, words and redirections of a simple command. -/
def readSimple : Nat → List Placed → Bool →
    Except Refusal ((List (Bytes × Word) × List Word × List Redirection) × List Placed)
  | 0, ts, _ => .ok (([], [], []), ts)
  | fuel + 1, ts, named => do
    match ← readRedirection? ts with
    | (some r, ts) =>
      let ((settings, words, rs), ts) ← readSimple fuel ts named
      return ((settings, words, r :: rs), ts)
    | (none, ts) =>
      match ts with
      | (_, .word w) :: rest =>
        match if named then none else setting? w with
        | some s =>
          let ((settings, words, rs), ts) ← readSimple fuel rest named
          return ((s :: settings, words, rs), ts)
        | none =>
          let ((settings, words, rs), ts) ← readSimple fuel rest true
          return ((settings, w :: words, rs), ts)
      | ts => return (([], [], []), ts)

/-- The words up to the end of a line or a semicolon. -/
def readWords : List Placed → List Word × List Placed
  | (_, .word w) :: rest =>
    let (words, rest) := readWords rest
    (w :: words, rest)
  | ts => ([], ts)

/-- The patterns of an arm, up to the closing parenthesis. -/
def readPatterns : List Placed → Except Refusal (List Word × List Placed)
  | (line, .finish) :: _ => refuseHere (some (quoted [')'])) [(line, .finish)]
  | (line, .fault f) :: _ => .error (line, f)
  | (_, token) :: rest => do
    let w := match token with
      | .word w => w
      | _ => []
    match rest with
    | (_, .operator ['|']) :: rest =>
      let (words, rest) ← readPatterns rest
      return (w :: words, rest)
    | (_, .operator [')']) :: rest => return ([w], rest)
    | rest => refuseHere (some (quoted [')'])) rest
  | [] => refuseHere (some (quoted [')'])) []

/-- The name that a loop gives values to. -/
def readLoopName : List Placed → Except Refusal (Bytes × List Placed)
  | (line, .fault f) :: _ => .error (line, f)
  | (line, .word w) :: rest =>
    match Word.plain? w with
    | some name => if isName name then .ok (name, rest) else .error (line, .loopName)
    | none => .error (line, .loopName)
  | (line, _) :: _ => .error (line, .loopName)
  | [] => .error (0, .loopName)

/-- The words that a loop goes through, if any are given, up to its body. -/
def readLoopWords (ts : List Placed) : Except Refusal (Option (List Word) × List Placed) := do
  let behind := skipLines ts
  if plainWord? behind = some "in".toList then
    let (words, rest) := readWords (behind.drop 1)
    match rest with
    | (_, .newline) :: rest => return (some words, ← require "do" rest)
    | (_, .operator [';']) :: rest => return (some words, ← require "do" rest)
    | rest => refuseHere none rest
  else
    match behind with
    | (_, .operator [';']) :: rest => return (none, ← require "do" rest)
    | rest => return (none, ← require "do" rest)

/-- A composed command with the redirections behind it. -/
def withRedirections (line : Nat) (c : Command) (ts : List Placed) :
    Except Refusal (Command × List Placed) := do
  let (rs, ts) ← readRedirections ts.length ts
  return (if rs = [] then c else redirected line c rs, ts)

/-- Whether a list of commands ends at the token at the front. -/
def endsList (ts : List Placed) : Bool :=
  match ts with
  | [] => true
  | (_, .finish) :: _ => true
  | (_, .operator mark) :: _ => mark = [')'] || mark = [';', ';']
  | ts => (plainWord? ts).any ending.contains

/-- Whether the script ends at the token at the front. -/
def endsAll (ts : List Placed) : Bool :=
  match ts with
  | [] => true
  | (_, .finish) :: _ => true
  | _ => false

/-- How a list of commands is read. -/
inductive Extent where
  /-- Up to the end of its line. -/
  | line
  /-- Over line ends, with at least one command. -/
  | some
  /-- Over line ends, with any number of commands. -/
  | any
deriving Repr, DecidableEq

def readSimpleCommand (line : Nat) (ts : List Placed) :
    Except Refusal (Command × List Placed) := do
  let ((settings, words, rs), rest) ← readSimple ts.length ts false
  return (simple line settings words rs, rest)

mutual

/-- Commands one after the other. -/
def readList : Nat → Extent → List Placed → Except Refusal (Command × List Placed)
  | 0, _, ts => refuse none ts
  | fuel + 1, extent, ts => do
    let ts := if extent = .line then ts else skipLines ts
    match ts with
    | [] => return (nothing, [])
    | (_, .finish) :: _ => return (nothing, ts)
    | (_, .newline) :: _ => return (nothing, ts)
    | _ =>
      if extent = .any && endsList ts then return (nothing, ts)
      else
        let (first, ts) ← readAndOr fuel ts
        let next := if extent = .line then Extent.line else Extent.any
        match ts with
        | (_, .operator [';']) :: rest =>
          let (more, rest) ← readList fuel next rest
          return (sequence first more, rest)
        | (_, .operator ['&']) :: rest =>
          let (more, rest) ← readList fuel next rest
          return (sequence (aside first) more, rest)
        | (_, .newline) :: rest =>
          if extent = .line then return (first, ts)
          else
            let (more, rest) ← readList fuel next rest
            return (sequence first more, rest)
        | ts => if extent = .line && !endsAll ts then refuse none ts else return (first, ts)

def readAndOr : Nat → List Placed → Except Refusal (Command × List Placed)
  | 0, ts => refuse none ts
  | fuel + 1, ts => do
    let (first, ts) ← readPipeline fuel ts
    readJoined fuel first ts

/-- What is joined to a command by its success or failure. -/
def readJoined : Nat → Command → List Placed → Except Refusal (Command × List Placed)
  | 0, _, ts => refuse none ts
  | fuel + 1, first, ts => do
    match ts with
    | (_, .operator ['&', '&']) :: rest =>
      let (second, rest) ← readPipeline fuel (skipLines rest)
      readJoined fuel (both first second) rest
    | (_, .operator ['|', '|']) :: rest =>
      let (second, rest) ← readPipeline fuel (skipLines rest)
      readJoined fuel (either first second) rest
    | ts => return (first, ts)

def readPipeline : Nat → List Placed → Except Refusal (Command × List Placed)
  | 0, ts => refuse none ts
  | fuel + 1, ts => do
    if plainWord? ts = some ['!'] then
      let (c, rest) ← readPiped fuel (ts.drop 1)
      return (negation c, rest)
    else readPiped fuel ts

/-- Commands of which each works on the output of the one before. -/
def readPiped : Nat → List Placed → Except Refusal (Command × List Placed)
  | 0, ts => refuse none ts
  | fuel + 1, ts => do
    let (first, ts) ← readCommand fuel ts
    match ts with
    | (_, .operator ['|']) :: rest =>
      let (second, rest) ← readPiped fuel (skipLines rest)
      return (pipe first second, rest)
    | ts => return (first, ts)

def readCommand : Nat → List Placed → Except Refusal (Command × List Placed)
  | 0, ts => refuse none ts
  | fuel + 1, ts => do
    let line := ts.head?.elim 0 Prod.fst
    let word := (plainWord? ts).getD []
    match ts with
    | (_, .operator ['(']) :: rest =>
      let (body, rest) ← readList fuel .some rest
      match skipLines rest with
      | (_, .operator [')']) :: rest => withRedirections line (subshell body) rest
      | rest => refuse (some (quoted [')'])) rest
    | (_, .word w) :: rest =>
      if opening.contains word then
        let (c, rest) ← readCompound fuel line (String.ofList word) rest
        withRedirections line c rest
      else if reserved.contains word then refuse none ts
      else
        match rest with
        | (_, .operator ['(']) :: rest =>
          if (setting? w).isSome then readSimpleCommand line ts else readFunction fuel w rest
        | _ => readSimpleCommand line ts
    | (_, .channel _) :: _ => readSimpleCommand line ts
    | (_, .operator mark) :: _ =>
      if (actionOf? mark).isSome then readSimpleCommand line ts else refuse none ts
    | ts => refuse none ts

/-- A function, from behind the parenthesis that follows its name. -/
def readFunction : Nat → Word → List Placed → Except Refusal (Command × List Placed)
  | 0, _, ts => refuse none ts
  | fuel + 1, w, ts => do
    match ts with
    | (line, .operator [')']) :: rest =>
      let name := (Word.plain? w).getD []
      if !isName name || special.contains name then throw (line, .functionName)
      else
        let (body, rest) ← readCommand fuel (skipLines rest)
        return (define name body, rest)
    | ts => refuseHere (some (quoted [')'])) ts

/-- What follows the reserved word of a composed command, which stands in a certain
line. -/
def readCompound : Nat → Nat → String → List Placed → Except Refusal (Command × List Placed)
  | 0, _, _, ts => refuse none ts
  | fuel + 1, line, word, ts => do
    match word with
    | "\x7b" =>
      let (body, rest) ← readList fuel .some ts
      return (body, ← require "\x7d" rest)
    | "if" =>
      let (condition, rest) ← readList fuel .some ts
      let (yes, rest) ← readList fuel .some (← require "then" rest)
      let rest := skipLines rest
      if plainWord? rest = some "elif".toList then
        let (no, rest) ← readCompound fuel line "if" (rest.drop 1)
        return (choice condition yes no, rest)
      else if plainWord? rest = some "else".toList then
        let (no, rest) ← readList fuel .some (rest.drop 1)
        return (choice condition yes no, ← require "fi" rest)
      else return (choice condition yes nothing, ← require "fi" rest)
    | "for" =>
      let (name, rest) ← readLoopName ts
      let (words, rest) ← readLoopWords rest
      let (body, rest) ← readList fuel .some rest
      return (each line name words body, ← require "done" rest)
    | "case" =>
      match ts with
      | (_, .word w) :: rest =>
        let (arms, rest) ← readArms fuel (← require "in" rest)
        return (select line w arms, rest)
      | ts => refuseHere (some "word".toList) ts
    | word =>
      let (condition, rest) ← readList fuel .some ts
      let (body, rest) ← readList fuel .some (← require "do" rest)
      return (loop (word = "while") condition body, ← require "done" rest)

/-- The arms of a selection up to its end. -/
def readArms : Nat → List Placed → Except Refusal (List (List Word × Command) × List Placed)
  | 0, ts => refuse none ts
  | fuel + 1, ts => do
    let ts := skipLines ts
    if plainWord? ts = some "esac".toList then return ([], ts.drop 1)
    else
      let (patterns, rest) ← readPatterns (match ts with
        | (_, .operator ['(']) :: rest => rest
        | ts => ts)
      let (body, rest) ← readList fuel .any rest
      let rest := skipLines rest
      if plainWord? rest = some "esac".toList then return ([(patterns, body)], rest.drop 1)
      else
        match rest with
        | (_, .operator [';', ';']) :: rest =>
          let (arms, rest) ← readArms fuel rest
          return ((patterns, body) :: arms, rest)
        | rest => refuse (some (quoted ";;".toList)) rest

end

/-- The command at the front, up to the end of its line, and the tokens behind. -/
def readLine (ts : List Placed) : Except Refusal (Command × List Placed) := do
  let (c, rest) ← readList (8 * ts.length + 8) .line ts
  match rest with
  | (_, .newline) :: rest => return (c, rest)
  | rest => return (c, if endsAll rest then [] else rest)

end Command

end Weave.Shell
