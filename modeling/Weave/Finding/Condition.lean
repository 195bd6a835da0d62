import Weave.Expression.Read
import Weave.Pattern
import Weave.Utility.Attributes
import Weave.Utility.Escape

/-!
# Conditions on files

A condition on files has parts that hold or do not, and parts that do something with a
file: print its name, start a command, remove it, or end the search. It is read from the
words of a command.
-/
namespace Weave.Finding

open Job Utility

/-- How a number is compared with one that is told. -/
inductive Measure where
  | exactly (n : Nat)
  | above (n : Nat)
  | below (n : Nat)
deriving Repr, DecidableEq

def Measure.holds (m : Measure) (n : Nat) : Bool :=
  match m with
  | exactly k => n = k
  | above k => k < n
  | below k => n < k

/-- Reads a number with a sign for more or less. -/
def Measure.read? (t : Bytes) : Option Measure :=
  match t with
  | '+' :: rest => (Amount.plain? rest).map above
  | '-' :: rest => (Amount.plain? rest).map below
  | t => (Amount.plain? t).map exactly

/-- A condition on a file. -/
inductive Test where
  | always (b : Bool)
  /-- The last part of the name, or all of it, fits a pattern. -/
  | name (pattern : List Pattern.Element) (anyCase isWhole : Bool)
  | expression (e : Expression)
  | kind (letters : Bytes)
  | size (m : Measure) (unit : Nat)
  | empty
  | newer (time : Int)
  /-- So many units of time have passed since it has changed. -/
  | age (m : Measure) (unit : Int)
  /-- All or some of the permissions are given, or just these. -/
  | mode (bits : Nat) (how : Char)
  | links (m : Measure)
  | runnable
  | print (ending : Bytes)
  | printf (format : Bytes)
  | start (number : Nat) (words : List Bytes)
  /-- Starts the command with many names at once. -/
  | gather (number : Nat) (words : List Bytes)
  | delete
  | prune
  | quit
  | not (a : Test)
  | both (a b : Test)
  | either (a b : Test)
  | andThen (a b : Test)

/-- What holds for the whole search. -/
structure Manner where
  follows : Bool := false
  least : Nat := 0
  most : Option Nat := none
  /-- Whether what is in a directory comes before it. -/
  insideFirst : Bool := false

/-- Why a condition makes no sense. -/
inductive Fault where
  | unknown (word : Bytes)
  | lacksValue (word : Bytes)
  | badKind (c : Bytes)
  | badNumber (word value : Bytes)
  | badDepth (word value : Bytes)
  | badMode (value : Bytes)
  | badExpression (value : Bytes)
  | pathBehind (path word : Bytes) (isThere : Bool)
  | openGroup
  | extraClose
  | nothingBehind (word : Bytes)
  | nothingBefore (word : Bytes)
  | noFile (path : Bytes) (f : Failure)

def Fault.lines : Fault → List Bytes
  | unknown word => ["unknown predicate \u0060".toList ++ word ++ ['\'']]
  | lacksValue word => ["missing argument to \u0060".toList ++ word ++ ['\'']]
  | badKind c => ["Unknown argument to -type: ".toList ++ c]
  | badNumber word value =>
    ["invalid argument \u0060".toList ++ value ++ "' to \u0060".toList ++ word
      ++ ['\'']]
  | badDepth word value => ["Expected a positive decimal integer argument to ".toList ++ word
      ++ ", but got ".toList ++ shown value]
  | badMode value => ["invalid mode ".toList ++ shown value]
  | badExpression value => ["Invalid regular expression: ".toList ++ value]
  | pathBehind path word isThere =>
    ("paths must precede expression: \u0060".toList ++ path ++ ['\''])
      :: if isThere then
        ["possible unquoted pattern after predicate \u0060".toList ++ word ++ "'?".toList]
      else []
  | openGroup => [("invalid expression; expected to find a ')' but didn't see one. "
      ++ "Perhaps you need an extra predicate after '('").toList]
  | extraClose => ["you have too many ')'".toList]
  | nothingBehind word => ["expected an expression after '".toList ++ word ++ ['\'']]
  | nothingBefore word => ["invalid expression; you have used a binary operator '".toList ++ word
      ++ "' with nothing before it.".toList]
  | noFile path f => [path ++ ": ".toList ++ f.reason]

/-- What is known while a condition is read: the words left, how many there were, the last
word that takes a value, and the manner of the search. -/
structure Reading where
  words : List Bytes
  last : Bytes := []
  manner : Manner := {}
  files : FileTree

abbrev Reader := StateT Reading (Except Fault)

def word? : Reader (Option Bytes) := do return (← get).words.head?

def take : Reader Unit := modify fun r => { r with words := r.words.drop 1 }

/-- The value behind a word. -/
def value (word : Bytes) : Reader Bytes := do
  match (← get).words with
  | v :: rest =>
    modify fun r => { r with words := rest, last := word }
    return v
  | [] => throw (.lacksValue word)

def measure (word : Bytes) : Reader Measure := do
  let v ← value word
  match Measure.read? v with
  | some m => return m
  | none => throw (.badNumber word v)

def depthOf (word : Bytes) : Reader Nat := do
  let v ← value word
  match Amount.plain? v with
  | some n => return n
  | none => throw (.badDepth word v)

/-- The bytes in a unit of size, by its letter. -/
def sizeUnits : List (Char × Nat) :=
  [('c', 1), ('w', 2), ('b', 512), ('k', 1024), ('M', 1048576), ('G', 1073741824)]

/-- The words of a command up to its end, and whether it takes many names. -/
def commandWords (word : Bytes) : Nat → List Bytes → Reader (List Bytes × Bool)
  | 0, _ => throw (.lacksValue word)
  | fuel + 1, before => do
    match ← word? with
    | none => throw (.lacksValue word)
    | some w =>
      take
      if w = [';'] then
        if before = [] then throw (.lacksValue word) else return (before, false)
      else if w = ['+'] && before.getLast? = some "\x7b\x7d".toList then
        return (before.dropLast, true)
      else commandWords word fuel (before ++ [w])

/-- Reads one condition by its word. -/
def readTest (fuel : Nat) (word : Bytes) : Reader Test := do
  let pattern : Reader (List Pattern.Element) := do return Pattern.ofText (← value word)
  let changeTime : Reader Int := do
    let v ← value word
    match (← get).files.find (Bytes.toName v) with
    | .ok (_, e) => return e.time
    | .error f => throw (.noFile (Naming.quoted v) f)
  let setManner (change : Manner → Manner) : Reader Test := do
    modify fun r => { r with manner := change r.manner }
    return .always true
  let number := (← get).words.length
  match String.ofList word with
  | "-name" => return .name (← pattern) false false
  | "-iname" => return .name (← pattern) true false
  | "-path" => return .name (← pattern) false true
  | "-wholename" => return .name (← pattern) false true
  | "-ipath" => return .name (← pattern) true true
  | "-regex" => do
    let v ← value word
    match Expression.read .plain v with
    | .ok e => return .expression e
    | .error _ => throw (.badExpression v)
  | "-type" => do
    let v := (← value word).filter (· ≠ ',')
    if v = [] || !v.all "fdlpscb".toList.contains then throw (.badKind v)
    return .kind v
  | "-size" => do
    let v ← value word
    let letter := v.getLast?.getD ' '
    let (digits, unit) := match sizeUnits.lookup letter with
      | some unit => (v.dropLast, unit)
      | none => (v, 512)
    match Measure.read? digits with
    | some m => return .size m unit
    | none => throw (.badNumber word v)
  | "-empty" => return .empty
  | "-newer" => return .newer (← changeTime)
  | "-mtime" => return .age (← measure word) (86400 * Moment.perSecond)
  | "-mmin" => return .age (← measure word) (60 * Moment.perSecond)
  | "-links" => return .links (← measure word)
  | "-perm" => do
    let v ← value word
    let (how, text) := match v with
      | '-' :: rest => ('-', rest)
      | '/' :: rest => ('/', rest)
      | v => ('=', v)
    match Mode.result? text false 0 0 with
    | some bits => return .mode bits how
    | none => throw (.badMode v)
  | "-executable" => return .runnable
  | "-readable" => return .always true
  | "-writable" => return .always true
  | "-true" => return .always true
  | "-false" => return .always false
  | "-user" => do
    let v ← value word
    return .always (v = "root".toList || v = ['0'])
  | "-group" => do
    let v ← value word
    return .always (v = "root".toList || v = ['0'])
  | "-print" => return .print ['\n']
  | "-print0" => return .print ['\x00']
  | "-printf" => return .printf (← value word)
  | "-exec" => do
    let (words, many) ← commandWords word fuel []
    return if many then .gather number words else .start number words
  | "-delete" => do
    let _ ← setManner fun m => { m with insideFirst := true }
    return .delete
  | "-prune" => return .prune
  | "-quit" => return .quit
  | "-maxdepth" => do
    let n ← depthOf word
    setManner fun m => { m with most := some n }
  | "-mindepth" => do
    let n ← depthOf word
    setManner fun m => { m with least := n }
  | "-depth" => setManner fun m => { m with insideFirst := true }
  | "-follow" => setManner fun m => { m with follows := true }
  | "-mount" => return .always true
  | "-xdev" => return .always true
  | _ =>
    if word.head? = some '-' && word.length > 1 then throw (.unknown word)
    else
      let r ← get
      throw (.pathBehind word r.last (r.files.find (Bytes.toName word)).toOption.isSome)

mutual

/-- Reads a list of conditions. -/
def readList : Nat → Reader Test
  | 0 => throw .openGroup
  | fuel + 1 => do
    let a ← readEither fuel
    if (← word?) = some [','] then
      take
      return .andThen a (← readList fuel)
    else return a

def readEither : Nat → Reader Test
  | 0 => throw .openGroup
  | fuel + 1 => do
    let a ← readBoth fuel
    match ← word? with
    | some w =>
      if w = "-o".toList || w = "-or".toList then
        take
        if (← word?).isNone then throw (.nothingBehind w)
        return .either a (← readEither fuel)
      else return a
    | none => return a

def readBoth : Nat → Reader Test
  | 0 => throw .openGroup
  | fuel + 1 => do
    let a ← readOne fuel
    match ← word? with
    | none => return a
    | some w =>
      if w = "-o".toList || w = "-or".toList || w = [','] || w = [')'] then return a
      else
        if w = "-a".toList || w = "-and".toList then
          take
          if (← word?).isNone then throw (.nothingBehind w)
        return .both a (← readBoth fuel)

def readOne : Nat → Reader Test
  | 0 => throw .openGroup
  | fuel + 1 => do
    match ← word? with
    | none => throw .openGroup
    | some w =>
      if ["-o", "-or", "-a", "-and", ","].any fun op => op.toList = w then
        throw (.nothingBefore w)
      take
      if w = ['!'] || w = "-not".toList then
        if (← word?).isNone then throw (.nothingBehind w)
        return .not (← readOne fuel)
      else if w = ['('] then
        if (← word?).isNone then throw .openGroup
        let a ← readList fuel
        if (← word?) != some [')'] then throw .openGroup
        take
        return a
      else if w = [')'] then throw .extraClose
      else readTest fuel w

end

/-- Whether a condition does something with the files itself. -/
def Test.acts : Test → Bool
  | print _ => true
  | printf _ => true
  | start _ _ => true
  | gather _ _ => true
  | delete => true
  | quit => true
  | not a => a.acts
  | both a b => a.acts || b.acts
  | either a b => a.acts || b.acts
  | andThen a b => a.acts || b.acts
  | _ => false

/-- Reads a condition. One that does nothing with the files prints their names. -/
def readAll (r : Reading) : Except Fault (Test × Manner) := do
  if r.words = [] then return (.print ['\n'], r.manner)
  let (t, r) ← (readList (2 * r.words.length + 2)).run r
  match r.words with
  | [] => return (if t.acts then t else .both t (.print ['\n']), r.manner)
  | w :: _ => throw (if w = [')'] then .extraClose else .unknown w)

end Weave.Finding
