import Weave.Edit.Script
import Weave.Utility.Job

/-!
# Editing lines

Every line goes through all commands of a script and is then printed, unless a command
has deleted it or printing is left to the commands. Besides the line there is a text that
is held for later.
-/
namespace Weave.Edit


/-- A line of the input: its text, whether it has an end, and its file. -/
structure Line where
  text : Bytes
  ended : Bool
  file : Bytes
  /-- Whether it is the last one of its file. -/
  isLast : Bool
deriving Repr, DecidableEq

/-- How lines are worked on. -/
structure Manner where
  /-- Whether only commands print. -/
  quiet : Bool := false
  /-- Whether every file has its own first and last line. -/
  separate : Bool := false
  ending : Char := '\n'
  width : Nat := 70
deriving Repr, DecidableEq

/-- What is printed behind a line: a text or what a file holds. -/
inductive Later where
  | text (t : Bytes)
  | file (name : Bytes)
  | line (t : Bytes)
deriving Repr, DecidableEq

/-- Where the work on the lines is. -/
structure Work where
  lines : List Line
  current : Line := ⟨[], true, ['-'], false⟩
  held : Bytes := []
  number : Nat := 0
  later : List Later := []
  /-- Whether something has been replaced since the line was taken. -/
  replaced : Bool := false
  /-- The ranges that are open, by the numbers of their commands, with the lines where
  they end if that is known. -/
  ranges : List (Nat × Option Nat) := []
  /-- The commands whose ranges are over, where these began before the first line. -/
  begun : List Nat := []
  /-- What was looked for last. -/
  last : Option Expression := none
  /-- Whether what was printed last lacks its end. -/
  owes : Bool := false
  /-- The files that lines are read from one by one, and those that lines go to. -/
  sources : List (Bytes × List Bytes) := []
  targets : List (Bytes × Bytes) := []
  printed : List Bytes := []

/-- A step of the work. -/
abbrev Step := StateM Work

/-- What comes after a command. -/
inductive Turn where
  | goOn (command : Nat)
  /-- The line is at its end. -/
  | ended
  /-- The line is not printed. -/
  | gone
  /-- The rest of the line is worked on, and no new one is taken. -/
  | again
  | quit (silently : Bool) (status : Nat)
  | lost (f : Fault)
deriving Repr, DecidableEq

/-!
## Printing
-/

/-- Prints a text behind the end that the one before may lack. -/
def emit (t : Bytes) : Step Unit :=
  modify fun w => { w with
    printed := t :: (if w.owes then ['\n'] :: w.printed else w.printed), owes := false }

/-- Prints a line, with its end if the line that is worked on has one. -/
def emitLine (m : Manner) (t : Bytes) : Step Unit := do
  let w ← get
  if w.current.ended then emit (t ++ [m.ending])
  else
    emit t
    modify fun w => { w with owes := true }

/-- A character as it is listed. -/
def listed (c : Char) : Bytes :=
  match c with
  | '\\' => "\\\\".toList
  | '\x07' => "\\a".toList
  | '\x08' => "\\b".toList
  | '\x0c' => "\\f".toList
  | '\n' => "\\n".toList
  | '\r' => "\\r".toList
  | '\t' => "\\t".toList
  | '\x0b' => "\\v".toList
  | c => if Naming.isVisible c then [c] else '\\' :: Naming.octal c.toNat

/-- Pieces in lines of some width, of which each but the last ends with a backslash. -/
def folded (width : Nat) : List Bytes → Nat → Bytes
  | [], _ => ['$']
  | piece :: rest, used =>
    if width > 1 && used + piece.length > width - 1 then
      "\\\n".toList ++ piece ++ folded width rest piece.length
    else piece ++ folded width rest (used + piece.length)

/-!
## Which lines
-/

def isLastLine (m : Manner) (w : Work) : Bool :=
  if m.separate then w.current.isLast else w.lines = []

/-- Whether something is found in the line. Nothing stands for what was looked for
last. -/
def finds (e : Option Expression) : Step (Except Fault Bool) := do
  let w ← get
  match e.or w.last with
  | none => return .error .noExpression
  | some e =>
    set { w with last := some e }
    return .ok (e.isIn w.current.text)

def names (m : Manner) (a : Address) : Step (Except Fault Bool) := do
  let w ← get
  match a with
  | .line n => return .ok (w.number = n)
  | .every first step =>
    return .ok (if step = 0 then w.number = first
      else first ≤ w.number && (w.number - first) % step = 0)
  | .last => return .ok (isLastLine m w)
  | .found e => finds e

/-- Closes the range of a command. -/
def closeRange (n : Nat) : Step Unit :=
  modify fun w => { w with ranges := w.ranges.filter fun r => r.1 != n }

def openRange (n : Nat) (limit : Option Nat) : Step Unit :=
  modify fun w => { w with ranges := (n, limit) :: w.ranges }

/-- The line where a range ends, if that is known where it begins. -/
def limitFrom? (limit : Limit) (number : Nat) : Option Nat :=
  match limit with
  | .address (.line n) => some n
  | .further lines => some (number + lines)
  | .multipleOf n => some (if n = 0 then number else (number + n - 1) / n * n)
  | _ => none

/-- Whether a line is in the range of a command. -/
def inRange (m : Manner) (n : Nat) (first : Address) (limit : Limit) :
    Step (Except Fault Bool) := do
  let w ← get
  let isOpen := (w.ranges.lookup n).isSome || (first = .line 0 && !w.begun.contains n)
  if isOpen then
    match (w.ranges.lookup n).join, limit with
    | some last, _ =>
      if last ≤ w.number then closeRange n
      if w.number ≤ last then return .ok true
      else names m first
    | none, .address a =>
      let ends ← names m a
      if ends.toOption = some true then
        closeRange n
        modify fun w => { w with begun := n :: w.begun }
      return ends.map fun _ => true
    | none, _ => return .ok true
  else
    match ← names m first with
    | .ok true =>
      match limitFrom? limit w.number with
      | some last => if w.number < last then openRange n (some last)
      | none => if limit != .address .last || !isLastLine m w then openRange n none
      return .ok true
    | other => return other

/-- Whether a command is for the line. -/
def concerns (m : Manner) (n : Nat) (s : Selection) : Step (Except Fault Bool) := do
  let found ← match s.first, s.limit with
    | none, _ => pure (.ok true)
    | some a, none => names m a
    | some a, some limit => inRange m n a limit
  return found.map (· != s.negated)

/-!
## Replacing
-/

/-- How the letters of a text are changed: all of them, and the next one. -/
structure CaseState where
  all : Casing := .plain
  next : Casing := .plain
deriving Repr, DecidableEq

def recased (s : CaseState) (t : Bytes) : Bytes :=
  let whole := match s.all with
    | .upper => t.map Char.toUpper
    | .lower => t.map Char.toLower
    | _ => t
  match s.next, whole with
  | .upperNext, c :: rest => c.toUpper :: rest
  | .lowerNext, c :: rest => c.toLower :: rest
  | _, t => t

/-- What takes the place of a match. -/
def replacement (whole : Bytes) (g : Expression.Groups) : List Part → CaseState → Bytes
  | [], _ => []
  | .casing c :: rest, s =>
    let s := match c with
      | .upperNext => { s with next := c }
      | .lowerNext => { s with next := c }
      | c => { all := c }
    replacement whole g rest s
  | .text t :: rest, s => goOn t rest s
  | .group n :: rest, s => goOn (if n = 0 then whole else (g.lookup n).getD []) rest s
where
  goOn (t : Bytes) (rest : List Part) (s : CaseState) : Bytes :=
    recased s t ++ replacement whole g rest (if t = [] then s else { s with next := .plain })

/-- Replaces matches from the `nth` on, or that one alone; an empty match directly behind
another one does not count. The answer tells whether any was replaced. -/
def substituteIn (e : Expression) (s : Substitution) :
    Nat → Nat → Bool → Option Char → Bytes → Bytes × Bool
  | 0, _, _, _, t => (t, false)
  | fuel + 1, nth, touches, before, t =>
    match e.find? before t with
    | none => (t, false)
    | some m =>
      let isVoid := m.found = [] && m.before = [] && touches
      let (step, behind) := match m.found, m.behind with
        | [], c :: rest => ([c], rest)
        | _, behind => ([], behind)
      let previous := (m.before ++ m.found ++ step).getLast?.or before
      let isOver := m.found = [] && m.behind = []
      let goOn (nth : Nat) : Bytes × Bool :=
        if isOver then ([], false)
        else substituteIn e s fuel nth (m.found != []) previous behind
      if isVoid || nth > 1 then
        let (rest, done) := goOn (if isVoid then nth else nth - 1)
        (m.before ++ m.found ++ step ++ rest, done)
      else
        let new := m.before ++ replacement m.found m.groups s.replacement {} ++ step
        if s.all then (new ++ (goOn 1).1, true) else (new ++ behind, true)

/-- Replaces in the line what is looked for. -/
def substitute (m : Manner) (s : Substitution) : Step (Except Fault Unit) := do
  let w ← get
  match s.expression.or w.last with
  | none => return .error .noExpression
  | some e =>
    let t := w.current.text
    let (text, done) := substituteIn e s (t.length + 2) s.nth false none t
    set { w with
      last := some e
      current := { w.current with text }
      replaced := w.replaced || done }
    if done then
      if s.prints then emitLine m text
      if let some name := s.file then writeTo name (text ++ [m.ending])
    return .ok ()
where
  /-- Adds a text to what goes to a file. -/
  writeTo (name t : Bytes) : Step Unit :=
    if name = "/dev/stdout".toList then emit t
    else modify fun w => { w with targets := (name, t) :: w.targets }

/-!
## Commands
-/

/-- Takes the next line in place of the one before, or joins it to that. The answer is
whether there was one. -/
def takeLine (m : Manner) (joined : Bool) : Step Bool := do
  let w ← get
  match w.lines with
  | [] => return false
  | line :: lines =>
    let isFirst := m.separate && w.current.isLast
    let text := if joined then w.current.text ++ m.ending :: line.text else line.text
    set { w with
      lines
      current := { line with text }
      number := if isFirst then 1 else w.number + 1
      replaced := w.replaced && joined }
    return true

def setText (f : Bytes → Bytes) : Step Unit :=
  modify fun w => { w with current := { w.current with text := f w.current.text } }

def firstOf (t : Bytes) : Bytes := t.takeWhile (· ≠ '\n')

/-- The number of the command behind a mark; without a label it is the end. -/
def destination (commands : Array Command) (label : Bytes) : Nat :=
  if label = [] then commands.size
  else (commands.findIdx? fun c => c.act = .mark label).getD commands.size

/-- What there is to be printed behind the line, in a fixed order. -/
def putOff (l : Later) : Step Unit :=
  modify fun w => { w with later := w.later ++ [l] }

/-- Carries out a command for a line that it is for. -/
def carryOut (m : Manner) (commands : Array Command) (n : Nat) (act : Act) : Step Turn := do
  let w ← get
  let text := w.current.text
  match act with
  | .opening _ => return .goOn (n + 1)
  | .closing => return .goOn (n + 1)
  | .mark _ => return .goOn (n + 1)
  | .append t => putOff (.text t)
  | .insert t => emit t
  | .change t =>
    let isRange := (commands[n]?).any fun c => c.selection.limit.isSome && !c.selection.negated
    if !(isRange && (w.ranges.lookup n).isSome) then emit t
    return .gone
  | .jump label => return .goOn (destination commands label)
  | .jumpIf wanted label =>
    set { w with replaced := if wanted then false else w.replaced && false }
    if w.replaced = wanted then return .goOn (destination commands label)
  | .delete => return .gone
  | .deleteFirst =>
    if !text.contains '\n' then return .gone
    setText fun t => (t.dropWhile (· ≠ '\n')).drop 1
    return .again
  | .takeHeld => setText fun _ => w.held
  | .takeHeldToo => setText fun t => t ++ '\n' :: w.held
  | .hold => set { w with held := text }
  | .holdToo => set { w with held := w.held ++ '\n' :: text }
  | .exchange => set { w with held := text, current := { w.current with text := w.held } }
  | .list width => emit (folded (width.getD m.width) (text.map listed) 0 ++ ['\n'])
  | .next =>
    if w.lines = [] then return .quit m.quiet 0
    if !m.quiet then emitLine m text
    return .goOn (n + 1)
  | .nextToo =>
    if w.lines = [] then return .quit m.quiet 0
    return .goOn (n + 1)
  | .show => emitLine m text
  | .showFirst => emit (firstOf text ++ [m.ending])
  | .quit silently status => return .quit (silently || m.quiet) status
  | .readFile name => putOff (.file name)
  | .readLine name =>
    match w.sources.lookup name with
    | some (line :: rest) =>
      set { w with sources := (name, rest) :: w.sources }
      putOff (.line line)
    | _ => return .goOn (n + 1)
  | .substitute s =>
    match ← substitute m s with
    | .error f => return .lost f
    | .ok () => return .goOn (n + 1)
  | .write name => substitute.writeTo name (text ++ [m.ending])
  | .writeFirst name => substitute.writeTo name (firstOf text ++ ['\n'])
  | .number => emit (Text.ofNat w.number ++ ['\n'])
  | .map pairs => setText fun t => t.map fun c => (pairs.lookup c).getD c
  | .fileName => emit (w.current.file ++ ['\n'])
  | .empty => setText fun _ => []
  return .goOn (n + 1)

/-- Prints what was put off to the end of the line. The texts of files are given. -/
def settleLater (texts : Bytes → Bytes) : Step Unit := do
  for l in (← get).later do
    match l with
    | .text t => emit t
    | .line t => emit (t ++ ['\n'])
    | .file name => if texts name != [] then emit (texts name)
  modify fun w => { w with later := [] }

/-- Takes the line through the commands from one on. The number bounds how many are
carried out. -/
def pass (m : Manner) (texts : Bytes → Bytes) (commands : Array Command) :
    Nat → Nat → Step Turn
  | 0, _ => return .ended
  | fuel + 1, n => do
    match commands[n]? with
    | none => return .ended
    | some c =>
      match ← concerns m n c.selection with
      | .error f => return .lost f
      | .ok false =>
        let next := match c.act with
          | .opening closing => closing + 1
          | _ => n + 1
        pass m texts commands fuel next
      | .ok true =>
        match ← carryOut m commands n c.act with
        | .goOn next =>
          if c.act = .next || c.act = .nextToo then
            settleLater texts
            let _ ← takeLine m (c.act = .nextToo)
          pass m texts commands fuel next
        | other => return other

/-- How many commands are carried out for a line at most. -/
def maxCommands : Nat := 1000000

/-- Takes all lines through the commands. The answer is the status, or why the work is
lost. The number bounds how many times that is. -/
def run (m : Manner) (texts : Bytes → Bytes) (commands : Array Command) :
    Nat → Bool → Step (Except Fault Nat)
  | 0, _ => return .ok 0
  | fuel + 1, takes => do
    if takes then
      if !(← takeLine m false) then return .ok 0
    let turn ← pass m texts commands maxCommands 0
    let show' : Step Unit := do
      if !m.quiet then emitLine m (← get).current.text
    match turn with
    | .lost f => return .error f
    | .gone =>
      settleLater texts
      run m texts commands fuel true
    | .again =>
      settleLater texts
      run m texts commands fuel false
    | .quit silently status =>
      if !silently then emitLine m (← get).current.text
      settleLater texts
      return .ok status
    | _ =>
      show'
      settleLater texts
      run m texts commands fuel true

end Weave.Edit
