import Weave.Expression.Read
import Weave.Pattern
import Weave.Utility.Escape
import Weave.Utility.Lines
import Weave.Utility.Printing

/-!
# Searching for lines

Printing the lines in which one of some expressions matches, the lines around them, or
only the parts that match; or counting them, or telling whether there are any.
-/
namespace Weave.Utility

open Job

/-- How a pattern is spelt. -/
inductive Spelling where
  | plain
  | extended
  | literal
deriving Repr, DecidableEq

def Spelling.read (s : Spelling) (pattern : Bytes) : Except Expression.Fault Expression :=
  match s with
  | plain => Expression.read .plain pattern
  | extended => Expression.read .extended pattern
  | literal => .ok (Expression.literal pattern)

/-- The spellings that letters stand for. -/
def Spelling.letters : List (Char × Spelling) :=
  [('G', plain), ('E', extended), ('P', extended), ('F', literal)]

/-- Which lines are looked for. -/
structure Search where
  expressions : List Expression
  wholeLine : Bool
  wholeWord : Bool
  negated : Bool

namespace Search

/-- Whether a match from one place to another will do. -/
def accepts (s : Search) (first last : Expression.Spot) : Bool :=
  (!s.wholeLine || (first.before = none && last.left = 0))
    && (!s.wholeWord || (!first.before.any Expression.isWordChar
      && !last.rest.head?.any Expression.isWordChar))

/-- How much is left behind the longest match at a place that will do. -/
def leftAt? (s : Search) (place : Expression.Spot) : Option Nat :=
  let found := s.expressions.flatMap fun e =>
    if e.refersBack then (e.atSpot? place).toList.map fun m => place.skip (place.left - m.1)
    else e.ends (e.depth place.left) place
  ((found.filter (s.accepts place)).map (·.left)).min?

/-- Looks for a match at every place; what has been passed is given, the last character
first. -/
def findFrom (s : Search) : Option Char → Bytes → Bytes → Option Expression.Match
  | before, passed, t =>
    match s.leftAt? (.ofText before t) with
    | some left => some ⟨passed.reverse, t.take (t.length - left), [], t.drop (t.length - left)⟩
    | none =>
      match t with
      | [] => none
      | c :: rest => findFrom s (some c) (c :: passed) rest

/-- Whether one match comes before another, or is longer. -/
def isBetter (a b : Expression.Match) : Bool :=
  a.before.length < b.before.length
    || (a.before.length = b.before.length && a.found.length > b.found.length)

/-- The first and then the longest part of a line that matches. -/
def find? (s : Search) (before : Option Char) (line : Bytes) : Option Expression.Match :=
  if s.wholeLine || s.wholeWord then s.findFrom before [] line
  else
    (s.expressions.filterMap fun e => e.find? before line).foldl
      (fun best m => match best with
        | some b => if isBetter m b then some m else some b
        | none => some m)
      none

def selects (s : Search) (line : Bytes) : Bool :=
  (s.find? none line).isSome != s.negated

/-- All the parts of a line that match, unless they are empty, with their places. -/
def parts (s : Search) : Nat → Option Char → Nat → Bytes → List (Nat × Bytes)
  | fuel + 1, before, place, line =>
    match s.find? before line with
    | none => []
    | some m =>
      let first := place + m.before.length
      if m.found = [] then
        match m.behind with
        | [] => []
        | c :: rest => parts s fuel (some c) (first + 1) rest
      else (first, m.found) :: parts s fuel m.found.getLast? (first + m.found.length) m.behind
  | 0, _, _, _ => []

end Search

def grepOptions : Options where
  flags := "EFGPivwxcLloqsbHhnTZaIrRzUuy0123456789"
  valued := "efmABCdD+-%@"
  names := [("extended-regexp", 'E'), ("fixed-strings", 'F'), ("basic-regexp", 'G'),
    ("perl-regexp", 'P'), ("regexp", 'e'), ("file", 'f'), ("ignore-case", 'i'),
    ("word-regexp", 'w'), ("line-regexp", 'x'), ("null-data", 'z'), ("no-messages", 's'),
    ("invert-match", 'v'), ("max-count", 'm'), ("byte-offset", 'b'), ("line-number", 'n'),
    ("line-buffered", 'u'), ("with-filename", 'H'), ("no-filename", 'h'), ("label", '@'),
    ("only-matching", 'o'), ("quiet", 'q'), ("silent", 'q'), ("text", 'a'), ("directories", 'd'),
    ("devices", 'D'), ("recursive", 'r'), ("dereference-recursive", 'R'), ("include", '+'),
    ("exclude", '-'), ("exclude-dir", '%'), ("files-without-match", 'L'),
    ("files-with-matches", 'l'), ("count", 'c'), ("initial-tab", 'T'), ("null", 'Z'),
    ("before-context", 'B'), ("after-context", 'A'), ("context", 'C'), ("color", 'u'),
    ("colour", 'u'), ("binary", 'U')]
  misuse := 2
  hints := ["Usage: grep [OPTION]... PATTERNS [FILE]...",
    "Try 'grep --help' for more information."]

/-- How the lines that are found are shown. -/
structure Display where
  words : Words
  named : Bool
  before : Nat
  after : Nat
  /-- Whether a line divides what is not together. -/
  divided : Bool
  /-- How many lines of a file are looked for. -/
  most : Option Nat

/-- What stands before a line: its file, its number, and its place. -/
def Display.label (d : Display) (title : Bytes) (mark : Char) (number place : Nat) : Bytes :=
  let ending := if d.words.has "Z" then '\x00' else mark
  (if d.named then title ++ [ending] else [])
    ++ (if d.words.has "n" then Text.ofNat number ++ [mark] else [])
    ++ (if d.words.has "b" then Text.ofNat place ++ [mark] else [])

/-- The lines of a text with the places where they begin. -/
def placedLines (t : Bytes) : List (Bytes × Nat) :=
  let lines := endedLines t
  lines.zip ((lines.scanl (fun place line => place + line.length) 0))

/-- Prints the lines that are chosen and those around them. -/
def showLines (d : Display) (search : Search) (title : Bytes) (lines : List (Bytes × Nat))
    (chosen : List Nat) (isFirst : Bool) : Task Unit := do
  let mut last : Option Nat := none
  let mut fresh := isFirst
  let mut ahead := chosen
  let mut behind : Option Nat := none
  for ((line, place), i) in lines.zipIdx 1 do
    let isChosen := ahead.head? = some i
    if isChosen then behind := some i
    let isShown := (behind.any fun k => i ≤ k + d.after)
      || (ahead.head?.any fun k => k ≤ i + d.before)
    if isChosen then ahead := ahead.drop 1
    if isShown then
      if d.divided && (last.any (· + 1 < i) || (last = none && !fresh)) then
        printLine "--".toList
      last := some i
      fresh := false
      let line := bare line
      if d.words.has "o" then
        if isChosen && !search.negated then
          for (start, part) in search.parts (line.length + 1) none place line do
            printLine (d.label title ':' i start ++ part)
      else printLine (d.label title (if isChosen then ':' else '-') i place ++ line)

/-- Prints what is found in one file, and tells whether anything was. -/
def searchFile (d : Display) (search : Search) (title : Bytes) (isFirst : Bool) (t : Bytes) :
    Task Bool := do
  let w := d.words
  let lines := placedLines t
  let hits := (lines.zipIdx 1).filterMap fun ((line, _), i) =>
    if search.selects (bare line) then some i else none
  let chosen := match d.most with
    | some n => hits.take n
    | none => hits
  let isHidden := t.contains '\x00' && !w.has "aUz"
  let ending := if w.has "Z" then '\x00' else '\n'
  if isHidden && w.has "I" then return false
  if w.has "q" then pure ()
  else if w.has "l" then
    if chosen != [] then print (title ++ [ending])
  else if w.has "L" then
    if chosen = [] then print (title ++ [ending])
  else if w.has "c" then
    printLine ((if d.named then title ++ [if w.has "Z" then '\x00' else ':'] else [])
      ++ Text.ofNat chosen.length)
  else if isHidden then
    if chosen != [] then
      flush
      warn ((← get).name ++ ": ".toList ++ title ++ ": binary file matches".toList)
  else showLines d search title lines chosen isFirst
  return chosen != []

/-- Whether the patterns for names let a file be searched. -/
def admits (w : Words) (file : Bytes) : Bool :=
  let fits (letter : Char) : Bool := w.values.any fun v =>
    v.1 = letter && Pattern.isMatch (Pattern.ofText v.2) (lastPart file [])
  (!(w.values.any fun v => v.1 = '+') || fits '+') && !fits '-'

/-- The files below a place, by their names. -/
def filesBelow (w : Words) (files : FileTree) : Nat → Bytes → List Bytes
  | depth + 1, dir =>
    let fits (file : Bytes) : Bool := w.values.any fun v =>
      v.1 = '%' && Pattern.isMatch (Pattern.ofText v.2) (lastPart file [])
    match files.find (Bytes.toName dir) with
    | .error _ => [dir]
    | .ok (place, _) =>
      (files.namesAt place).flatMap fun name =>
        let path := Path.join dir (Bytes.ofText name)
        if files.isDirectory (Bytes.toName path) then
          if fits path then [] else filesBelow w files depth path
        else if admits w path then [path] else []
  | 0, _ => []

/-- The number of lines around that are asked for, by their letter. -/
def aroundOf (w : Words) (letter : Char) : Except Bytes Nat :=
  let digits := w.flags.filter (·.isDigit)
  match (w.value? letter).or ((w.value? 'C').or (if digits = [] then none else some digits)) with
  | none => .ok 0
  | some t =>
    match Amount.plain? t with
    | some n => .ok n
    | none => .error (t ++ ": invalid context length argument".toList)

/-- Where a set has no end because nothing is in it, this is not told as usual. -/
def faultText (pattern : Bytes) (f : Expression.Fault) : Bytes :=
  if f = .openSet && pattern.getLast? = some '[' then "Invalid regular expression".toList
  else f.message

/-- The patterns of a search: those that are given, and those in files. -/
def patternsOf (w : Words) : Task (Option (List Bytes)) := do
  let mut patterns := []
  for (letter, value) in w.values do
    if letter = 'e' then patterns := patterns ++ Text.splitOn '\n' value
    if letter = 'f' then
      match ← contentOf value with
      | some t => patterns := patterns ++ bareLines t
      | none => return none
  return some patterns

def grep (usual : Spelling) : Utility := fun words =>
  withWords grepOptions words fun w => do
    let isGiven := w.values.any fun v => v.1 = 'e' || v.1 = 'f'
    let spellings := w.flags.filterMap fun c => Spelling.letters.lookup c
    let spelling := spellings.getLast?.getD usual
    if spellings.eraseDups.length > 1 then
      complain "conflicting matchers specified".toList
      return (← leave 2)
    if !isGiven && w.rest = [] then
      for line in grepOptions.hints do warn line.toList
      return (← leave 2)
    match aroundOf w 'B', aroundOf w 'A', (w.value? 'm').map Amount.plain? with
    | .error fault, _, _ | _, .error fault, _ =>
      complain fault
      leave 2
    | _, _, some none =>
      complain "invalid max count".toList
      leave 2
    | .ok before, .ok after, most =>
      let some given ← patternsOf w | leave 2
      let patterns := if isGiven then given
        else (w.rest.take 1).flatMap (Text.splitOn '\n')
      let names := if isGiven then w.rest else w.rest.drop 1
      let mut expressions := []
      for pattern in patterns do
        match spelling.read pattern with
        | .ok e => expressions := expressions ++ [if w.has "iy" then e.inAnyCase else e]
        | .error f =>
          complain (faultText pattern f)
          return (← leave 2)
      let search : Search := ⟨expressions, w.has "x", w.has "w", w.has "v"⟩
      let deep := w.has "rR" || w.value? 'd' = some "recurse".toList
      let files := (← get).files
      let below (name : Bytes) : List Bytes :=
        if name != ['-'] && files.isDirectory (Bytes.toName name) then
          filesBelow w files (files.entries.length + 1) name
        else [name]
      let all := if !deep then orInput names
        else if names = [] then (below ['.']).map fun path => path.drop 2
        else names.flatMap below
      let named := match (w.flags.filter fun c => c = 'H' || c = 'h').getLast? with
        | some c => c = 'H'
        | none => deep || names.length > 1
      let display : Display :=
        { words := w, named, before, after, most := most.join
          divided := w.flags.any (·.isDigit) || w.values.any fun v => "ABC".toList.contains v.1 }
      let mut found := false
      let mut failed := false
      for name in all do
        if !(w.value? 'd' = some "skip".toList && files.isDirectory (Bytes.toName name)) then
          match ← read name with
          | .error f =>
            failed := true
            if !w.has "s" then complainOf name f
          | .ok t =>
            let title := if name = ['-'] then
                (w.value? '@').getD "(standard input)".toList
              else name
            if ← searchFile display search title (!found) t then found := true
      leave (if failed && !(found && w.has "q") then 2 else if found then 0 else 1)

/-- Looks for lines under another name, which is not told. -/
def grepAs (usual : Spelling) : Utility := fun words => do
  modify fun j => { j with name := "grep".toList }
  grep usual words

end Weave.Utility
