import Weave.Utility.Order

/-!
# Programs about columns

Printing parts of every line, putting lines side by side, and breaking lines that are too
long.
-/
namespace Weave.Utility

open Job

/-!
## Parts of lines
-/

/-- Why a list of positions cannot be read. -/
inductive PositionFault where
  | zero
  | reversed
  | endless
  | noNumber (t : Bytes)
deriving Repr, DecidableEq

def PositionFault.message (isField : Bool) : PositionFault → Bytes
  | zero => (if isField then "fields are numbered from 1"
      else "byte/character positions are numbered from 1").toList
  | reversed => "invalid decreasing range".toList
  | endless => "invalid range with no endpoint: -".toList
  | noNumber t =>
    (if isField then "invalid field value " else "invalid byte/character position ").toList
      ++ shown t

/-- First and last positions, or no last one. -/
abbrev Positions := List (Nat × Option Nat)

def readPositions (t : Bytes) : Except PositionFault Positions :=
  (Text.splitOn ',' (t.map fun c => if c = ' ' || c = '\t' then ',' else c)).mapM fun range => do
    let number (digits : Bytes) : Except PositionFault Nat := do
      if digits = [] || !digits.all Char.isDigit then throw (.noNumber digits)
      let n := Escape.numberIn 10 digits
      if n = 0 then throw .zero else return n
    match Text.splitOn '-' range with
    | [only] =>
      if only = [] then throw .zero
      let n ← number only
      return (n, some n)
    | [[], []] => throw .endless
    | [[], last] => return (1, some (← number last))
    | [first, []] => return (← number first, none)
    | [first, last] =>
      let (a, b) := (← number first, ← number last)
      if b < a then throw .reversed else return (a, some b)
    | _ => throw (.noNumber range)

def isPosition (positions : Positions) (n : Nat) : Bool :=
  positions.any fun p => p.1 ≤ n && p.2.all (n ≤ ·)

/-- The runs of positions that are kept, each apart from the others by a gap or by where
ranges meet. -/
def keptRuns (positions : Positions) (complement : Bool) (line : Bytes) : List Bytes :=
  let starts := positions.map Prod.fst
  let step := fun ((runs, open') : List Bytes × Bool) ((c, i) : Char × Nat) =>
    if isPosition positions (i + 1) != complement then
      match runs, open' && !(starts.contains (i + 1) && !complement) with
      | run :: more, true => ((c :: run) :: more, true)
      | runs, _ => ([c] :: runs, true)
    else (runs, false)
  ((line.zipIdx.foldl step ([], false)).1.map List.reverse).reverse

/-- Prints parts of every line. -/
def cut : Utility := fun words =>
  let o : Options :=
    { flags := "snz/", valued := "cbdf:"
      names := [("fields", 'f'), ("delimiter", 'd'), ("characters", 'c'), ("bytes", 'b'),
        ("only-delimited", 's'), ("complement", '/'), ("output-delimiter", ':'),
        ("zero-terminated", 'z')] }
  withWords o words fun w => do
    let lists := w.values.filter fun v => v.1 = 'c' || v.1 = 'b' || v.1 = 'f'
    let isField := (w.value? 'f').isSome
    match lists with
    | [] => misuse "you must specify a list of bytes, characters, or fields".toList
    | _ :: _ :: _ => misuse "only one list may be specified".toList
    | [(_, list)] =>
      if !isField && (w.value? 'd').isSome then
        return (← misuse "an input delimiter may be specified only when operating on fields".toList)
      if !isField && w.has "s" then
        return (← misuse ("suppressing non-delimited lines makes sense\n"
          ++ "\tonly when operating on fields").toList)
      if (w.value? 'd').any fun d => d.length > 1 then
        return (← misuse "the delimiter must be a single character".toList)
      match readPositions list with
      | .error f => misuse (f.message isField)
      | .ok positions =>
        let ending := if w.has "z" then '\x00' else '\n'
        let mark := ((w.value? 'd').getD ['\t']).headD '\x00'
        for name in orInput w.rest do
          match ← read name with
          | .error f => complainOf (Naming.bare name) f
          | .ok t =>
            for line in piecesBefore ending t do
              if isField then
                let fields := Text.splitOn mark line
                if fields.length > 1 then
                  let kept := fields.zipIdx.filter fun f =>
                    isPosition positions (f.2 + 1) != w.has "/"
                  let between := (w.value? ':').getD [mark]
                  print (Text.joinWith between (kept.map Prod.fst) ++ [ending])
                else if !w.has "s" then print (line ++ [ending])
              else
                let between := (w.value? ':').getD []
                print (Text.joinWith between (keptRuns positions (w.has "/") line) ++ [ending])

/-!
## Side by side
-/

/-- The marks between columns, one after the other, where backslashes stand for others. -/
def readMarks : Bytes → List Bytes
  | '\\' :: c :: rest =>
    (match c with
      | 'n' => ['\n']
      | 't' => ['\t']
      | '0' => []
      | '\\' => ['\\']
      | c => [c]) :: readMarks rest
  | c :: rest => [c] :: readMarks rest
  | [] => []

/-- Pieces with marks between them, which begin again where they are used up. -/
def joinCycling (marks : List Bytes) (pieces : List Bytes) : Bytes :=
  (pieces.zipIdx.map fun (piece, i) =>
    if i = 0 then piece
    else (if marks = [] then [] else (marks[(i - 1) % marks.length]?).getD []) ++ piece).flatten

/-- Puts the lines of files side by side, or those of each file. -/
def paste : Utility := fun words =>
  let o : Options :=
    { flags := "sz", valued := "d", names := [("delimiters", 'd'), ("serial", 's')] }
  withWords o words fun w => do
    let marks := readMarks ((w.value? 'd').getD ['\t'])
    let ending := if w.has "z" then '\x00' else '\n'
    let names := orInput w.rest
    let mut files : List (List Bytes) := []
    let dashes := names.count ['-']
    let mut input : List Bytes := []
    if dashes > 0 then input := piecesBefore ending (← takeInput)
    let mut seen := 0
    for name in names do
      if name = ['-'] && !w.has "s" then
        let own := (input.zipIdx.filter fun l => l.2 % dashes = seen).map Prod.fst
        seen := seen + 1
        files := files ++ [own]
      else if name = ['-'] then
        files := files ++ [if seen = 0 then input else []]
        seen := seen + 1
      else
        match ← read name with
        | .ok t => files := files ++ [piecesBefore ending t]
        | .error f =>
          complainOf (Naming.bare name) f
          if !w.has "s" then return ()
    if w.has "s" then
      for lines in files do print (joinCycling marks lines ++ [ending])
    else
      let rows := (files.map List.length).foldl max 0
      for i in List.range rows do
        print (joinCycling marks (files.map fun lines => (lines[i]?).getD []) ++ [ending])

/-- A field of a line that is printed: that of the key, or one of a file. -/
def readOutputField (t : Bytes) : Option (Nat × Nat) :=
  if t = ['0'] then some (0, 0)
  else match Text.splitOn '.' t with
    | [file, field] => some (Escape.numberIn 10 file, Escape.numberIn 10 field)
    | _ => none

/-- Joins lines of two sorted files that have the same key. -/
def join : Utility := fun words =>
  let o : Options :=
    { flags := "iz", valued := "aejotv12", misuse := 1, names := [("ignore-case", 'i')] }
  withWords o words fun w => do
    match w.rest with
    | [] => lacksOperand
    | [a] => misuse ("missing operand after ".toList ++ shown a)
    | [a, b] =>
      match ← read a with
      | .error f => return (← complainOf (Naming.bare a) f)
      | .ok s =>
        match ← read b with
        | .error f => return (← complainOf (Naming.bare b) f)
        | .ok t =>
          let mark := (w.value? 't').bind List.head?
          let fields (line : Bytes) : List Bytes := match mark with
            | some c => Text.splitOn c line
            | none =>
              (Text.splitOn ' ' (line.map fun c => if c = '\t' then ' ' else c)).filter (· ≠ [])
          let number (c : Char) : Nat :=
            (((w.value? c).or (w.value? 'j')).map (Escape.numberIn 10)).getD 1
          let fold (k : Bytes) : Bytes := if w.has "i" then k.map Char.toLower else k
          let key (n : Nat) (fs : List Bytes) : Bytes := (fs[n - 1]?).getD []
          let void := (w.value? 'e').getD []
          let formats := (w.values.filter fun v => v.1 = 'o').flatMap fun v =>
            let fields := Text.splitOn ',' (v.2.map fun c => if c = ' ' then ',' else c)
            fields.filterMap readOutputField
          let line (k : Bytes) (x y : List Bytes) : Bytes :=
            let without (n : Nat) (fs : List Bytes) : List Bytes := fs.eraseIdx (n - 1)
            let cells := if formats = [] then
                k :: (without (number '1') x ++ without (number '2') y)
              else formats.map fun (file, field) =>
                let cell :=
                  if file = 0 then k else ((if file = 1 then x else y)[field - 1]?).getD []
                if cell = [] then void else cell
            Text.joinWith [mark.getD ' '] cells
          let (xs, ys) := ((bareLines s).map fields, (bareLines t).map fields)
          let sides := (w.values.filter fun v => v.1 = 'a' || v.1 = 'v').map Prod.snd
          let only := (w.value? 'v').isSome
          let (kx, ky) := (key (number '1'), key (number '2'))
          let rec go : Nat → List (List Bytes) → List (List Bytes) → List Bytes
            | 0, _, _ => []
            | _, [], [] => []
            | fuel + 1, x :: xs, [] =>
              (if sides.contains ['1'] then [line (kx x) x []] else []) ++ go fuel xs []
            | fuel + 1, [], y :: ys =>
              (if sides.contains ['2'] then [line (ky y) [] y] else []) ++ go fuel [] ys
            | fuel + 1, x :: xs, y :: ys =>
              match byBytes (fold (kx x)) (fold (ky y)) with
              | .lt =>
                (if sides.contains ['1'] then [line (kx x) x []] else []) ++ go fuel xs (y :: ys)
              | .gt =>
                (if sides.contains ['2'] then [line (ky y) [] y] else []) ++ go fuel (x :: xs) ys
              | .eq =>
                let isSame (k : Bytes) : Bool := fold k = fold (kx x)
                let same := x :: xs.takeWhile fun z => isSame (kx z)
                let other := y :: ys.takeWhile fun z => isSame (ky z)
                let rows := same.flatMap fun p => other.map fun q => line (kx p) p q
                (if only then [] else rows)
                  ++ go fuel (xs.drop (same.length - 1)) (ys.drop (other.length - 1))
          for row in go (xs.length + ys.length + 1) xs ys do printLine row
    | _ :: _ :: extra :: _ => hasExtra extra

/-!
## Widths
-/

/-- The column behind a character. -/
def columnAfter (column : Nat) (c : Char) : Nat :=
  if c = '\t' then (column / 8 + 1) * 8
  else if c = '\x08' then column - 1
  else if c = '\r' then 0
  else column + 1

/-- Breaks a line where it gets too long, behind a blank if that is asked for. The line so
far is given backwards. -/
def foldLine (width : Nat) (atBlanks bytes : Bool) : Bytes → Nat → Bytes → List Bytes
  | line, _, [] => [line.reverse]
  | line, column, c :: rest =>
    let next := if bytes then column + 1 else columnAfter column c
    if next ≤ width || line = [] then foldLine width atBlanks bytes (c :: line) next rest
    else
      let tail := line.takeWhile fun c => !isBlankChar c
      if atBlanks && tail.length < line.length then
        let kept := tail.reverse
        let column := kept.foldl (fun n c => if bytes then n + 1 else columnAfter n c) 0
        (line.drop tail.length).reverse
          :: foldLine width atBlanks bytes (c :: tail)
              (if bytes then column + 1 else columnAfter column c) rest
      else line.reverse
        :: foldLine width atBlanks bytes [c] (if bytes then 1 else columnAfter 0 c) rest

/-- Words in which a width given by digits alone is an option. -/
def withWidth (word : Bytes) : Bytes :=
  match word with
  | '-' :: c :: rest => if c.isDigit then "-w".toList ++ c :: rest else word
  | word => word

def fold : Utility := fun words =>
  let o : Options :=
    { flags := "bs", valued := "w", names := [("bytes", 'b'), ("spaces", 's'), ("width", 'w')] }
  withWords o (words.map withWidth) fun w => do
    let given := (w.value? 'w').getD "80".toList
    if !given.all Char.isDigit || Escape.numberIn 10 given = 0 then
      return (← complain ("invalid number of columns: ".toList ++ shown given))
    for name in orInput w.rest do
      match ← read name with
      | .error f => complainOf (Naming.bare name) f
      | .ok t =>
        for line in endedLines t do
          let pieces := foldLine (Escape.numberIn 10 given) (w.has "s") (w.has "b") [] 0 (bare line)
          print (Text.joinWith ['\n'] pieces ++ line.drop (bare line).length)

/-- Puts blanks in place of tabs. -/
def expandLine (stop : Nat) (onlyFirst : Bool) : Nat → Bool → Bytes → Bytes
  | _, _, [] => []
  | column, leading, c :: rest =>
    if c = '\t' && (leading || !onlyFirst) then
      let n := stop - column % stop
      List.replicate n ' ' ++ expandLine stop onlyFirst (column + n) leading rest
    else c :: expandLine stop onlyFirst (if c = '\n' then 0 else column + 1)
      (c = '\n' || (leading && c = ' ')) rest

def expand : Utility := fun words =>
  let o : Options := { flags := "i", valued := "t", names := [("tabs", 't'), ("initial", 'i')] }
  withWords o words fun w => do
    let stop := max 1 (((w.value? 't').map (Escape.numberIn 10)).getD 8)
    for name in orInput w.rest do
      match ← read name with
      | .error f => complainOf (Naming.bare name) f
      | .ok t => print (expandLine stop (w.has "i") 0 true t)

/-- Puts tabs in place of rows of blanks that come to a stop. The blanks that have not
come to one are counted. -/
def unexpandLine (stop : Nat) (everywhere : Bool) : Nat → Nat → Bool → Bytes → Bytes
  | _, blanks, _, [] => List.replicate blanks ' '
  | column, blanks, leading, c :: rest =>
    let active := leading || everywhere
    if c = ' ' && active then
      if (column + 1) % stop = 0 then
        (if blanks = 0 && !leading then [' '] else ['\t'])
          ++ unexpandLine stop everywhere (column + 1) 0 leading rest
      else unexpandLine stop everywhere (column + 1) (blanks + 1) leading rest
    else if c = '\t' && active then
      '\t' :: unexpandLine stop everywhere ((column / stop + 1) * stop) 0 leading rest
    else
      List.replicate blanks ' ' ++ c :: unexpandLine stop everywhere
        (if c = '\n' then 0 else column + 1) 0 (c = '\n') rest

def unexpand : Utility := fun words =>
  let o : Options := { flags := "a/", valued := "t", names := [("all", 'a'), ("first-only", '/')] }
  withWords o words fun w => do
    let stop := max 1 (((w.value? 't').map (Escape.numberIn 10)).getD 8)
    let everywhere := (w.has "a" || (w.value? 't').isSome) && !w.has "/"
    for name in orInput w.rest do
      match ← read name with
      | .error f => complainOf (Naming.bare name) f
      | .ok t => print (unexpandLine stop everywhere 0 0 true t)

end Weave.Utility
