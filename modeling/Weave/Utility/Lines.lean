import Weave.Text.Replacement
import Weave.Utility.Escape
import Weave.Utility.Printing

/-!
# Programs that pass texts on

Each reads the files it is given, or its input, and prints what it makes of them: the
whole, the beginning or the end, the lines in turn or with numbers, or how many there are.
-/
namespace Weave.Utility

open Job

/-- The lines of a text with their ends. -/
def endedLines : Bytes → List Bytes
  | [] => []
  | c :: rest =>
    if c = '\n' then ['\n'] :: endedLines rest
    else
      match endedLines rest with
      | [] => [[c]]
      | line :: more => (c :: line) :: more

/-- A line without its end. -/
def bare (line : Bytes) : Bytes :=
  if line.getLast? = some '\n' then line.dropLast else line

def bareLines (t : Bytes) : List Bytes :=
  (endedLines t).map bare

/-- The pieces of a text before each of some marks; nothing follows the last mark. -/
def piecesBefore (mark : Char) (t : Bytes) : List Bytes :=
  let pieces := Text.splitOn mark t
  if pieces.getLast? = some [] then pieces.dropLast else pieces

/-- The names of a program's files; without any, its input. -/
def orInput (names : List Bytes) : List Bytes :=
  if names = [] then [['-']] else names

/-- All that the files hold, one behind the other. -/
def contents (names : List Bytes) : Task Bytes := do
  let mut all := []
  for name in orInput names do
    all := all ++ ((← contentOf name).getD [])
  return all

/-!
## Whole texts
-/

/-- A byte as it is shown where all must be visible. -/
def visibleByte (c : Char) : Bytes :=
  let low (n : Nat) : Bytes :=
    if n < 32 then ['^', Char.ofNat (n + 64)] else if n = 127 then ['^', '?'] else [Char.ofNat n]
  if c = '\t' then [c] else if c.toNat < 128 then low c.toNat
  else ['M', '-'] ++ low (c.toNat - 128)

/-- A line as it is shown, without and with its end. -/
def shownLine (w : Words) (line : Bytes) : Bytes :=
  let body := if w.has "vAet" then (bare line).flatMap visibleByte else bare line
  let body := if w.has "TAt" then
      body.flatMap fun c => if c = '\t' then ['^', 'I'] else [c] else body
  let mark := if w.has "EAe" && line != bare line then ['$'] else []
  body ++ mark ++ line.drop (bare line).length

/-- Lines with their numbers. `n` is the number of the last one before, and `blank`
tells whether that was empty. -/
def numberLines (w : Words) : Nat → Bool → List Bytes → Bytes
  | _, _, [] => []
  | n, blank, line :: rest =>
    let isBlank := line = ['\n']
    if isBlank && blank && w.has "s" then numberLines w n blank rest
    else if w.has "b" && isBlank || !w.has "nb" then
      shownLine w line ++ numberLines w n isBlank rest
    else
      let numbered := pad [] 6 (Text.ofNat (n + 1)) ++ '\t' :: shownLine w line
      numbered ++ numberLines w (n + 1) isBlank rest

/-- Whether printing goes to the end of the very file that a name leads to, which is not
empty. -/
def isOwnOutput (name : Bytes) : Task Bool := do
  let j ← get
  let input := if name = ['-'] then
      match j.toHost.streamOf? j.channels 0 with
      | some (_, ⟨.file place, position, _, _, _⟩) => (j.files.at? place).map fun e => (e, position)
      | _ => none
    else (j.files.find (Bytes.toName name)).toOption.map fun f => (f.2, 0)
  match j.toHost.streamOf? j.channels 1, input with
  | some (_, ⟨.file place, position, appends, _, _⟩), some (e, start) =>
    match j.files.at? place with
    | some out =>
      let reached := if appends then out.size else position
      return FileTree.isSame out e && start < reached
    | none => return false
  | _, _ => return false

def cat : Utility := fun words =>
  let o : Options :=
    { flags := "AbeEnstTuv"
      names := [("number", 'n'), ("number-nonblank", 'b'), ("show-all", 'A'), ("show-ends", 'E'),
        ("show-tabs", 'T'), ("show-nonprinting", 'v'), ("squeeze-blank", 's')] }
  withWords o words fun w => do
    let mut all := []
    for name in orInput w.rest do
      if ← isOwnOutput name then
        complain (Naming.bare name ++ ": input file is output file".toList)
      else
        match ← read name with
        | .error f => complainOf (Naming.bare name) f
        | .ok t =>
          if w.flags = [] then
            print t
            flush
          else all := all ++ t
    print (numberLines w 0 false (endedLines all))

/-- Prints the lines of each file in turn, the last one first. -/
def tac : Utility := fun words =>
  withWords { flags := "br", valued := "s", names := [("separator", 's')] } words fun w => do
    for name in orInput w.rest do
      match ← read name with
      | .error f =>
        if f = .isDirectory then complainOf (Naming.bare name ++ ": read error".toList) f
        else complainOf ("failed to open ".toList ++ shown name ++ " for reading".toList) f
      | .ok t => for line in (endedLines t).reverse do print line

/-- Prints every line from its end to its beginning. -/
def rev : Utility := fun words =>
  withWords { hints := ["Try 'rev --help' for more information."] } words fun w => do
    for name in orInput w.rest do
      match ← read name with
      | .error f => complainOf ("cannot open ".toList ++ name) f
      | .ok t =>
        for line in endedLines t do print ((bare line).reverse ++ line.drop (bare line).length)

/-!
## Beginnings and ends
-/

/-- A count with the sign before it, if there is one. -/
def signedCount (t : Bytes) : Option Char × Nat :=
  let sign := t.head?.filter fun c => c = '-' || c = '+'
  (sign, (Amount.read? (if sign.isSome then t.drop 1 else t)).getD 0)

/-- Options that give a count by digits alone, in the longer form. -/
def longCounts (words : List Bytes) : List Bytes :=
  match words with
  | ('-' :: c :: rest) :: words =>
    if c.isDigit then ['-', 'n'] :: (c :: rest) :: words else ('-' :: c :: rest) :: words
  | words => words

/-- An option that must be a count and is none. -/
def illCount? (w : Words) : Option (Bytes × Bytes) :=
  let isCount (t : Bytes) : Bool :=
    let bare := if t.head? = some '-' || t.head? = some '+' then t.drop 1 else t
    bare.head?.any Char.isDigit && (Amount.read? bare).isSome
  (w.values.find? fun v => (v.1 = 'n' || v.1 = 'c') && !isCount v.2).map fun v =>
    (if v.1 = 'n' then "lines".toList else "bytes".toList, v.2)

/-- The option that counts: the one given last. -/
def countOption (w : Words) : Char × Bytes :=
  ((w.values.filter fun v => v.1 = 'n' || v.1 = 'c').getLast?).getD ('n', ['1', '0'])

def linesWith (w : Words) (t : Bytes) : List Bytes :=
  if w.has "z" then (piecesBefore '\x00' t).map (· ++ ['\x00']) else endedLines t

/-- The beginning of a text: a number of lines or bytes, or all but so many. -/
def headOf (w : Words) (t : Bytes) : Bytes :=
  let (option, count) := countOption w
  let (sign, n) := signedCount count
  if option = 'c' then (if sign = some '-' then t.take (t.length - n) else t.take n)
  else
    let lines := linesWith w t
    (if sign = some '-' then lines.take (lines.length - n) else lines.take n).flatten

/-- The end of a text: a number of lines or bytes, or from one on. -/
def tailOf (w : Words) (t : Bytes) : Bytes :=
  let (option, count) := countOption w
  let (sign, n) := signedCount count
  if option = 'c' then (if sign = some '+' then t.drop (n - 1) else t.drop (t.length - n))
  else
    let lines := linesWith w t
    (if sign = some '+' then lines.drop (n - 1) else lines.drop (lines.length - n)).flatten

/-- Whether a beginning is complete, whatever else there may be behind the text. -/
def isEnough (w : Words) (kept : Bytes) : Bool :=
  let (option, count) := countOption w
  let (sign, n) := signedCount count
  sign != some '-' &&
    if option = 'c' then n ≤ kept.length
    else n ≤ kept.count (if w.has "z" then '\x00' else '\n')

/-- Reads a file, or of the input as much as is needed. -/
def readPart (isHead : Bool) (w : Words) (name : Bytes) : Task (Except Failure Bytes) := do
  if !(isHead && name = ['-']) then read name
  else
    match ← unreadInput with
    | .error f => return .error f
    | .ok t =>
      let kept := headOf w t
      useInput kept.length (!isEnough w kept)
      return .ok t

/-- Prints a part of every file, each under its name where there are several. -/
def partOf (isHead : Bool) : Utility := fun words =>
  let o : Options :=
    { flags := "qvzfF", valued := "ncs"
      names := [("lines", 'n'), ("bytes", 'c'), ("quiet", 'q'), ("silent", 'q'), ("verbose", 'v'),
        ("zero-terminated", 'z'), ("follow", 'f')] }
  withWords o (longCounts words) fun w => do
    if let some (what, count) := illCount? w then
      return (← complain ("invalid number of ".toList ++ what ++ ": ".toList ++ shown count))
    let names := orInput w.rest
    let mut first := true
    for name in names do
      let title := if name = ['-'] then "standard input".toList else name
      let heading := (if first then [] else ['\n']) ++ "==> ".toList ++ title ++ " <==\n".toList
      let isTitled := (names.length > 1 || w.has "v") && !w.has "q"
      match ← readPart isHead w name with
      | .error f =>
        if f = .isDirectory then
          if isTitled then print heading
          first := false
          complainOf ("error reading ".toList ++ shown name) f
        else
          complainOf ("cannot open ".toList ++ shown name ++ " for reading".toList) f
      | .ok t =>
        if isTitled then print heading
        first := false
        print (if isHead then headOf w t else tailOf w t)

def head : Utility := partOf true

def tail : Utility := partOf false

/-!
## Counts
-/

/-- How many words a text has between its gaps. -/
def wordCount (t : Bytes) : Nat :=
  let isGap (c : Char) : Bool := c = ' ' || (9 ≤ c.toNat && c.toNat ≤ 13)
  let step := fun ((n, inside) : Nat × Bool) (c : Char) =>
    if isGap c then (n, false)
    else if Naming.isVisible c then (if inside then n else n + 1, true) else (n, inside)
  (t.foldl step (0, false)).1

/-- How wide a line is, with its tabs. -/
def lineWidth (line : Bytes) : Nat :=
  line.foldl (fun n c => if c = '\t' then (n / 8 + 1) * 8
    else if Naming.isVisible c then n + 1 else n) 0

/-- The counts that are asked for: lines, words and bytes, and the longest line. -/
def counts (w : Words) (t : Bytes) : List Nat :=
  let all := !w.has "lwcmL"
  (if all || w.has "l" then [t.count '\n'] else [])
    ++ (if all || w.has "w" then [wordCount t] else [])
    ++ (if w.has "m" then [t.length] else [])
    ++ (if all || w.has "c" then [t.length] else [])
    ++ (if w.has "L" then [((bareLines t).map lineWidth).foldl max 0] else [])

/-- The size of what a name leads to, if it is a file. -/
def fileSize? (name : Bytes) : Task (Option (Option Nat)) := do
  let j ← get
  if name = ['-'] then
    match j.toHost.streamOf? j.channels 0 with
    | some (_, ⟨.file place, _, _, _, _⟩) => return some ((j.files.at? place).map Entry.size)
    | _ => return some none
  else
    return (j.files.find (Bytes.toName name)).toOption.map fun f =>
      if f.2.isFile then some f.2.size else none

/-- Prints how many lines, words and bytes there are, for every file and for all. -/
def wc : Utility := fun words =>
  let o : Options :=
    { flags := "lwcmL"
      names := [("lines", 'l'), ("words", 'w'), ("bytes", 'c'), ("chars", 'm'),
        ("max-line-length", 'L')] }
  withWords o words fun w => do
    let names := orInput w.rest
    let single := names.length = 1 && (counts w []).length = 1
    let mut sum := 0
    let mut least := 1
    for name in names do
      match ← fileSize? name with
      | some (some n) => sum := sum + n
      | some none => least := 7
      | none => pure ()
    let width := if single then 1 else max least (Text.ofNat sum).length
    let line (numbers : List Nat) (label : Bytes) : Bytes :=
      Text.joinWith [' '] (numbers.map fun n => pad [] width (Text.ofNat n)) ++ label
    let mut total := (counts w []).map fun _ => 0
    for name in names do
      let label := if w.rest = [] then [] else ' ' :: name
      match ← read name with
      | .error f =>
        complainOf (Naming.bare name) f
        if f = .isDirectory then printLine (line (counts w []) label)
      | .ok t =>
        let row := counts w t
        total := List.zipWith (· + ·) total row
        printLine (line row label)
    if names.length > 1 then printLine (line total " total".toList)

/-- Lines with their numbers, of which those without anything may be left out. -/
def numbered (w : Words) (skipsEmpty : Bool) : Int → List Bytes → Bytes
  | _, [] => []
  | n, line :: rest =>
    let width := ((w.value? 'w').map (Escape.numberIn 10)).getD 6
    let mark := (w.value? 's').getD ['\t']
    if skipsEmpty && line = [] then
      List.replicate (width + mark.length) ' ' ++ '\n' :: numbered w skipsEmpty n rest
    else
      let step : Int := ((w.value? 'i').map fun t => (readInteger t).1).getD 1
      let digits : Bytes := (toString n).toList
      let gap := width - digits.length
      let shownNumber := match (w.value? 'n').map String.ofList with
        | some "ln" => digits ++ List.replicate gap ' '
        | some "rz" => List.replicate gap '0' ++ digits
        | _ => List.replicate gap ' ' ++ digits
      shownNumber ++ mark ++ line ++ '\n' :: numbered w skipsEmpty (n + step) rest

/-- Prints lines with numbers before them. -/
def nl : Utility := fun words =>
  let o : Options :=
    { flags := "p", valued := "bdfhilnsvw"
      names := [("body-numbering", 'b'), ("number-separator", 's'), ("number-width", 'w'),
        ("number-format", 'n'), ("starting-line-number", 'v'), ("line-increment", 'i'),
        ("footer-numbering", 'f'), ("header-numbering", 'h'), ("join-blank-lines", 'l'),
        ("no-renumber", 'p'), ("section-delimiter", 'd')] }
  withAllTold o words fun w => do
    let lines := bareLines (← contents w.rest)
    let first : Int := ((w.value? 'v').map fun t => (readInteger t).1).getD 1
    match (w.value? 'b').map String.ofList with
    | some "a" => print (numbered w false first lines)
    | some "n" =>
      let gap :=
        ((w.value? 'w').map (Escape.numberIn 10)).getD 6 + ((w.value? 's').getD ['\t']).length
      for line in lines do printLine (List.replicate gap ' ' ++ line)
    | _ => print (numbered w true first lines)

/-!
## Copies
-/

/-- Prints the input and puts it into files as well. -/
def tee : Utility := fun words =>
  let o : Options :=
    { flags := "aip", names := [("append", 'a'), ("ignore-interrupts", 'i')] }
  withWords o words fun w => do
    let t ← takeInput
    print t
    flush
    for name in w.rest do
      if let some f ← printToFile name (if w.has "a" then .append else .write) t then
        complainOf (Naming.bare name) f

/-- Prints a line again and again, as long as somebody reads it. -/
def yes : Utility := fun words =>
  withWords { anywhere := false } words fun w => do
    let line := Text.joinWith [' '] (if w.rest = [] then [['y']] else w.rest) ++ ['\n']
    match ← room? with
    | some room => print (List.replicate (room / line.length + 1) line).flatten
    | none => print (List.replicate (Stream.endless / line.length) line).flatten

end Weave.Utility
