import Weave.Text.Difference
import Weave.Utility.Attributes
import Weave.Utility.Lines

/-!
# How files differ

Telling where two files differ first, and which lines of them differ.
-/
namespace Weave.Utility

open Job

/-- Where a file ends, of which the text is given. -/
def endOf (t : Bytes) : Bytes :=
  if t = [] then " which is empty".toList
  else
    let lines := t.count '\n'
    let (what, line) := if t.getLast? = some '\n' then (", line ", lines)
      else (", in line ", lines + 1)
    " after byte ".toList ++ Text.ofNat t.length ++ what.toList ++ Text.ofNat line

/-- Tells where two files differ first. -/
def cmp : Utility := fun words =>
  let o : Options :=
    { flags := "s", names := [("silent", 's'), ("quiet", 's')], misuse := 2
      hints := ["cmp: Try 'cmp --help' for more information."] }
  withWords o words fun w => do
    match w.rest with
    | [a, b] =>
      match ← contentOf a, ← contentOf b with
      | some s, some t =>
        let same := ((s.zip t).takeWhile fun p => p.1 = p.2).length
        if s != t then
          leave 1
          if w.has "s" then pure ()
          else if same = s.length || same = t.length then
            let short := if same = s.length then a else b
            complain ("EOF on ".toList ++ short ++ endOf (s.take same))
          else
            let line := (s.take same).count '\n' + 1
            printLine (a ++ ' ' :: b ++ " differ: char ".toList ++ Text.ofNat (same + 1)
              ++ ", line ".toList ++ Text.ofNat line)
      | _, _ => leave 2
    | [] =>
      complain "missing operand after 'cmp'".toList
      for line in o.hints do warn line.toList
      leave 2
    | [a] =>
      complain ("missing operand after ".toList ++ shown a)
      for line in o.hints do warn line.toList
      leave 2
    | _ :: _ :: extra :: _ =>
      complain ("extra operand ".toList ++ shown extra)
      for line in o.hints do warn line.toList
      leave 2


/-!
## Lines
-/

/-- The numbers of some lines, from the one behind a place on. -/
def rangeText (place count : Nat) : Bytes :=
  if count = 0 then Text.ofNat place
  else if count = 1 then Text.ofNat (place + 1)
  else Text.ofNat (place + 1) ++ ',' :: Text.ofNat (place + count)

/-- A line behind a mark. That its end is missing is told. -/
def markedLine (mark : Bytes) (line : Bytes) : Bytes :=
  if line.getLast? = some '\n' then mark ++ line
  else mark ++ line ++ "\n\\ No newline at end of file\n".toList

def plainHunk (h : Difference.Hunk) : Bytes :=
  let letter := if h.dropped = [] then 'a' else if h.added = [] then 'd' else 'c'
  rangeText h.oldPlace h.dropped.length ++ letter :: rangeText h.newPlace h.added.length ++ ['\n']
    ++ h.dropped.flatMap (markedLine "< ".toList)
    ++ (if letter = 'c' then "---\n".toList else [])
    ++ h.added.flatMap (markedLine "> ".toList)

/-- A place and a count of lines, where one of them is not told. -/
def spanText (place count : Nat) : Bytes :=
  let first := Text.ofNat (if count = 0 then place else place + 1)
  if count = 1 then first else first ++ ',' :: Text.ofNat count

/-- Groups of hunks that lie so near that the lines around them meet. -/
def grouped (around : Nat) : List Difference.Hunk → List (List Difference.Hunk)
  | [] => []
  | h :: more =>
    match grouped around more with
    | (next :: rest) :: groups =>
      if next.oldPlace ≤ h.oldPlace + h.dropped.length + 2 * around then
        (h :: next :: rest) :: groups
      else [h] :: (next :: rest) :: groups
    | _ => [[h]]

/-- A group of hunks with the lines around them. -/
def unifiedGroup (around : Nat) (a : List Bytes) (group : List Difference.Hunk) : Bytes :=
  match group, group.getLast? with
  | first :: _, some last =>
    let start := first.oldPlace - around
    let before := first.oldPlace - start
    let stop := min a.length (last.oldPlace + last.dropped.length + around)
    let behind := stop - (last.oldPlace + last.dropped.length)
    let newStart := first.newPlace - before
    let newStop := last.newPlace + last.added.length + behind
    let kept (i j : Nat) : Bytes := ((a.take j).drop i).flatMap (markedLine [' '])
    let rec body : Nat → List Difference.Hunk → Bytes
      | i, [] => kept i stop
      | i, h :: more =>
        kept i h.oldPlace ++ h.dropped.flatMap (markedLine ['-'])
          ++ h.added.flatMap (markedLine ['+']) ++ body (h.oldPlace + h.dropped.length) more
    "@@ -".toList ++ spanText start (stop - start) ++ " +".toList
      ++ spanText newStart (newStop - newStart) ++ " @@\n".toList ++ body start group
  | _, _ => []

/-- Whether two lines count as the same. -/
def sameLine (w : Words) (a b : Bytes) : Bool :=
  let isGap (c : Char) : Bool := c = ' ' || ('\t' ≤ c && c ≤ '\r')
  let squeezed (t : Bytes) : Bytes :=
    if w.has "w" then t.filter fun c => !isGap c
    else if w.has "b" then
      Text.joinWith [' '] ((t.splitOnP isGap).filter (· ≠ [])) ++
        (if t.head?.any isGap then [' '] else [])
    else t
  let cased (t : Bytes) : Bytes := if w.has "i" then t.map Char.toLower else t
  squeezed (cased a) = squeezed (cased b)

/-- The head of a file in a unified comparison. -/
def fileHead (mark : String) (label : Option Bytes) (name : Bytes) (time : Int) : Bytes :=
  mark.toList ++ (match label with
    | some label => label
    | none => name ++ '\t' :: fullTime time) ++ ['\n']

/-- Compares two texts, which have names, and prints how they differ. -/
def diffTexts (w : Words) (head : Bytes) (a b : Bytes × Bytes × Int) : Task Unit := do
  let (nameA, s, timeA) := a
  let (nameB, t, timeB) := b
  if s.contains '\x00' || t.contains '\x00' then
    if s != t then
      printLine ("Binary files ".toList ++ nameA ++ " and ".toList ++ nameB ++ " differ".toList)
      leave 1
    return
  let lines := endedLines s
  let es := Difference.edits (sameLine w) lines (endedLines t)
  let hunks := Difference.hunks es 0 0 none
  if hunks = [] then
    if w.has "s" then
      printLine ("Files ".toList ++ nameA ++ " and ".toList ++ nameB ++ " are identical".toList)
  else
    leave 1
    if w.has "q" then
      printLine ("Files ".toList ++ nameA ++ " and ".toList ++ nameB ++ " differ".toList)
    else
      print head
      if w.has "u" || (w.value? 'U').isSome then
        let around := ((w.value? 'U').map (Escape.numberIn 10)).getD 3
        let labels := (w.values.filter fun v => v.1 = 'L').map Prod.snd
        print (fileHead "--- " labels[0]? nameA timeA ++ fileHead "+++ " labels[1]? nameB timeB)
        for group in grouped around hunks do print (unifiedGroup around lines group)
      else
        for h in hunks do print (plainHunk h)

/-- Keeps the greater status of two. -/
def worsen (status : Nat) : Task Unit :=
  modify fun j => { j with status := max j.status status }

/-- Compares two files, or all that two directories hold. -/
def diffPaths (w : Words) (options : Bytes) : Nat → Bool → Bytes → Bytes → Task Unit
  | 0, _, _, _ => return ()
  | fuel + 1, isInner, a, b => do
    let job ← get
    let found (name : Bytes) : Except Failure (Option (Place × Entry)) :=
      if name = ['-'] then .ok none
      else (job.files.find (Bytes.toName name)).map some
    let isAbsent (f : Failure) : Bool := f = .notFound && w.has "N"
    match found a, found b with
    | .error f, .error g =>
      complainOf a f
      complainOf b g
      leave 2
    | .error f, .ok there =>
      if isAbsent f then
        let time := (there.map fun e => e.2.time).getD 0
        if let some t ← contentOf b then diffTexts w options (a, [], time) (b, t, time)
      else
        complainOf a f
        leave 2
    | .ok there, .error f =>
      if isAbsent f then
        let time := (there.map fun e => e.2.time).getD 0
        if let some t ← contentOf a then diffTexts w options (a, t, time) (b, [], time)
      else
        complainOf b f
        leave 2
    | .ok x, .ok y =>
      let isDir (e : Option (Place × Entry)) : Bool := e.any fun e => e.2.isDirectory
      match isDir x, isDir y with
      | true, true =>
        if isInner && !w.has "r" then
          printLine ("Common subdirectories: ".toList ++ a ++ " and ".toList ++ b)
        else
          let names (e : Option (Place × Entry)) : List Bytes :=
            (e.elim [] fun e => job.files.namesAt e.1).map Bytes.ofText
          let (inA, inB) := (names x, names y)
          let all := (inA ++ inB.filter fun n => !inA.contains n).mergeSort (· ≤ ·)
          for name in all do
            let before := (← get).status
            leave 0
            let only (dir : Bytes) : Bytes :=
              "Only in ".toList ++ dir ++ ": ".toList ++ name
            if inA.contains name && inB.contains name || w.has "N" then
              diffPaths w options fuel true (Path.join a name) (Path.join b name)
            else
              printLine (only (if inA.contains name then a else b))
              leave 1
            worsen before
      | true, false =>
        if isInner then
          printLine ("File ".toList ++ a ++ " is a directory while file ".toList ++ b
            ++ " is a regular file".toList)
          leave 1
        else diffPaths w options fuel true (Path.join a (lastPart b [])) b
      | false, true =>
        if isInner then
          printLine ("File ".toList ++ a ++ " is a regular file while file ".toList ++ b
            ++ " is a directory".toList)
          leave 1
        else diffPaths w options fuel false a (Path.join b (lastPart a []))
      | false, false =>
        match ← contentOf a, ← contentOf b with
        | some s, some t =>
          let time (e : Option (Place × Entry)) : Int :=
            (e.map fun e => e.2.time).getD job.files.now
          let head := if isInner then
              "diff".toList ++ options ++ ' ' :: a ++ ' ' :: b ++ ['\n']
            else []
          diffTexts w head (a, s, time x) (b, t, time y)
        | _, _ => leave 2

/-- Tells how two files differ. -/
def diff : Utility := fun words =>
  let o : Options :=
    { flags := "qsruiNwbBaEZdt", valued := "UCLxI", misuse := 2
      names := [("brief", 'q'), ("report-identical-files", 's'), ("recursive", 'r'),
        ("unified", 'u'), ("ignore-case", 'i'), ("new-file", 'N'), ("ignore-all-space", 'w'),
        ("ignore-space-change", 'b'), ("ignore-blank-lines", 'B'), ("text", 'a'), ("label", 'L'),
        ("exclude", 'x'), ("minimal", 'd'), ("normal", 'd')]
      hints := ["diff: Try 'diff --help' for more information."] }
  let isOption (word : Bytes) : Bool := word.head? = some '-' && word.length > 1
  withWords o words fun w => do
    let refuse (what : Bytes) : Task Unit := do
      complain what
      for line in o.hints do warn line.toList
      leave 2
    match w.rest with
    | [a, b] =>
      let options := ((words.filter isOption).map fun word => ' ' :: Naming.bare word).flatten
      diffPaths w options ((← get).files.entries.length + 2) false a b
    | [] => refuse "missing operand after 'diff'".toList
    | [a] => refuse ("missing operand after ".toList ++ shown a)
    | _ :: _ :: extra :: _ => refuse ("extra operand ".toList ++ shown extra)

end Weave.Utility
