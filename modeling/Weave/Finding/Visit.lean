import Weave.Finding.Condition
import Weave.Text.Replacement
import Weave.Utility.Printing

/-!
# Visiting files

A condition is tried on every file below some places, the names in the order of their
bytes, and a directory before or behind what is in it.
-/
namespace Weave.Finding

open Job Utility

/-- A file that is looked at: its name, the place where the search began, and how deep it
is below that. -/
structure Sight where
  path : Bytes
  root : Bytes
  depth : Nat
  place : Place
  entry : Entry

/-- What a search has come to. -/
structure Search where
  isPruned : Bool := false
  isOver : Bool := false
  /-- The names that are kept for commands, the last one first. -/
  kept : List (Nat × List Bytes × List Bytes) := []

abbrev Step := StateT Search Task

/-- What a letter of a format stands for. -/
def part (files : FileTree) (s : Sight) (c : Char) : Bytes :=
  let last := lastPart s.path []
  match c with
  | 'p' => s.path
  | 'f' => last
  | 'h' =>
    let front := s.path.take (s.path.length - last.length)
    if front = [] then ['.'] else if front = ['/'] then [] else front.dropLast
  | 'P' => (s.path.drop s.root.length).dropWhile (· = '/')
  | 'H' => s.root
  | 'd' => Text.ofNat s.depth
  | 'y' => match s.entry.content with
    | .file _ => ['f']
    | _ => [kindLetter s.entry]
  | 'm' => Nat.toDigits 8 s.entry.mode
  | 'M' => kindLetter s.entry :: Mode.table s.entry.mode
  | 'l' => Bytes.ofText (s.entry.target?.getD [])
  | 't' => (Moment.ofTime s.entry.time).shownBy "%a %b %e %H:%M:%S.%N %Y"
  | 'n' => statPart files s.path s.place s.entry 'h'
  | 's' => Text.ofNat (if s.entry.isDirectory then 4096 else s.entry.size)
  | 'k' => Text.ofNat ((s.entry.size + 4095) / 4096 * 4)
  | 'u' => "root".toList
  | 'g' => "root".toList
  | c => statPart files s.path s.place s.entry c

/-- Starts a command and tells whether it went well. -/
def startOne (launch : Launch) (words : List Bytes) : Task Bool := do
  let status := (← get).status
  flush
  let failure ← launch (words.headD []) (words.drop 1)
  let after ← modifyGet fun j => (j, { j with status := status, signal := none })
  match failure with
  | none =>
    if let some signal := after.signal then
      warn (after.name ++ ": ".toList ++ Naming.quoted (words.headD [])
        ++ " terminated by signal ".toList ++ Text.ofNat signal)
    return after.status = 0
  | some f =>
    warn ((← get).name ++ ": ".toList ++ Naming.quoted (words.headD []) ++ ": ".toList ++ f.reason)
    return false

/-- The size of a file in units that are filled. -/
def unitsOf (e : Entry) (unit : Nat) : Nat :=
  let size := if e.isDirectory then 4096 else e.size
  (size + unit - 1) / unit

def isEmpty (files : FileTree) (s : Sight) : Bool :=
  match s.entry.content with
  | .directory => (files.namesAt s.place).isEmpty
  | .file bytes => bytes.size = 0
  | _ => false

/-- Removes a file or an empty directory. -/
def removeOne (s : Sight) : Task Bool := do
  let path := Bytes.toName s.path
  let files := (← get).files
  match if s.entry.isDirectory then files.removeEmpty path else files.removeFile path with
  | .ok files =>
    modify fun j => { j with files := files }
    return true
  | .error f =>
    complainOf ("cannot delete ".toList ++ Naming.quoted s.path) f
    return false

/-- Tries a condition on a file. -/
def Test.holds (launch : Launch) (s : Sight) : Test → Step Bool
  | always b => return b
  | name pattern anyCase isWhole => do
    let t := if isWhole then s.path else lastPart s.path []
    let lower (t : Bytes) : Bytes := if anyCase then t.map Char.toLower else t
    let lowered : Pattern.Element → Pattern.Element
      | .char c => .char (if anyCase then c.toLower else c)
      | e => e
    return Pattern.isMatch (pattern.map lowered) (lower t)
  | expression e => do
    let left := (e.atSpot? (.ofText none s.path)).map Prod.fst
    return left = some 0
  | kind letters =>
    return letters.contains (match s.entry.content with
      | .file _ => 'f'
      | _ => kindLetter s.entry)
  | size m unit => return m.holds (unitsOf s.entry unit)
  | empty => return isEmpty (← getThe Job).files s
  | newer time => return time < s.entry.time
  | age m unit => return m.holds (((← getThe Job).files.now - s.entry.time) / unit).toNat
  | mode bits how =>
    let own := s.entry.mode
    return if how = '=' then own = bits else if how = '-' then own &&& bits = bits
      else bits = 0 || own &&& bits != 0
  | links m => return m.holds (linkCount (← getThe Job).files s.place s.entry)
  | runnable => return s.entry.isDirectory || s.entry.isRunnable
  | print ending => do
    Job.print (s.path ++ ending)
    return true
  | printf format => do
    let files := (← getThe Job).files
    Job.print (statLine (part files s) true (format.length + 1) format)
    return true
  | start _ words =>
    startOne launch (words.map fun word => Text.replaceAll "\x7b\x7d".toList s.path word)
  | gather number words => do
    modify fun v => { v with
      kept := match v.kept.lookup number with
        | some (command, paths) =>
          (number, command, s.path :: paths) :: v.kept.filter fun e => e.1 != number
        | none => (number, words, [s.path]) :: v.kept }
    return true
  | delete => removeOne s
  | prune => do
    modify fun v => { v with isPruned := true }
    return true
  | quit => do
    modify fun v => { v with isOver := true }
    return true
  | not a => return !(← a.holds launch s)
  | both a b => do
    if ← a.holds launch s then
      if (← get).isOver then return false else b.holds launch s
    else return false
  | either a b => do
    if ← a.holds launch s then return true
    else if (← get).isOver then return false
    else b.holds launch s
  | andThen a b => do
    let _ ← a.holds launch s
    if (← get).isOver then return false else b.holds launch s

/-- Tries a condition on a file and on all below it. -/
def visit (launch : Launch) (m : Manner) (t : Test) : Nat → Sight → Step Unit
  | 0, _ => return ()
  | fuel + 1, s => do
    let tries : Step Unit := do
      if m.least ≤ s.depth && !(← get).isOver then
        let _ ← t.holds launch s
    modify fun v => { v with isPruned := false }
    if !m.insideFirst then tries
    let isPruned := (← get).isPruned && !m.insideFirst
    let files := (← getThe Job).files
    if s.entry.isDirectory && !isPruned && m.most.all (s.depth < ·) then
      for name in files.namesAt s.place do
        if !(← get).isOver then
          let path := Path.join s.path (Bytes.ofText name)
          let files := (← getThe Job).files
          let text := Bytes.toName path
          let there := if m.follows then files.find text else files.findSelf text
          let found := if there.toOption.isSome then there else files.findSelf text
          if let .ok (place, entry) := found then
            visit launch m t fuel ⟨path, s.root, s.depth + 1, place, entry⟩
    if m.insideFirst then tries

/-- Searches below some places. -/
def search (launch : Launch) (m : Manner) (t : Test) (roots : List Bytes) : Step Unit := do
  for root in roots do
    let files := (← getThe Job).files
    let text := Bytes.toName root
    match if m.follows then files.find text else files.findSelf text with
    | .error f => if !(← get).isOver then complainOf (Naming.quoted root) f
    | .ok (place, entry) =>
      if !(← get).isOver then
        visit launch m t (files.entries.length + 2) ⟨root, root, 0, place, entry⟩
  for (_, words, paths) in (← get).kept.reverse do
    if !(← startOne launch (words ++ paths.reverse)) then leave 1

end Weave.Finding

/-!
## The program that finds files

Its words are the places where it begins, and a condition.
-/
namespace Weave.Utility

open Job

/-- Finds files below some places. -/
def find : Starter := fun launch words => do
  let follows := words.head? = some "-L".toList
  let words := if words.head?.any (["-L", "-P", "-H"].map String.toList).contains then words.drop 1
    else words
  let isTest (word : Bytes) : Bool := match word with
    | '-' :: _ :: _ => true
    | ['!'] => true
    | ['('] => true
    | [')'] => true
    | _ => false
  let roots := words.takeWhile fun word => !isTest word
  let job ← get
  match Finding.readAll { words := words.drop roots.length, files := job.files } with
  | .error f =>
    for line in f.lines do warn (job.name ++ ": ".toList ++ line)
    leave 1
  | .ok (t, m) =>
    let m := { m with follows := m.follows || follows }
    let roots := if roots = [] then [Path.dot] else roots
    let _ ← (Finding.search launch m t roots).run {}

end Weave.Utility
