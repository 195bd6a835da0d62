import Weave.Utility.Attributes

/-!
# Listing directories

What is in directories, name by name, in the order that is asked for, and with what is
known about each.
-/
namespace Weave.Utility

open Job

/-- An entry as it is listed: by its name, which may be a path. -/
structure Listed where
  name : Bytes
  place : Place
  entry : Entry

/-- What a listing shows behind a name. -/
def suffixOf (w : Words) (e : Entry) : Bytes :=
  match e.content with
  | .directory => if w.has "Fp" then ['/'] else []
  | .link _ => if w.has "F" then ['@'] else []
  | .file _ => if e.isRunnable && w.has "F" then ['*'] else []
  | .device _ => []

/-- The part of a name from its last point on. -/
def extensionOf (name : Bytes) : Bytes :=
  match (name.reverse.takeWhile (· ≠ '.')).reverse with
  | part => if part.length = name.length then [] else '.' :: part

/-- Whether one entry stands before another one. -/
def isBefore (w : Words) (a b : Listed) : Bool :=
  let byName := a.name ≤ b.name
  let by' {α : Type} [Ord α] (x y : α) : Bool := match Ord.compare x y with
    | .lt => true
    | .gt => false
    | .eq => byName
  if w.has "t" then by' b.entry.time a.entry.time
  else if w.has "S" then by' b.entry.size a.entry.size
  else if w.has "X" then
    let (x, y) := (extensionOf a.name, extensionOf b.name)
    if x = y then byName else x ≤ y
  else byName

def ordered (w : Words) (all : List Listed) : List Listed :=
  let sorted := if w.has "Uf" then all else all.mergeSort (isBefore w)
  let sorted := if w.has "r" then sorted.reverse else sorted
  if w.has "/" then
    sorted.filter (fun l => l.entry.isDirectory) ++ sorted.filter fun l => !l.entry.isDirectory
  else sorted

/-- The entries that a listing of a directory shows. -/
def listedIn (w : Words) (files : FileTree) (place : Place) : List Listed :=
  let inner := (files.namesAt place).filterMap fun name =>
    (files.at? (place ++ [name])).map fun e => ⟨Bytes.ofText name, place ++ [name], e⟩
  let visible := inner.filter fun l =>
    (w.has "aAf" || l.name.head? != some '.') && !(w.has "B" && l.name.getLast? = some '~')
  let dots := [⟨Path.dot, place, .directory⟩, ⟨Path.dotDot, place.dropLast, .directory⟩]
  let hidden := w.values.filterMap fun v =>
    if v.1 = 'I' || v.1 = ':' && !w.has "aA" then some v.2 else none
  let kept := visible.filter fun l => !hidden.contains l.name
  ordered w (if w.has "af" && !w.has "A" then dots ++ kept else kept)

/-- How many blocks of a thousand bytes something takes. -/
def blocksOf (e : Entry) : Nat :=
  match e.content with
  | .file bytes => (bytes.size + 4095) / 4096 * 4
  | .directory => 4
  | _ => 0

/-- A size with a letter for the thousands in it. -/
def shortSize (n : Nat) : Bytes :=
  let rec go : List Char → Nat → Bytes
    | [], n => Text.ofNat n
    | c :: more, n =>
      let tenths := (n * 10 + 1023) / 1024
      if tenths < 100 then Text.ofNat (tenths / 10) ++ '.' :: Text.ofNat (tenths % 10) ++ [c]
      else if (n + 1023) / 1024 < 1024 then Text.ofNat ((n + 1023) / 1024) ++ [c]
      else go more ((n + 1023) / 1024)
  if n < 1024 then Text.ofNat n else go "KMGT".toList n

def sizeText (w : Words) (e : Entry) : Bytes :=
  if e.isDevice then "1, 3".toList
  else if w.has "h" then shortSize e.size else Text.ofNat e.size

/-- When something has changed last, with the year where that is long ago. -/
def timeText (w : Words) (now time : Int) : Bytes :=
  let halfYear := 15778476 * Moment.perSecond
  let m := Moment.ofTime time
  match w.value? '%' with
  | some style =>
    match String.ofList style with
    | "full-iso" => fullTime time
    | "long-iso" => m.shownBy "%Y-%m-%d %H:%M"
    | "iso" =>
      m.shownBy (if now - halfYear < time && time ≤ now then "%m-%d %H:%M" else "%Y-%m-%d ")
    | _ => m.shownBy (String.ofList (style.drop 1))
  | none =>
    if now - halfYear < time && time ≤ now then m.shownBy "%b %e %H:%M" else m.shownBy "%b %e  %Y"

def padLeft (width : Nat) (t : Bytes) : Bytes := List.replicate (width - t.length) ' ' ++ t

def padRight (width : Nat) (t : Bytes) : Bytes := t ++ List.replicate (width - t.length) ' '

def nameText (w : Words) (l : Listed) : Bytes :=
  let name := if w.has "Q" then '"' :: l.name ++ ['"'] else l.name
  name ++ suffixOf w l.entry

/-- The columns of a long line but for the name. -/
def columns (w : Words) (files : FileTree) (l : Listed) : List Bytes :=
  let own := if w.has "n" then ['0'] else "root".toList
  [kindLetter l.entry :: Mode.table l.entry.mode, Text.ofNat (linkCount files l.place l.entry)]
    ++ (if w.has "g" then [] else [own]) ++ (if w.has "Go" then [] else [own])
    ++ [sizeText w l.entry, timeText w files.now l.entry.time]

/-- Prints entries with what is known about them. -/
def printLong (w : Words) (files : FileTree) (all : List Listed) : Task Unit := do
  let rows := all.map fun l => columns w files l
  let width (i : Nat) : Nat := (rows.map fun row => (row.getD i []).length).foldl max 0
  let last := (rows.headD []).length - 1
  for (l, row) in all.zip rows do
    let cells := row.zipIdx.map fun (cell, i) =>
      if i = 1 || i + 1 = last then padLeft (width i) cell
      else if i = 0 || i = last then cell else padRight (width i) cell
    let shownName := match l.entry.target? with
      | some target =>
        let quoted := { w with flags := w.flags.filter (· ≠ 'F') }
        nameText quoted l ++ " -> ".toList ++ Bytes.ofText target
      | none => nameText w l
    let inode := if w.has "i" then Text.ofNat (100000 + l.place.length) ++ [' '] else []
    printLine (inode ++ Text.joinWith [' '] cells ++ ' ' :: shownName)

/-- Prints entries, each on a line of its own or all in one. -/
def printListed (w : Words) (files : FileTree) (all : List Listed) : Task Unit := do
  if w.has "lngo" then printLong w files all
  else if w.has "m" then
    if !all.isEmpty then printLine (Text.joinWith ", ".toList (all.map (nameText w)))
  else
    let blocks := all.map fun l => Text.ofNat (blocksOf l.entry)
    let width := (blocks.map List.length).foldl max 0
    for (l, b) in all.zip blocks do
      printLine ((if w.has "s" then padLeft width b ++ [' '] else []) ++ nameText w l)

/-- Prints what is in one directory. -/
def listOne (w : Words) (files : FileTree) (place : Place) : Task Unit := do
  let all := listedIn w files place
  if w.has "lngos" then
    printLine ("total ".toList ++ Text.ofNat (all.foldl (fun n l => n + blocksOf l.entry) 0))
  printListed w files all

/-- Prints what is in directories, each under its name, with `R` also what is in
those inside. The number bounds how many are printed. -/
def listInside (w : Words) (files : FileTree) : Nat → Bool → List Bytes → Task Unit
  | 0, _, _ => return ()
  | _ + 1, _, [] => return ()
  | fuel + 1, first, name :: names => do
    match files.find (Bytes.toName name) with
    | .ok (place, _) =>
      if !first then printLine []
      printLine (name ++ [':'])
      listOne w files place
      let deeper := (listedIn w files place).filterMap fun l =>
        if l.entry.isDirectory && l.name != Path.dot && l.name != Path.dotDot then
          some (Path.join name l.name) else none
      listInside w files fuel false ((if w.has "R" then deeper else []) ++ names)
    | _ => listInside w files fuel first names

def lsOptions : Options where
  flags := "1aAbBcCdfFgGhHiklLmnNopqQrRsStuUvxXZ/"
  valued := "ITw:;%"
  misuse := 2
  names := [("all", 'a'), ("almost-all", 'A'), ("recursive", 'R'), ("reverse", 'r'),
    ("directory", 'd'), ("classify", 'F'), ("human-readable", 'h'), ("inode", 'i'),
    ("size", 's'), ("numeric-uid-gid", 'n'), ("no-group", 'G'), ("ignore-backups", 'B'),
    ("dereference", 'L'), ("quote-name", 'Q'), ("ignore", 'I'), ("hide", ':'), ("color", ';'),
    ("time-style", '%'), ("group-directories-first", '/')]

/-- A word for colours that stands without a value, in the form of others. -/
def withColourValue (word : Bytes) : Bytes :=
  if word = "--color".toList then "--color=never".toList
  else if word = "--full-time".toList then "--time-style=full-iso".toList
  else word

/-- Lists files first and then directories, each with what is in it. A link to a
directory counts as one, unless the links themselves are to be described. -/
def ls : Utility := fun words =>
  withWords lsOptions (words.map withColourValue) fun w => do
    let w := if words.contains "--full-time".toList then { w with flags := 'l' :: w.flags } else w
    let names := if w.rest = [] then [Path.dot] else w.rest
    let files := (← get).files
    let describes := w.has "lngdF" && !w.has "LH"
    let mut found : List Listed := []
    for name in names do
      let path := Bytes.toName name
      let at' : Except Failure (Place × Entry) := match files.find path, describes with
        | .ok f, false => .ok f
        | .error .notDirectory, _ => .error .notDirectory
        | _, _ => files.findSelf path
      match at' with
      | .error f =>
        complainOf ("cannot access ".toList ++ shown name) f
        leave 2
      | .ok (place, entry) => found := found ++ [⟨name, place, entry⟩]
    let isOpened (l : Listed) : Bool := l.entry.isDirectory && !w.has "d"
    let plain := ordered w (found.filter fun l => !isOpened l)
    printListed w files plain
    let dirs := ordered w (found.filter isOpened)
    match names, dirs with
    | [_], [dir] =>
      if w.has "R" then listInside w files (files.entries.length + 1) true [dir.name]
      else listOne w files dir.place
    | _, _ =>
      let bound := files.entries.length + dirs.length + 1
      listInside w files bound plain.isEmpty (dirs.map Listed.name)

/-- Prints where the working directory is. -/
def pwd : Utility := fun words =>
  withWords { flags := "LP", names := [("logical", 'L'), ("physical", 'P')] } words fun w => do
    let job ← get
    let physical := Bytes.ofText (FileTree.pathOf job.files.here)
    let told := (job.environment.lookup "PWD".toList).getD []
    let isTrue := told.head? = some '/'
      && ((job.files.find (Bytes.toName told)).toOption.any fun f => f.1 = job.files.here)
    printLine (if w.has "L" && isTrue then told else physical)

end Weave.Utility
