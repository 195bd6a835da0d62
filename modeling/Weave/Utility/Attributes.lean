import Weave.Moment.Format
import Weave.Moment.Read
import Weave.Utility.Job
import Weave.Utility.Mode

/-!
# Programs about permissions and times

Giving files times and permissions, and showing what is known about them.
-/
namespace Weave.Utility

open Job

/-!
## Times
-/

/-- The time that a program is to give files: that of another file, one that is told, or
now. -/
def chosenTime (w : Words) : Task (Option Int) := do
  let files := (← get).files
  let mut base := files.now
  if let some name := w.value? 'r' then
    match files.find (Bytes.toName name) with
    | .ok (_, e) => base := e.time
    | .error f =>
      complainOf ("failed to get attributes of ".toList ++ shown name) f
      return none
  let told := match w.value? 'd', w.value? 't' with
    | some t, _ => some (t, Moment.read? base t)
    | none, some t => some (t, Moment.ofDigits? files.now t)
    | none, none => none
  match told with
  | some (t, none) =>
    complain ("invalid date format ".toList ++ shown t)
    return none
  | some (_, some time) => return some time
  | none => return some base

/-- Makes files that are missing, and gives all of them a time. -/
def touch : Utility := fun words =>
  let o : Options :=
    { flags := "acmfh", valued := "drt"
      names := [("no-create", 'c'), ("date", 'd'), ("reference", 'r'), ("no-dereference", 'h')] }
  withWords o words fun w => do
    let some time ← chosenTime w | return ()
    if w.rest = [] then return (← misuse "missing file operand".toList)
    for name in w.rest do
      let files := (← get).files
      let path := Bytes.toName name
      let isThere := if w.has "h" then (files.findSelf path).toOption.isSome else files.holds path
      if isThere then
        if !(w.has "a" && !w.has "m") then
          modify fun j => { j with
            files := (j.files.setTime path time).toOption.getD j.files }
      else if !w.has "ch" then
        if name.getLast? = some '/' then
          match files.find path with
          | .error f => complainOf ("setting times of ".toList ++ shown name) f
          | .ok _ => return ()
        else
          change ("cannot touch ".toList ++ shown name) fun files => do
            (← files.appendBytes path .empty).setTime path time

/-- Where the format of a moment ends that is kept to standards, and the format. -/
def isoFormat (detail : Bytes) (zone mark : String) : Option String :=
  let clock (t : String) : Option String := some ("%Y-%m-%d" ++ mark ++ t ++ zone)
  match String.ofList detail with
  | "" => some "%Y-%m-%d"
  | "date" => some "%Y-%m-%d"
  | "hours" => clock "%H"
  | "minutes" => clock "%H:%M"
  | "seconds" => clock "%H:%M:%S"
  | "ns" => clock (if mark = "T" then "%H:%M:%S,%N" else "%H:%M:%S.%N")
  | _ => none

/-- The options of showing a moment whose value may be missing, in the form of others. -/
def withIsoValue (word : Bytes) : Bytes :=
  if word = "-I".toList || word = "--iso-8601".toList then "-Idate".toList
  else match Text.after? "--iso-8601=".toList word with
    | some detail => "-I".toList ++ detail
    | none => word

/-- Shows a moment: now, that of a file, or one that is told. -/
def date : Utility := fun words =>
  let o : Options :=
    { flags := "uR", valued := "dfrsI/"
      names := [("date", 'd'), ("reference", 'r'), ("utc", 'u'), ("universal", 'u'),
        ("rfc-email", 'R'), ("rfc-3339", '/'), ("set", 's')] }
  withWords o (words.map withIsoValue) fun w => do
    let files := (← get).files
    let mut time := files.now
    if let some name := w.value? 'r' then
      match files.find (Bytes.toName name) with
      | .ok (_, e) => time := e.time
      | .error f => return (← complainOf (Naming.bare name) f)
    if let some told := w.value? 'd' then
      match Moment.read? files.now told with
      | some t => time := t
      | none => return (← complain ("invalid date ".toList ++ shown told))
    let formats := w.rest.filter fun word => word.head? = some '+'
    let moment := Moment.ofTime time
    let usual := if w.has "R" then "%a, %d %b %Y %H:%M:%S %z"
      else match w.value? 'I', w.value? '/' with
        | some detail, _ => (isoFormat detail "%:z" "T").getD "%F"
        | none, some detail => (isoFormat detail "%:z" " ").getD "%F"
        | none, none => "%a %b %e %H:%M:%S %Z %Y"
    match w.rest, formats with
    | [], _ => printLine (moment.shownBy usual)
    | ['+' :: format], _ => printLine (moment.shownBy (String.ofList format))
    | [word], _ => complain ("invalid date ".toList ++ shown word)
    | _ :: extra :: _, _ => hasExtra extra

/-!
## Permissions
-/

/-- Whether a word that begins with a dash is a mode. -/
def isDashMode (word : Bytes) : Bool :=
  match word with
  | '-' :: c :: _ => "rwxXstugoa,+=01234567".toList.contains c
  | _ => false

/-- Permissions in both of their forms. -/
def bothForms (mode : Nat) : Bytes :=
  Mode.octal mode ++ " (".toList ++ Mode.table mode ++ [')']

/-- Gives one entry permissions, with `R` also all that is in it. The number bounds how
deep directories lie. -/
def chmodOne (w : Words) (mode : Bytes ⊕ Nat) (top : Bool) : Nat → Bytes → Task Unit
  | 0, _ => return ()
  | depth + 1, name => do
    let files := (← get).files
    let path := Bytes.toName name
    match files.find path with
    | .error f =>
      if !top then return ()
      if w.has "f" then leave 1
      else if (files.findSelf path).toOption.isSome && f = .notFound then
        complain ("cannot operate on dangling symlink ".toList ++ shown name)
      else complainOf ("cannot access ".toList ++ shown name) f
    | .ok (place, e) =>
      let asked := match mode with
        | .inl text => (Mode.result? text e.isDirectory files.mask e.mode).getD e.mode
        | .inr bits => bits
      if asked != e.mode then
        modify fun j => { j with files := (j.files.setMode path asked).toOption.getD j.files }
        if w.has "vc" then
          printLine ("mode of ".toList ++ shown name ++ " changed from ".toList ++ bothForms e.mode
            ++ " to ".toList ++ bothForms asked)
      else if w.has "v" then
        printLine ("mode of ".toList ++ shown name ++ " retained as ".toList ++ bothForms asked)
      if w.has "R" && e.isDirectory then
        for inner in files.namesAt place do
          if !((files.at? (place ++ [inner])).any Entry.isLink) then
            chmodOne w mode false depth (Path.join name (Bytes.ofText inner))

/-- Words of which those that begin with one dash may be modes. -/
def chmod : Utility := fun words => do
  let words := words.map fun word => if isDashMode word then '\x00' :: word else word
  let o : Options :=
    { flags := "Rcfv", valued := "/"
      names := [("recursive", 'R'), ("changes", 'c'), ("silent", 'f'), ("quiet", 'f'),
        ("verbose", 'v'), ("reference", '/')] }
  withWords o words fun w => do
    let rest := w.rest.map fun word => if word.head? = some '\x00' then word.drop 1 else word
    let files := (← get).files
    let depth := files.entries.length + 1
    match w.value? '/', rest with
    | _, [] => lacksOperand
    | some reference, names =>
      match files.find (Bytes.toName reference) with
      | .error f => complainOf ("failed to get attributes of ".toList ++ shown reference) f
      | .ok (_, e) => for name in names do chmodOne w (.inr e.mode) true depth name
    | none, [mode] => misuse ("missing operand after ".toList ++ shown mode)
    | none, mode :: names =>
      if (Mode.result? mode false 0 0).isNone then
        return (← misuse ("invalid mode: ".toList ++ shown mode))
      for name in names do chmodOne w (.inl mode) true depth name

/-!
## What is known about files
-/

/-- The letter of what an entry is, as it stands before its permissions. -/
def kindLetter (e : Entry) : Char :=
  match e.content with
  | .directory => 'd'
  | .link _ => 'l'
  | .device _ => 'c'
  | .file _ => '-'

/-- The bits of what an entry is and of its permissions. -/
def wholeMode (e : Entry) : Nat :=
  (match e.content with
    | .directory => 0o040000
    | .link _ => 0o120000
    | .device _ => 0o020000
    | .file _ => 0o100000) + e.mode

/-- What an entry is. -/
def kindText (e : Entry) : Bytes :=
  match e.content with
  | .directory => "directory".toList
  | .link _ => "symbolic link".toList
  | .device _ => "character special file".toList
  | .file bytes => if bytes.size = 0 then "regular empty file".toList else "regular file".toList

/-- How many names an entry has; a directory has one more in each directory inside. -/
def linkCount (files : FileTree) (place : Place) (e : Entry) : Nat :=
  if e.isDirectory then
    2 + ((files.namesAt place).filter fun name =>
      (files.at? (place ++ [name])).any Entry.isDirectory).length
  else files.namesOf e

/-- The moment of a time in full. -/
def fullTime (t : Int) : Bytes :=
  (Moment.ofTime t).shownBy "%Y-%m-%d %H:%M:%S.%N %z"

/-- What a letter of a format stands for. -/
def statPart (files : FileTree) (name : Bytes) (place : Place) (e : Entry) (c : Char) : Bytes :=
  let seconds : Bytes := (toString (e.time / Moment.perSecond)).toList
  match c with
  | 'n' => name
  | 'N' => shown name ++ match e.target? with
    | some target => " -> ".toList ++ shown (Bytes.ofText target)
    | none => []
  | 's' => Text.ofNat e.size
  | 'a' => Nat.toDigits 8 e.mode
  | 'A' => kindLetter e :: Mode.table e.mode
  | 'f' => Nat.toDigits 16 (wholeMode e)
  | 'F' => kindText e
  | 'h' => Text.ofNat (linkCount files place e)
  | 'u' => ['0']
  | 'g' => ['0']
  | 'U' => "root".toList
  | 'G' => "root".toList
  | 'b' => Text.ofNat ((e.size + 4095) / 4096 * 8)
  | 'B' => "512".toList
  | 'o' => "4096".toList
  | 'i' => Text.ofNat (100000 + (files.entries.findIdx fun f => f.1 = place))
  | 'd' => ['4', '2']
  | 'D' => ['2', 'a']
  | 't' => ['0']
  | 'T' => ['0']
  | 'm' => ['/']
  | 'W' => seconds
  | 'w' => fullTime e.time
  | 'x' => fullTime e.time
  | 'y' => fullTime e.time
  | 'z' => fullTime e.time
  | 'X' => seconds
  | 'Y' => seconds
  | 'Z' => seconds
  | '%' => ['%']
  | _ => ['?']

/-- Shows an entry by a format. `escapes` tells whether backslashes stand for other
characters. The number bounds how long the format is. -/
def statLine (part : Char → Bytes) (escapes : Bool) : Nat → Bytes → Bytes
  | 0, _ => []
  | _, [] => []
  | fuel + 1, '%' :: rest =>
    let flags := rest.takeWhile "-0+ #'".toList.contains
    let behind := rest.drop flags.length
    let digits := behind.takeWhile Char.isDigit
    let behind := behind.drop digits.length
    match behind with
    | [] => '%' :: rest
    | c :: behind =>
      let t := part c
      let gap := List.replicate (Escape.numberIn 10 digits - t.length)
        (if flags.contains '0' then '0' else ' ')
      (if flags.contains '-' then t ++ gap else gap ++ t) ++ statLine part escapes fuel behind
  | fuel + 1, '\\' :: rest =>
    if !escapes then '\\' :: statLine part escapes fuel rest
    else match Escape.read .extended .format rest with
      | some (meant, rest) => meant ++ statLine part escapes fuel rest
      | none => []
  | fuel + 1, c :: rest => c :: statLine part escapes fuel rest

/-- The usual form of what is known about an entry. -/
def statForm (isDevice : Bool) : String :=
  "  File: %N\n  Size: %-10s\tBlocks: %-10b IO Block: %-6o %F\n"
    ++ "Device: 0,%d\tInode: %-11i Links: "
    ++ (if isDevice then "%-5h Device type: %t,%T" else "%h")
    ++ "\nAccess: (%04a/%10.10A)  Uid: (%5u/%8U)   Gid: (%5g/%8G)\n"
    ++ "Access: %x\nModify: %y\nChange: %z\n Birth: %w\n"

/-- Shows what is known about files. -/
def stat : Utility := fun words =>
  let o : Options :=
    { flags := "Lft", valued := "c/"
      names := [("format", 'c'), ("printf", '/'), ("dereference", 'L'), ("file-system", 'f'),
        ("terse", 't')] }
  withWords o words fun w => do
    if w.rest = [] then return (← lacksOperand)
    for name in w.rest do
      let files := (← get).files
      let found := if w.has "L" then files.find (Bytes.toName name)
        else files.findSelf (Bytes.toName name)
      match found with
      | .error f =>
        let what := if w.has "f" then "cannot read file system information for "
          else "cannot statx "
        complainOf (what.toList ++ shown name) f
      | .ok (place, e) =>
        let part := statPart files name place e
        match w.value? 'c', w.value? '/' with
        | some format, _ => printLine (statLine part false (format.length + 1) format)
        | none, some format => print (statLine part true (format.length + 1) format)
        | none, none =>
          let form := (statForm e.isDevice).toList
          print (statLine part false (form.length + 1) form)

end Weave.Utility
