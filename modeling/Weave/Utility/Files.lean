import Weave.Utility.Escape
import Weave.Utility.Job
import Weave.Utility.Mode

/-!
# Programs that make and remove files

Making and removing files and directories, and giving files a length. Words that name
several files are worked off one after the other, and a failure of one does not keep the
others from being done.
-/
namespace Weave.Utility

open Job

/-!
## Directories
-/

/-- The beginnings of a path, each one step longer than the one before. -/
def beginnings (path : Bytes) : List Bytes :=
  let steps := Text.splitOn '/' path
  let all := (List.range steps.length).map fun i => Text.joinWith ['/'] (steps.take (i + 1))
  all.filter fun p => p != [] && p.getLast? != some '/'

/-- Says that a directory has been made. -/
def tellMade (dir : Bytes) : Task Unit := do
  printLine ((← get).name ++ ": created directory ".toList ++ shown dir)

/-- Gives a new directory permissions. -/
def setModeOf (dir : Bytes) (mode : Option Bytes) : Task Unit :=
  modify fun j =>
    let path := Bytes.toName dir
    match mode.bind fun m => Mode.result? m true j.files.mask 0o777 with
    | some bits => { j with files := (j.files.setMode path bits).toOption.getD j.files }
    | none => j

/-- Makes a directory and those on the way to it; it does not matter what is there
already. -/
def makeAll (tells : Bool) (mode : Option Bytes) (dir : Bytes) : Task Unit := do
  let before := (← get).files
  let isNew (p : Bytes) : Bool := !before.holds (Bytes.toName p)
  let isFile (p : Bytes) : Bool := before.isFilePath (Bytes.toName p)
  let (files, failure) := before.makeDirectories (Bytes.toName dir)
  modify fun j => { j with files := files }
  for made in beginnings dir do
    if tells && isNew made && files.isDirectory (Bytes.toName made) then tellMade made
  match failure with
  | some f =>
    let culprit := if f = .notDirectory then ((beginnings dir).find? isFile).getD dir else dir
    complain ("cannot create directory ".toList ++ Naming.quoted culprit ++ ": ".toList ++ f.reason)
  | none => if isNew dir then setModeOf dir mode

/-- Directories are made one after the other. With `-p` those on the way are made
too. -/
def mkdir : Utility := fun words =>
  let o : Options :=
    { flags := "pvZ", valued := "m", names := [("parents", 'p'), ("mode", 'm'), ("verbose", 'v')] }
  withWords o words fun w => do
    if w.rest = [] then return (← lacksOperand)
    let mode := w.value? 'm'
    if mode.any fun m => (Mode.result? m true 0 0).isNone then
      return (← complain ("invalid mode ".toList ++ shown (mode.getD [])))
    for dir in w.rest do
      if w.has "p" then makeAll (w.has "v") mode dir
      else
        match (← get).files.makeDirectory (Bytes.toName dir) with
        | .ok files =>
          modify fun j => { j with files := files }
          setModeOf dir mode
          if w.has "v" then tellMade dir
        | .error f =>
          complain ("cannot create directory ".toList ++ Naming.quoted dir ++ ": ".toList
            ++ f.reason)

/-- Removes empty directories, with `-p` also those on the way that get empty. -/
def rmdir : Utility := fun words =>
  let o : Options :=
    { flags := "pv/"
      names := [("parents", 'p'), ("verbose", 'v'), ("ignore-fail-on-non-empty", '/')] }
  withWords o words fun w => do
    if w.rest = [] then return (← lacksOperand)
    for dir in w.rest do
      let mut failed := false
      for part in if w.has "p" then (beginnings dir).reverse else [dir] do
        if !failed then
          if w.has "v" then printLine ("rmdir: removing directory, ".toList ++ shown part)
          match (← get).files.removeEmpty (Bytes.toName part) with
          | .ok files => modify fun j => { j with files := files }
          | .error f =>
            failed := true
            let what := if part = dir then "failed to remove ".toList
              else "failed to remove directory ".toList
            if !(w.has "/" && f = .notEmpty) then
              complain (what ++ shown part ++ ": ".toList ++ f.reason)

/-!
## Removing
-/

/-- What a file is called that is asked about. -/
def kindName (e : Entry) : Bytes :=
  match e.content with
  | .directory => "directory".toList
  | .link _ => "symbolic link".toList
  | .device _ => "character special file".toList
  | .file bytes => if bytes.size = 0 then "regular empty file".toList else "regular file".toList

/-- Asks whether an entry is to be removed, if that is to be asked. -/
def mayRemove (w : Words) (verb : String) (kind name : Bytes) : Task Bool := do
  if !w.has "i" then return true
  confirm (verb.toList ++ ' ' :: kind ++ ' ' :: shown name ++ "? ".toList)

/-- Removes an entry with all that is in it. The answer is whether it is gone. The
number bounds how deep directories lie. -/
def removeDeep (w : Words) : Nat → Bytes → Task Bool
  | 0, _ => return false
  | depth + 1, name => do
    let files := (← get).files
    match files.findSelf (Bytes.toName name) with
    | .error _ => return false
    | .ok (place, entry) =>
      if entry.isDirectory && !files.isEmptyAt place then
        if !(← mayRemove w "descend into" "directory".toList name) then return false
        let mut left := false
        for inner in files.namesAt place do
          if !(← removeDeep w depth (Path.join name (Bytes.ofText inner))) then left := true
        if left then return false
      if !(← mayRemove w "remove" (kindName entry) name) then return false
      modify fun j => { j with files := j.files.clear place }
      if w.has "v" then
        let kind := if entry.isDirectory then "directory ".toList else []
        printLine ("removed ".toList ++ kind ++ shown name)
      return true

/-- Removes one entry: with `r` also a directory and all that is in it, with `d`
an empty one. -/
def removeOne (w : Words) (name : Bytes) : Task Unit := do
  let what := "cannot remove ".toList ++ shown name
  let files := (← get).files
  match files.findSelf (Bytes.toName name) with
  | .error f =>
    if w.has "f" && (f = .notFound || f = .notDirectory) then return ()
    else complain (what ++ ": ".toList ++ f.reason)
  | .ok (place, entry) =>
    let isDirectory := entry.isDirectory
    if isDirectory && !w.has "rRd" then
      complain (what ++ ": ".toList ++ Failure.isDirectory.reason)
    else if isDirectory && (FileTree.partsOf name).getLast?.any FileTree.isDots then
      complain ("refusing to remove '.' or '..' directory: skipping ".toList ++ shown name)
    else if place = [] then
      complain "it is dangerous to operate recursively on '/'".toList
      complain "use --no-preserve-root to override this failsafe".toList
    else if isDirectory && !w.has "rR" && !files.isEmptyAt place then
      complain (what ++ ": ".toList ++ Failure.notEmpty.reason)
    else
      let _ ← removeDeep w (files.entries.length + 1) name

def rm : Utility := fun words =>
  let o : Options :=
    { flags := "frRidvI"
      names := [("force", 'f'), ("recursive", 'r'), ("dir", 'd'), ("verbose", 'v'),
        ("interactive", 'i')] }
  withWords o words fun w => do
    if w.rest = [] && !w.has "f" then return (← lacksOperand)
    if w.has "I" && (w.rest.length > 3 || w.has "rR") then
      let many := if w.rest.length = 1 then " argument" else " arguments"
      let question := "remove ".toList ++ Text.ofNat w.rest.length ++ many.toList
        ++ (if w.has "rR" then " recursively? " else "? ").toList
      if !(← confirm question) then return ()
    for name in w.rest do removeOne w name

/-- Removes one file. -/
def unlink : Utility := fun words =>
  withWords {} words fun w => do
    match w.rest with
    | [] => lacksOperand
    | [name] =>
      change ("cannot unlink ".toList ++ shown name) fun files =>
        files.removeFile (Bytes.toName name)
    | _ :: more => hasExtra (more.headD [])

/-!
## Lengths
-/

/-- The length that a file gets by what is asked for, from the one that it has. -/
def newLength? (asked : Bytes) (old : Nat) : Option Nat := do
  let sign := asked.headD ' '
  let n ← Amount.read? (if "+-<>/%".toList.contains sign then asked.drop 1 else asked)
  match sign with
  | '+' => return old + n
  | '-' => return old - n
  | '<' => return min old n
  | '>' => return max old n
  | '/' => if n = 0 then none else return old / n * n
  | '%' => if n = 0 then none else return (old + n - 1) / n * n
  | _ => return n

/-- The bytes of a file cut off or filled up with zeros to a length. -/
def resize (bytes : ByteArray) (length : Nat) : ByteArray :=
  bytes.extract 0 length ++ ⟨Array.replicate (length - bytes.size) 0⟩

/-- Gives files a length. -/
def truncate : Utility := fun words =>
  let o : Options :=
    { flags := "co", valued := "sr"
      names := [("size", 's'), ("no-create", 'c'), ("reference", 'r')] }
  withWords o words fun w => do
    if (w.value? 's').isNone && (w.value? 'r').isNone then
      return (← misuse "you must specify either '--size' or '--reference'".toList)
    let size := (w.value? 's').getD ['+', '0']
    if (newLength? size 0).isNone then
      return (← complain ("Invalid number: ".toList ++ shown size))
    let mut other := none
    if let some reference := w.value? 'r' then
      match (← get).files.find (Bytes.toName reference) with
      | .ok (_, e) => other := some e.size
      | .error f =>
        return (← complainOf ("cannot stat ".toList ++ shown reference) f)
    if w.rest = [] then return (← misuse "missing file operand".toList)
    for name in w.rest do
      let path := Bytes.toName name
      let files := (← get).files
      if !(w.has "c" && !files.holds path) then
        let before := (files.readBytes path).toOption.getD .empty
        let length := (newLength? size (other.getD before.size)).getD 0
        if (files.find path).toOption.any fun f => f.2.isDevice then
          complainOf ("failed to truncate ".toList ++ shown name ++ " at ".toList
            ++ Text.ofNat length ++ " bytes".toList) .invalid
        else
          change ("cannot open ".toList ++ shown name ++ " for writing".toList)
            fun files => files.writeBytes path (resize before length)

/-!
## New names
-/

/-- A template with letters in place of the marks at its end, or before a part that is
kept. -/
def fillTemplate (template suffix : Bytes) (n : Nat) : Bytes :=
  let marks := (template.reverse.takeWhile (· = 'X')).length
  let digits := Nat.toDigits 36 n
  template.take (template.length - marks)
    ++ (List.replicate (marks - digits.length) 'a' ++ digits).drop (digits.length - marks) ++ suffix

/-- Makes a new file or directory, whose name nobody can know before. -/
def mktemp : Utility := fun words =>
  let o : Options :=
    { flags := "duqt", valued := "p/"
      names := [("directory", 'd'), ("dry-run", 'u'), ("quiet", 'q'), ("suffix", '/'),
        ("tmpdir", 'p')] }
  withWords o words fun w => do
    if w.rest.length > 1 then return (← misuse "too many templates".toList)
    let given := w.rest.headD "tmp.XXXXXXXXXX".toList
    let own := (given.reverse.takeWhile (· ≠ 'X')).reverse
    let (template, suffix) := match w.value? '/' with
      | some suffix => (given, suffix)
      | none => (given.take (given.length - own.length), own)
    let marks := (template.reverse.takeWhile (· = 'X')).length
    if marks < 3 then
      return (← complain ("too few X's in template ".toList ++ shown given))
    let job ← get
    let usual := (job.environment.lookup "TMPDIR".toList).getD "/tmp".toList
    let inside := w.rest = [] || w.has "t" || (w.value? 'p').isSome
    let template := if inside then Path.join ((w.value? 'p').getD usual) template else template
    let isFree (n : Nat) : Bool := !job.files.holds (Bytes.toName (fillTemplate template suffix n))
    let number := ((List.range 1296).find? fun n => isFree (n * 7919 + 46656)).getD 0
    let path := fillTemplate template suffix (number * 7919 + 46656)
    let kind := if w.has "d" then "directory" else "file"
    let made := if w.has "u" then .ok job.files
      else if w.has "d" then do
        (← job.files.makeDirectory (Bytes.toName path)).setMode (Bytes.toName path) 0o700
      else do
        (← job.files.writeBytes (Bytes.toName path) .empty).setMode (Bytes.toName path) 0o600
    match made with
    | .ok files =>
      set { job with files := files }
      printLine path
    | .error f =>
      let template := template ++ suffix
      if w.has "q" then leave 1
      else complainOf ("failed to create ".toList ++ kind.toList ++ " via template ".toList
        ++ shown template) f

end Weave.Utility
