import Weave.Utility.Destination
import Weave.Utility.Mode

/-!
# Programs that move and copy files

A copy is a new file with the bytes of another one and its permissions, as far as they
are granted; where a file is there already, only its bytes change. A directory is
copied with all that is in it, if that is asked for.
-/
namespace Weave.Utility

open Job

def saySame (source goal : Bytes) : Task Unit :=
  complain (shown source ++ " and ".toList ++ shown goal ++ " are the same file".toList)

/-- Whether something that is there already stays as it is. -/
def spares (w : Words) (source goal : Bytes) : Task Bool := do
  let files := (← get).files
  let time (path : Bytes) : Option Int :=
    (files.find (Bytes.toName path)).toOption.map fun f => f.2.time
  if (files.findSelf (Bytes.toName goal)).toOption.isNone then return false
  else if w.has "u" && (time source).any fun s => (time goal).any fun g => s ≤ g then return true
  else if w.has "n" then
    if (← get).name = "mv".toList then complain ("not replacing ".toList ++ shown goal)
    return true
  else if w.has "i" && !w.has "f" then
    if ← confirm ("overwrite ".toList ++ shown goal ++ "? ".toList) then return false
    leave 1
    return true
  else return false

/-!
## Moving
-/

/-- Why an entry cannot be moved to a path. -/
def moveFailure (source goal : Bytes) (f : Failure) : Bytes :=
  if f = .invalid then
    "cannot move ".toList ++ shown source ++ " to a subdirectory of itself, ".toList ++ shown goal
  else if f = .isDirectory || goal = [] then
    "cannot overwrite directory ".toList ++ shown goal ++ " with non-directory".toList
  else if f = .notEmpty then "cannot overwrite ".toList ++ shown goal ++ ": ".toList ++ f.reason
  else
    "cannot move ".toList ++ shown source ++ " to ".toList ++ shown goal ++ ": ".toList ++ f.reason

def moveOne (w : Words) (source goal : Bytes) : Task Unit := do
  let files := (← get).files
  let last := (FileTree.partsOf source).getLast?
  match files.findSelf (Bytes.toName source) with
  | .error f => complain ("cannot stat ".toList ++ shown source ++ ": ".toList ++ f.reason)
  | .ok (place, entry) =>
    let there := (files.findSelf (Bytes.toName goal)).toOption
    let isSame := there.any fun t => t.1 = place || FileTree.isSame t.2 entry
    let leadsBack := isSamePlace files source goal && there.any fun t => !t.2.isLink
    if last.all FileTree.isDots then
      complain (moveFailure source goal .busy)
    else if isSame || leadsBack then saySame source goal
    else if goal.getLast? = some '/' && files.isFilePath goal.dropLast then
      complain ("cannot stat ".toList ++ shown goal ++ ": ".toList ++ Failure.notDirectory.reason)
    else if !(← spares w source goal) then
      if w.has "b" then setAside goal
      match (← get).files.rename (Bytes.toName source) (Bytes.toName goal) with
      | .ok files =>
        modify fun j => { j with files := files }
        if w.has "v" then
          printLine ("renamed ".toList ++ shown source ++ " -> ".toList ++ shown goal)
      | .error f =>
        complain (if f = .notDirectory && entry.isDirectory && there.isSome then
            "cannot overwrite non-directory ".toList ++ shown goal
              ++ " with directory ".toList ++ shown source
          else moveFailure source goal f)

def mv : Utility := fun words =>
  let o : Options :=
    { flags := "finuvTb", valued := "tS"
      names := [("force", 'f'), ("no-clobber", 'n'), ("interactive", 'i'), ("update", 'u'),
        ("verbose", 'v'), ("backup", 'b')] ++ Destination.names }
  withWords o words fun w => do
    if let some d ← Destination.ofWords? w (fun files path => files.isDirectory path) false then
      for source in d.sources do moveOne w source (d.goal source)

/-!
## Copying
-/

/-- Gives a new copy the permissions and, if it keeps them, the time of the other. -/
def finishCopy (keeps isNew : Bool) (entry : Entry) (goal : Bytes) : Task Unit :=
  modify fun j =>
    let mode := if keeps then entry.mode else j.files.granted entry.mode
    let path := Bytes.toName goal
    let files :=
      if isNew || keeps then (j.files.setMode path mode).toOption.getD j.files else j.files
    let files := if keeps then (files.setTime path entry.time).toOption.getD files else files
    { j with files := files }

/-- Copies the bytes of a file over another or to a new one. -/
def copyFile (w : Words) (source goal : Bytes) (entry : Entry) : Task Unit := do
  let isNew := !(← get).files.holds (Bytes.toName goal)
  match ← read source with
  | .error f => complain ("error reading ".toList ++ shown source ++ ": ".toList ++ f.reason)
  | .ok t =>
    if isNew && goal.getLast? = some '/' then
      complain ("cannot create regular file ".toList ++ shown goal ++ ": ".toList
        ++ Failure.notDirectory.reason)
    else
      match ← printToFile goal .write t with
      | none => finishCopy (w.has "pa") isNew entry goal
      | some .noSpace =>
        complain ("error writing ".toList ++ shown goal ++ ": ".toList ++ Failure.noSpace.reason)
      | some f =>
        complain ("cannot create regular file ".toList ++ shown goal ++ ": ".toList ++ f.reason)

/-- Puts a link in place of what is there, but not of a directory. -/
def putLink (goal : Bytes) (target : Path) : Task Unit := do
  let path := Bytes.toName goal
  change ("cannot create symbolic link ".toList ++ shown goal) fun files => do
    let files := (files.removeFile path).toOption.getD files
    files.makeLink target path

/-- Whether a link at the end of a path is copied itself. -/
def keepsLinks (w : Words) : Bool :=
  w.has "Pd" || (w.has "aRr" && !w.has "LH")

/-- Copies an entry that is no directory, if there is no directory at its goal. -/
def copyPlain (w : Words) (source goal : Bytes) (entry : Entry) (there : Option Entry) :
    Task Unit := do
  if there.any Entry.isDirectory then
    complain ("cannot overwrite directory ".toList ++ shown goal ++ " with non-directory".toList)
  else if !(← spares w source goal) then
    if w.has "b" then setAside goal
    if w.has "v" then printLine (shown source ++ " -> ".toList ++ shown goal)
    let isDangling := there.isNone
      && ((← get).files.findSelf (Bytes.toName goal)).toOption.isSome
    match entry.content with
    | .link target => putLink goal target
    | _ =>
      if w.has "s" then putLink goal (Bytes.toName source)
      else if w.has "l" then
        change ("cannot create hard link ".toList ++ shown goal ++ " to ".toList ++ shown source)
          fun files => files.share (Bytes.toName source) true (Bytes.toName goal)
      else if isDangling then
        complain ("not writing through dangling symlink ".toList ++ shown goal)
      else copyFile w source goal entry

/-- Makes the directory for a copy, which the owner may enter in any case. -/
def makeCopyOf (w : Words) (source goal : Bytes) (entry : Entry) : Task Unit := do
  change ("cannot create directory ".toList ++ shown goal) fun files =>
    files.makeDirectory (Bytes.toName goal)
  if (← get).files.isDirectory (Bytes.toName goal) then
    if w.has "v" then printLine (shown source ++ " -> ".toList ++ shown goal)
    finishCopy (w.has "pa") true entry goal

/-- What is copied as a whole, where it goes, and the place where it goes, if that is a
directory. -/
structure Whole where
  source : Bytes
  goal : Bytes
  place : Option Place
deriving Repr, DecidableEq

/-- Copies an entry; a directory with all that is in it, but for the place where the
whole copy goes. The number bounds how deep directories lie. -/
def copyEntry (w : Words) : Nat → Option Whole → Bytes → Bytes → Task Unit
  | 0, _, _, _ => return ()
  | depth + 1, whole, source, goal => do
    let files := (← get).files
    let found := if keepsLinks w then files.findSelf (Bytes.toName source)
      else files.find (Bytes.toName source)
    match found with
    | .error f => complain ("cannot stat ".toList ++ shown source ++ ": ".toList ++ f.reason)
    | .ok (place, entry) =>
      let isAvoided := whole.any fun top => top.place = some place
      let there := if entry.isLink then files.findSelf (Bytes.toName goal)
        else files.find (Bytes.toName goal)
      let top := whole.getD ⟨source, goal, none⟩
      match there with
      | .error .notDirectory =>
        complain ("cannot stat ".toList ++ shown goal ++ ": ".toList ++ Failure.notDirectory.reason)
      | there =>
        let isSame := there.toOption.any fun t => t.1 = place || FileTree.isSame t.2 entry
        if entry.isDirectory && !w.has "aRr" then
          complain ("-r not specified; omitting directory ".toList ++ shown source)
        else if isAvoided || isSame && entry.isDirectory then
          complain ("cannot copy a directory, ".toList ++ shown top.source
            ++ ", into itself, ".toList
            ++ shown top.goal)
        else if isSame then saySame source goal
        else if entry.isDirectory then
          let other := there.toOption.map Prod.snd
          if other.any fun e => !e.isDirectory then
            complain ("cannot overwrite non-directory ".toList ++ shown goal
              ++ " with directory ".toList ++ shown source)
          else
            if other.isNone then makeCopyOf w source goal entry
            let made := ((← get).files.find (Bytes.toName goal)).toOption.map Prod.fst
            let top := whole.getD ⟨source, goal, made⟩
            for name in (← get).files.namesAt place do
              let name := Bytes.ofText name
              copyEntry w depth (some top) (Path.join source name) (Path.join goal name)
        else copyPlain w source goal entry (there.toOption.map Prod.snd)

/-- How deep directories lie at most. -/
def depthOf (files : FileTree) : Nat :=
  (files.entries.map fun e => e.1.length).foldl max 0 + 1

def cp : Utility := fun words =>
  let o : Options :=
    { flags := "aRrpfidLHPnuvTlsbx/", valued := "tS"
      names := [("recursive", 'r'), ("archive", 'a'), ("force", 'f'), ("verbose", 'v'),
        ("no-clobber", 'n'), ("interactive", 'i'), ("update", 'u'), ("dereference", 'L'),
        ("no-dereference", 'P'), ("preserve", 'p'), ("link", 'l'), ("symbolic-link", 's'),
        ("backup", 'b'), ("parents", '/')] ++ Destination.names }
  withWords o words fun w => do
    if let some d ← Destination.ofWords? w (fun files path => files.isDirectory path) false then
      if w.has "n" then
        let what := ": warning: behavior of -n is non-portable and may change in future; "
        warn ((← get).name ++ (what ++ "use --update=none instead").toList)
      for source in d.sources do
        let goal := if w.has "/" then Path.join d.target source else d.goal source
        if w.has "/" then
          if let some way := Path.parent? goal then
            modify fun j => { j with files := (j.files.makeDirectories (Bytes.toName way)).1 }
        copyEntry w (depthOf (← get).files) none source goal

/-!
## Installing
-/

/-- Makes directories with those on their way, and gives them permissions. -/
def installDirectory (w : Words) (mode : Bytes) (dir : Bytes) : Task Unit := do
  let path := Bytes.toName dir
  let before := (← get).files
  match before.find path, before.makeDirectories path with
  | .ok (_, e), _ =>
    if !e.isDirectory then
      return (← complain ("cannot create directory ".toList ++ shown dir ++ ": ".toList
        ++ Failure.exists.reason))
  | .error _, (files, some f) =>
    modify fun j => { j with files := files }
    return (← complain ("cannot create directory ".toList ++ shown dir ++ ": ".toList ++ f.reason))
  | .error _, (files, none) =>
    modify fun j => { j with files := files }
    if w.has "v" then printLine ("install: creating directory ".toList ++ shown dir)
  let bits := (Mode.result? mode true 0 0).getD 0o755
  modify fun j => { j with files := (j.files.setMode path bits).toOption.getD j.files }

/-- Copies a file over another or to a new one, and gives it permissions. -/
def installOne (w : Words) (mode source goal : Bytes) : Task Unit := do
  let files := (← get).files
  match files.find (Bytes.toName source) with
  | .error f => complain ("cannot stat ".toList ++ shown source ++ ": ".toList ++ f.reason)
  | .ok (_, entry) =>
    if entry.isDirectory then complain ("omitting directory ".toList ++ shown source)
    else if isSamePlace files source goal then saySame source goal
    else
      if files.holds (Bytes.toName goal) then
        modify fun j => { j with
          files := (j.files.removeFile (Bytes.toName goal)).toOption.getD j.files }
        if w.has "v" then printLine ("removed ".toList ++ shown goal)
      if w.has "v" then printLine (shown source ++ " -> ".toList ++ shown goal)
      copyFile w source goal entry
      let bits := (Mode.result? mode false 0 0).getD 0o755
      modify fun j => { j with
        files := (j.files.setMode (Bytes.toName goal) bits).toOption.getD j.files }

def install : Utility := fun words =>
  let o : Options :=
    { flags := "bcCdDpsTv", valued := "gmoStZ"
      names := [("directory", 'd'), ("mode", 'm'), ("verbose", 'v'), ("backup", 'b')]
        ++ Destination.names }
  withWords o words fun w => do
    let mode := (w.value? 'm').getD "755".toList
    if (Mode.result? mode false 0 0).isNone then
      return (← complain ("invalid mode ".toList ++ shown mode))
    if w.has "d" then
      if w.rest = [] then misuse "missing file operand".toList
      for dir in w.rest do installDirectory w mode dir
    else
      if w.has "D" then
        let way := (w.value? 't').or (w.rest.getLast?.bind Path.parent?)
        if let some way := way then
          modify fun j => { j with files := (j.files.makeDirectories (Bytes.toName way)).1 }
      if let some d ← Destination.ofWords? w (fun files path => files.isDirectory path) false then
        for source in d.sources do installOne w mode source (d.goal source)

end Weave.Utility
