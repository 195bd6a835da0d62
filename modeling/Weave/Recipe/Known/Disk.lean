import Weave.Recipe.Known.Place

/-!
# Changing files in recipes

Files and directories are made, moved, copied and removed. What the system refuses is told
with the path as it was given.
-/
namespace Weave.Recipe.Known

/-- Changes the files, or fails with the paths in question. -/
def changeFiles (act : FileTree → Except Failure FileTree) (first : Value)
    (second : Value := .none) : Step Unit := do
  match act (← task get).files with
  | .ok files => task (modify fun j => { j with files := files })
  | .error f => failOn f first second

/-- A function that changes what one path leads to. -/
def changesAt (act : Given → Text → FileTree → Except Failure FileTree) : Known := fun g => do
  let p ← g.path 0
  let v ← g.need 0
  changeFiles (act g p) v
  return .none

/-- A function of two paths. -/
def changesBoth (act : Text → Text → FileTree → Except Failure FileTree) : Known := fun g => do
  changeFiles (act (← g.path 0) (← g.path 1)) (← g.need 0) (← g.need 1)
  return .none

def modeOf (g : Given) (i : Nat) : Option Nat :=
  ((g.value? i "mode").bind position?).map Int.toNat

def makeOne (g : Given) (p : Text) (files : FileTree) : Except Failure FileTree := do
  let files ← files.makeDirectory p
  match modeOf g 1 with
  | some mode => files.setMode p (files.granted mode)
  | none => return files

/-- Makes a directory and those that it lies in. -/
def makeDeep (g : Given) (p : Text) (mayBe : Bool) : Step Unit := do
  let files := (← task get).files
  if mayBe && files.isDirectory p then return ()
  match (if files.holds p then (files, some .exists) else files.makeDirectories p) with
  | (files, none) => task (modify fun j => { j with files := files })
  | (files, some f) =>
    task (modify fun j => { j with files := files })
    within (foreignPlace "<frozen os>" 225 "makedirs" "" "") (failOn f (← g.need 0))

/-- Removes all that is in a directory, and itself. -/
def removeDeep (v : Value) (p : Text) : Step Unit := do
  let files := (← task get).files
  match files.findSelf p with
  | .error f => failOn f v
  | .ok (_, e) =>
    if e.isLink then
      raise (← makeFault "OSError" [.text "Cannot call rmtree on a symbolic link".toList] [])
    if !e.isDirectory then failOn .notDirectory v
    match files.removeTree p with
    | (files, none) => task (modify fun j => { j with files := files })
    | (files, some f) =>
      task (modify fun j => { j with files := files })
      failOn f v

/-- The names in a directory. -/
def namesIn (v : Value) (p : Text) : Step (List Text) := do
  let files := (← task get).files
  match files.find p with
  | .error f => failOn f v
  | .ok (place, e) =>
    if !e.isDirectory then failOn .notDirectory v
    return files.namesAt place

def listed : Known := fun g => do
  match g.plain with
  | [] => makeList ((← namesIn .none Path.dot).map .text)
  | v :: _ => makeList ((← namesIn v (← g.path 0)).map .text)

/-- What is known of what a path leads to. -/
def statusAt (g : Given) (follows : Bool) : Step Value := do
  let p ← g.path 0
  let files := (← task get).files
  match if follows then files.find p else files.findSelf p with
  | .error f => failOn f (← g.need 0)
  | .ok (_, e) =>
    let kind : Nat := if e.isDirectory then 0o040000 else if e.isLink then 0o120000
      else if e.isDevice then 0o020000 else 0o100000
    make (.instance' (faultNumber "os.stat_result")
      [("st_mode", .int (kind + e.mode)), ("st_size", .int e.size), ("st_uid", .int 0),
       ("st_gid", .int 0), ("st_nlink", .int (files.namesOf e)),
       ("st_mtime", .float (seconds e.time)), ("st_atime", .float (seconds e.time)),
       ("st_ctime", .float (seconds e.time)), ("st_mtime_ns", .int e.time)])

/-- The directories below one, each with the names of those and of the files in it. -/
def walked (files : FileTree) : Nat → Text → List (Text × List Text × List Text)
  | 0, _ => []
  | fuel + 1, dir =>
    let names := match files.find dir with
      | .ok (place, e) => if e.isDirectory then files.namesAt place else []
      | .error _ => []
    let (dirs, others) := names.partition fun n => files.isDirectory (joinPaths dir n)
    if files.isDirectory dir then
      let deeper := dirs.filter fun n => !isLinkAt files (joinPaths dir n)
      (dir, dirs, others) :: deeper.flatMap fun n =>
        walked files fuel (joinPaths dir n)
    else []

def diskFunctions : List (String × Known) :=
  [("os.getcwd", fun _ => do return .text (← currentPath)),
   ("os.chdir", changesAt fun _ p files => files.enter p),
   ("os.mkdir", changesAt makeOne),
   ("os.makedirs", fun g => do
     makeDeep g (← g.path 0) (← g.isSet 2 "exist_ok" false)
     return .none),
   ("os.remove", changesAt fun _ p files => files.removeFile p),
   ("os.unlink", changesAt fun _ p files => files.removeFile p),
   ("os.rmdir", changesAt fun _ p files => files.removeEmpty p),
   ("os.rename", changesBoth fun a b files => files.rename a b),
   ("os.replace", changesBoth fun a b files => files.rename a b),
   ("os.symlink", changesBoth fun a b files => files.makeLink a b),
   ("os.link", changesBoth fun a b files => files.share a false b),
   ("os.chmod", changesAt fun g p files => files.setMode p ((modeOf g 1).getD 0o644)),
   ("os.readlink", fun g => do
     match (← task get).files.findSelf (← g.path 0) with
     | .error f => failOn f (← g.need 0)
     | .ok (_, e) =>
       match e.target? with
       | some target => return .text target
       | none => failOn .invalid (← g.need 0)),
   ("os.utime", changesAt fun _ p files => files.setTime p files.now),
   ("os.access", fun g => do
     let p ← g.path 0
     let files := (← task get).files
     return .bool ((files.find p).toOption.any fun e =>
       ((g.plain[1]?).bind position?).all fun m => m ≠ 1 || e.2.isDirectory || e.2.isRunnable)),
   ("os.truncate", fun g => do
     let p ← g.path 0
     let n := (← g.int 1).toNat
     changeFiles (fun files => do
       let bytes ← files.readBytes p
       files.writeBytes p (bytes.extract 0 n ++ ⟨Array.replicate (n - bytes.size) 0⟩)) (← g.need 0)
     return .none),
   ("os.listdir", listed), ("os.stat", (statusAt · true)), ("os.lstat", (statusAt · false)),
   ("os.walk", fun g => do
     let found := walked (← task get).files 1000 (← g.path 0)
     stream (← found.mapM fun (dir, dirs, others) => do
       return .tuple [.text dir, ← makeList (dirs.map .text), ← makeList (others.map .text)])),
   ("os.umask", fun g => do
     let old := (← task get).files.mask
     let new := (← g.int 0).toNat % 512
     task (modify fun j => { j with files := { j.files with mask := new } })
     return .int old)]

/-- Where files are copied outside of recipes. -/
def copyPlace (line : Nat) (function source part : String) : List String :=
  foreignPlace "/usr/lib/python3.12/shutil.py" line function source part

/-- Copies the content of a file. -/
def copyContent (first second : Value) (a b : Text) : Step Unit :=
  within (copyPlace 260 "copyfile" "with open(src, 'rb') as fsrc:" "open(src, 'rb')") do
    let job ← task get
    if job.files.isDirectory a then failOn .isDirectory first
    match job.toHost.readPath job.channels a with
    | .error f => failOn f first
    | .ok (t, host) =>
      task (set { job with toHost := host })
      changeFiles (fun files => files.writeBytes b (Bytes.toArray t)) second

/-- The path in a directory that gets the name of another one. -/
def goalIn (files : FileTree) (a b : Text) : Text :=
  if files.isDirectory b then joinPaths b (splitPath a).2 else b

def copied (keepsMode : Bool) : Known := fun g => do
  let a ← g.path 0
  let given ← g.path 1
  let files := (← task get).files
  let b := if keepsMode then goalIn files a given else given
  let asked ← g.need 1
  let second : Value := if b = given then asked else .text b
  copyContent (← g.need 0) second a b
  if keepsMode then
    let mode := ((← task get).files.find a).toOption.map fun e => e.2.mode
    changeFiles (fun files => files.setMode b (mode.getD 0o644)) second
  return second

/-- Copies all that is in a directory. -/
def copyDeep (a b : Text) (mayBe : Bool) : Step Unit := do
  let files := (← task get).files
  match files.find a with
  | .error f => failOn f (.text a)
  | .ok (place, e) =>
    if !e.isDirectory then failOn .notDirectory (.text a)
    if files.holds b && !mayBe then failOn .exists (.text b)
    match files.makeDirectories b with
    | (_, some f) => failOn f (.text b)
    | (made, none) =>
      match made.find b with
      | .error f => failOn f (.text b)
      | .ok (goal, _) =>
        let inside := files.entries.filterMap fun e =>
          if place.isPrefixOf e.1 && e.1 ≠ place then some (goal ++ e.1.drop place.length, e.2)
          else none
        let all := inside.foldl (fun t e => t.set e.1 { e.2 with sharing := none }) made
        task (modify fun j => { j with files := all })

def copyFunctions : List (String × Known) :=
  [("shutil.copy", fun g =>
     within (copyPlace 435 "copy" "copyfile(src, dst, follow_symlinks=follow_symlinks)" "")
       (copied true g)),
   ("shutil.copy2", fun g =>
     within (copyPlace 475 "copy2" "copyfile(src, dst, follow_symlinks=follow_symlinks)" "")
       (copied true g)),
   ("shutil.copyfile", copied false),
   ("shutil.copytree", fun g => do
     copyDeep (← g.path 0) (← g.path 1) (← g.isSet 7 "dirs_exist_ok" false)
     return ← g.need 1),
   ("shutil.move", fun g => do
     let a ← g.path 0
     let b := goalIn (← task get).files a (← g.path 1)
     changeFiles (fun files => files.rename a b) (← g.need 0)
     return .text b),
   ("shutil.rmtree", fun g => do
     let ignores ← g.isSet 1 "ignore_errors" false
     let p ← g.path 0
     if ignores && !(← task get).files.isDirectory p then return .none
     removeDeep (← g.need 0) p
     return .none),
   ("shutil.which", fun g => do
     let name ← g.path 0
     let job ← task get
     let dirs := Text.splitOn ':' ((job.environment.lookup "PATH".toList).getD [])
     let paths := if name.contains '/' then [name] else dirs.map fun dir => joinPaths dir name
     let runs (p : Text) : Bool :=
       (job.files.find p).toOption.any fun e => e.2.isFile && e.2.isRunnable
     return ((paths.find? runs).map .text).getD .none)]

/-- Where paths are opened outside of recipes. -/
def openPlace (line : Nat) (function source part : String) : List String :=
  foreignPlace "/usr/lib/python3.12/pathlib.py" line function source part
    ++ foreignPlace "/usr/lib/python3.12/pathlib.py" 1015 "open"
      "return io.open(self, mode, buffering, encoding, errors, newline)"
      "io.open(self, mode, buffering, encoding, errors, newline)"

/-- Opens the path of an object, does something with the file and closes it. -/
def withFile (g : Given) (mode : String) (act : OpenFile → Step Value) : Step Value := do
  let p ← g.path 0
  match ← OpenFile.opened (.text p) p mode.toList with
  | .object n =>
    let r ← act (← fileOf n)
    (← fileOf n).close n
    return r
  | v => return v

def pathDiskMethods : List (String × Known) :=
  [("read_text", fun g =>
     within (openPlace 1029 "read_text"
       "with self.open(mode='r', encoding=encoding, errors=errors) as f:"
       "self.open(mode='r', encoding=encoding, errors=errors)") (withFile g "r" (·.takeAll))),
   ("read_bytes", fun g =>
     within (openPlace 1020 "read_bytes" "with self.open(mode='rb') as f:" "self.open(mode='rb')")
       (withFile g "rb" (·.takeAll))),
   ("write_text", fun g =>
     within (openPlace 1049 "write_text"
       "with self.open(mode='w', encoding=encoding, errors=errors, newline=newline) as f:"
       "self.open(mode='w', encoding=encoding, errors=errors, newline=newline)") do
       let v ← g.need 1
       withFile g "w" (·.write v)),
   ("write_bytes", fun g =>
     let place :=
       openPlace 1036 "write_bytes" "with self.open(mode='wb') as f:" "self.open(mode='wb')"
     within place do
       let v ← g.need 1
       withFile g "wb" (·.write v)),
   ("open", fun g =>
     within (foreignPlace "/usr/lib/python3.12/pathlib.py" 1015 "open"
       "return io.open(self, mode, buffering, encoding, errors, newline)"
       "io.open(self, mode, buffering, encoding, errors, newline)") do
       let mode := match g.value 1 "mode" with
         | .text m => m
         | _ => ['r']
       OpenFile.opened (.text (← g.path 0)) (← g.path 0) mode),
   ("touch", fun g => do
     let p ← g.path 0
     changeFiles (fun files => if files.holds p then files.setTime p files.now
       else files.writeBytes p .empty) (.text p)
     return .none),
   ("mkdir", fun g => do
     let p ← g.path 0
     let mayBe ← g.isSet 3 "exist_ok" false
     let v : Value := .text p
     if ← g.isSet 2 "parents" false then
       let files := (← task get).files
       if files.holds p then
         if !(mayBe && files.isDirectory p) then failOn .exists v
         return .none
       match files.makeDirectories p with
       | (files, none) => task (modify fun j => { j with files := files })
       | (_, some f) => failOn f v
       return .none
     let files := (← task get).files
     if mayBe && files.isDirectory p then return .none
     within (foreignPlace "/usr/lib/python3.12/pathlib.py" 1311 "mkdir" "os.mkdir(self, mode)" "")
       (changeFiles (makeOne g p) v)
     return .none),
   ("rmdir", fun g => do
     let p ← g.path 0
     within (foreignPlace "/usr/lib/python3.12/pathlib.py" 1351 "rmdir" "os.rmdir(self)" "")
       (changeFiles (fun files => files.removeEmpty p) (.text p))
     return .none),
   ("unlink", fun g => do
     let p ← g.path 0
     if (← g.isSet 1 "missing_ok" false) && !(← task get).files.holds p then return .none
     within (foreignPlace "/usr/lib/python3.12/pathlib.py" 1342 "unlink" "os.unlink(self)" "")
       (changeFiles (fun files => files.removeFile p) (.text p))
     return .none),
   ("rename", fun g => do
     let a ← g.path 0
     let b ← g.path 1
     changeFiles (fun files => files.rename a b) (.text a) (.text b)
     return pathValue b),
   ("replace", fun g => do
     let a ← g.path 0
     let b ← g.path 1
     changeFiles (fun files => files.rename a b) (.text a) (.text b)
     return pathValue b),
   ("symlink_to", fun g => do
     let a ← g.path 0
     let target ← g.path 1
     changeFiles (fun files => files.makeLink target a) (.text target) (.text a)
     return .none),
   ("readlink", fun g => do
     match ((← task get).files.findSelf (← g.path 0)).toOption.bind fun e => e.2.target? with
     | some target => return pathValue target
     | none => failOn .invalid (.text (← g.path 0))),
   ("chmod", changesAt fun g p files => files.setMode p ((modeOf g 1).getD 0o644)),
   ("stat", (statusAt · true)), ("lstat", (statusAt · false))]

end Weave.Recipe.Known
