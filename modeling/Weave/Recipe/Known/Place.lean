import Weave.Pattern
import Weave.Recipe.Known.Data
import Weave.Utility.Linking

/-!
# Paths in recipes

Paths are joined and taken apart as texts, and the files tell what they lead to.
-/
namespace Weave.Recipe.Known

/-- Joins paths; a rooted one begins anew. -/
def joinPaths (a b : Text) : Text :=
  if b.head? = some '/' then b
  else if a.isEmpty || a.getLast? = some '/' then a ++ b
  else a ++ '/' :: b

/-- What is before and behind the last slash. -/
def splitPath (p : Text) : Text × Text :=
  let tail := (p.reverse.takeWhile (· ≠ '/')).reverse
  let head := p.take (p.length - tail.length)
  let bare := (head.reverse.dropWhile (· = '/')).reverse
  (if bare.isEmpty then head else bare, tail)

/-- A path with as few steps as can be, where it is read as a text. -/
def plainPath (p : Text) : Text :=
  let isRooted := p.head? = some '/'
  let start := if Text.beginsWith "//".toList p && !Text.beginsWith "///".toList p then "//".toList
    else if isRooted then ['/'] else []
  let steps := (Text.splitOn '/' p).foldl (fun (done : List Text) step =>
    if step.isEmpty || step = Path.dot then done
    else if step = Path.dotDot && !done.isEmpty && done.getLast? ≠ some Path.dotDot then
      done.dropLast
    else if step = Path.dotDot && isRooted then done
    else done ++ [step]) []
  let all := start ++ Text.joinWith ['/'] steps
  if all.isEmpty then Path.dot else all

/-- The name of a file up to its last dot, and what is from there on. -/
def splitSuffix (p : Text) : Text × Text :=
  let name := (splitPath p).2
  let dots := name.takeWhile (· = '.')
  let rest := name.drop dots.length
  if rest.contains '.' then
    let tail := (rest.reverse.takeWhile (· ≠ '.')).reverse
    (p.take (p.length - tail.length - 1), '.' :: tail)
  else (p, [])

/-- A path as an object has it: without steps that do nothing. -/
def pathValue (p : Text) : Value :=
  let start := if p.head? = some '/' then ['/'] else []
  let steps := (Text.splitOn '/' p).filter fun step => !step.isEmpty && step ≠ Path.dot
  let all := start ++ Text.joinWith ['/'] steps
  .path (if all.isEmpty then Path.dot else all)

def currentPath : Step Text := do
  return FileTree.pathOf (← task get).files.here

def absolutePath (p : Text) : Step Text := do
  return plainPath (joinPaths (← currentPath) p)

/-- The path to what a path leads to, through all links. -/
def realPath (p : Text) : Step Text := do
  let files := (← task get).files
  return FileTree.pathOf (Utility.resolveLoosely files (files.start p) (FileTree.partsOf p))

/-- Asks the files about a path. -/
def asksFiles (f : FileTree → Text → Bool) : Known := fun g => do
  return .bool (f (← task get).files (← g.path 0))

def isLinkAt (files : FileTree) (p : Text) : Bool :=
  (files.findSelf p).toOption.any fun e => e.2.isLink

def isFileAt (files : FileTree) (p : Text) : Bool :=
  (files.find p).toOption.any fun e => e.2.isFile

/-- A text that is made of a path. -/
def ofPath (f : Text → Text) : Known := fun g => do return .text (f (← g.path 0))

/-- A path from another one on. -/
def relativePath (p start : Text) : Step Text := do
  let a := FileTree.partsOf (← absolutePath p)
  let b := FileTree.partsOf (← absolutePath start)
  return Utility.relativeTo b a

def expanded (p : Text) : Text :=
  match p with
  | ['~'] => "/root".toList
  | '~' :: '/' :: rest => "/root/".toList ++ rest
  | p => p

def entryAt (v : Value) (p : Text) : Step Entry := do
  match (← task get).files.find p with
  | .ok (_, e) => return e
  | .error f => failOn f v

def seconds (nanoseconds : Int) : Float := Number.quotient nanoseconds 1000000000

def pathFunctions : List (String × Known) :=
  [("os.path.join", fun g => do
     let first ← g.path 0
     let mut p := first
     for i in List.range (g.plain.length - 1) do
       p := joinPaths p (← g.path (i + 1))
     return .text p),
   ("os.path.basename", ofPath fun p => (splitPath p).2),
   ("os.path.dirname", ofPath fun p => (splitPath p).1),
   ("os.path.split", fun g => do
     let (a, b) := splitPath (← g.path 0)
     return .tuple [.text a, .text b]),
   ("os.path.splitext", fun g => do
     let (a, b) := splitSuffix (← g.path 0)
     return .tuple [.text a, .text b]),
   ("os.path.normpath", ofPath plainPath), ("os.path.normcase", ofPath id),
   ("os.path.expanduser", ofPath expanded),
   ("os.path.isabs", fun g => do return .bool ((← g.path 0).head? = some '/')),
   ("os.path.abspath", fun g => do return .text (← absolutePath (← g.path 0))),
   ("os.path.realpath", fun g => do return .text (← realPath (← g.path 0))),
   ("os.path.relpath", fun g => do
     let start ← match g.plain[1]? with
       | some _ => g.path 1
       | none => pure Path.dot
     return .text (← relativePath (← g.path 0) start)),
   ("os.path.exists", asksFiles FileTree.holds), ("os.path.isfile", asksFiles isFileAt),
   ("os.path.isdir", asksFiles FileTree.isDirectory), ("os.path.islink", asksFiles isLinkAt),
   ("os.path.lexists", asksFiles fun files p => (files.findSelf p).toOption.isSome),
   ("os.path.getsize", fun g => do return .int (← entryAt (← g.need 0) (← g.path 0)).size),
   ("os.path.getmtime", fun g => do
     return .float (seconds (← entryAt (← g.need 0) (← g.path 0)).time)),
   ("os.path.samefile", fun g => do
     return .bool ((← realPath (← g.path 0)) = (← realPath (← g.path 1)))),
   ("os.fspath", fun g => do return .text (← g.path 0)),
   ("os.fsencode", fun g => do return .bytes (Bytes.ofText (← g.path 0))),
   ("os.fsdecode", fun g => do return .text (← g.path 0))]

/-- The parts of a path. -/
def pathParts (p : Text) : List Text :=
  (if p.head? = some '/' then [['/']] else []) ++ FileTree.partsOf (if p = Path.dot then [] else p)

def pathName (p : Text) : Text :=
  match (pathParts p).getLast? with
  | some ['/'] => []
  | some name => name
  | none => []

/-- The suffix of a name; a dot at its beginning or end makes none. -/
def nameSuffix (name : Text) : Text :=
  let tail := name.reverse.takeWhile (· ≠ '.')
  if tail.length + 1 < name.length && !tail.isEmpty then '.' :: tail.reverse else []

def nameStem (name : Text) : Text := name.take (name.length - (nameSuffix name).length)

def pathParent (p : Text) : Text :=
  match pathParts p with
  | [] => p
  | [['/']] => p
  | ['/'] :: rest => '/' :: Text.joinWith ['/'] rest.dropLast
  | parts => if parts.length ≤ 1 then Path.dot else Text.joinWith ['/'] parts.dropLast

/-- All paths that a path lies in, the nearest first. -/
def pathParents : Nat → Text → List Text
  | 0, _ => []
  | fuel + 1, p => if pathParent p = p then [] else pathParent p :: pathParents fuel (pathParent p)

/-- What a path has besides its methods. -/
def pathAttribute? (p : Text) (name : String) : Step (Option Value) := do
  match name with
  | "name" => return some (.text (pathName p))
  | "stem" => return some (.text (nameStem (pathName p)))
  | "suffix" => return some (.text (nameSuffix (pathName p)))
  | "suffixes" =>
    let endings := (Text.splitOn '.' (pathName p)).drop 1
    return some (← makeList (endings.map fun s => .text ('.' :: s)))
  | "parent" => return some (.path (pathParent p))
  | "parents" => return some (.tuple ((pathParents 1000 p).map .path))
  | "parts" => return some (.tuple ((pathParts p).map .text))
  | "anchor" => return some (.text (if p.head? = some '/' then ['/'] else []))
  | "root" => return some (.text (if p.head? = some '/' then ['/'] else []))
  | "drive" => return some (.text [])
  | _ => return none

/-- The paths below a directory that fit patterns, one for each step; two stars stand for
any steps. The number bounds how many steps there are. -/
def fitting (files : FileTree) : Nat → Text → List Text → List Text
  | 0, _, _ => []
  | _ + 1, dir, [] => [dir]
  | fuel + 1, dir, step :: steps =>
    let here := if dir.isEmpty then Path.dot else dir
    let names := match files.find here with
      | .ok (place, e) => if e.isDirectory then files.namesAt place else []
      | .error _ => []
    let inner (name : Text) : Text := joinPaths dir name
    let isDir (p : Text) : Bool := files.isDirectory p && !isLinkAt files p
    if step = "**".toList then
      fitting files fuel dir steps
        ++ (names.filter fun n => isDir (inner n)).flatMap fun n =>
          fitting files fuel (inner n) (step :: steps)
    else if Pattern.isMagic (Pattern.marksOf step) then
      let pattern := Pattern.ofMarks (step.map fun c => (c, false))
      let found := names.filter fun n =>
        Pattern.isMatch pattern n && (n.head? ≠ some '.' || step.head? = some '.')
      found.flatMap fun n => fitting files fuel (inner n) steps
    else if files.holds (inner step) || isLinkAt files (inner step) then
      fitting files fuel (inner step) steps
    else []

def stepsOf (pattern : Text) : List Text := FileTree.partsOf pattern

/-- A path that is made of the one of the object. -/
def changesPath (f : Given → Text → Step Text) : Known := fun g => do
  return pathValue (← f g (← g.path 0))

/-- Paths as objects, and their methods. -/
def methodsOf (methods : List (String × Known)) : List (String × Known) :=
  methods.map fun (n, f) => ("PosixPath." ++ n, f)

def pathKindFunctions : List (String × Known) :=
  [("pathlib.Path", fun g => do
     let parts ← (List.range g.plain.length).mapM g.path
     return pathValue (parts.foldl joinPaths [])),
   ("pathlib.Path.cwd", fun _ => do return pathValue (← currentPath)),
   ("pathlib.Path.home", fun _ => return pathValue "/root".toList)]

def pathMethods : List (String × Known) :=
  [("joinpath", changesPath fun g p => do
     let more ← ((List.range g.plain.length).drop 1).mapM g.path
     return more.foldl joinPaths p),
   ("with_suffix", changesPath fun g p => do
     return joinPaths (pathParent p) (nameStem (pathName p) ++ (← g.text 1))),
   ("with_name", changesPath fun g p => do return joinPaths (pathParent p) (← g.text 1)),
   ("with_stem", changesPath fun g p => do
     return joinPaths (pathParent p) ((← g.text 1) ++ nameSuffix (pathName p))),
   ("resolve", changesPath fun _ p => realPath p),
   ("absolute", changesPath fun _ p => do return joinPaths (← currentPath) p),
   ("expanduser", changesPath fun _ p => return expanded p),
   ("as_posix", fun g => do return .text (← g.path 0)),
   ("is_absolute", fun g => do return .bool ((← g.path 0).head? = some '/')),
   ("relative_to", fun g => do
     let p ← g.path 0
     let other := match pathValue (← g.path 1) with
       | .path t => t
       | _ => []
     let rest := (pathParts p).drop (pathParts other).length
     if (pathParts other).isPrefixOf (pathParts p) then return pathValue (Text.joinWith ['/'] rest)
     failWith "ValueError" (Shown.quoted false p ++ " is not in the subpath of ".toList
       ++ Shown.quoted false other)),
   ("exists", asksFiles FileTree.holds), ("is_file", asksFiles isFileAt),
   ("is_dir", asksFiles FileTree.isDirectory), ("is_symlink", asksFiles isLinkAt),
   ("match", fun g => do
     let pattern := Pattern.ofMarks ((← g.text 1).map fun c => (c, false))
     return .bool (Pattern.isMatch pattern (pathName (← g.path 0)))),
   ("iterdir", fun g => do
     let p ← g.path 0
     let files := (← task get).files
     match files.find p with
     | .error f => failOn f (.text p)
     | .ok (place, e) =>
       if !e.isDirectory then failOn .notDirectory (.text p)
       stream ((files.namesAt place).map fun n => pathValue (joinPaths p n))),
   ("glob", fun g => do
     let found := fitting (← task get).files 1000 (← g.path 0) (stepsOf (← g.text 1))
     stream (found.map pathValue)),
   ("rglob", fun g => do
     let found := fitting (← task get).files 1000 (← g.path 0) ("**".toList :: stepsOf (← g.text 1))
     stream (found.map pathValue))]

/-- The paths that fit a pattern. -/
def globbed : Known := fun g => do
  let p ← g.text 0
  let start := if p.head? = some '/' then ['/'] else []
  return .tuple ((fitting (← task get).files 1000 start (stepsOf p)).map .text)

def globFunctions : List (String × Known) :=
  [("glob.glob", fun g => do
     match ← globbed g with
     | .tuple found => makeList found
     | v => return v),
   ("glob.iglob", fun g => do
     match ← globbed g with
     | .tuple found => stream found
     | v => return v)]

example : [plainPath "a/./b/../c".toList, plainPath "/..//x/".toList,
    (splitSuffix "d/.a.b".toList).1,
    (splitPath "/a//b".toList).1].map String.ofList = ["a/c", "/x", "d/.a", "/a"] := by
  decide +kernel

end Weave.Recipe.Known
