import Weave.Utility.Destination

/-!
# Programs about links

Giving files further names, making links to paths, and showing where paths lead.
-/
namespace Weave.Utility

open Job

/-!
## Paths
-/

/-- Goes the steps, where it does not matter whether there is anything on the way. -/
def resolveLoosely (files : FileTree) (place : Place) : List Text → Place
  | [] => place
  | step :: rest =>
    let next := if step = Path.dot then place
      else if step = Path.dotDot then place.dropLast
      else (files.walk true FileTree.maxLinks place [step]).toOption.getD (place ++ [step])
    resolveLoosely files next rest

/-- How much of a path must be there. -/
inductive Presence where
  | all
  /-- All but the last part. -/
  | most
  | none
deriving Repr, DecidableEq

/-- The place that a path leads to through all links. -/
def resolve (files : FileTree) (presence : Presence) (path : Path) : Except Failure Place := do
  FileTree.checkPath path
  match presence with
  | .all => return (← files.find path).1
  | .most =>
    let bare := (path.reverse.dropWhile (· = '/')).reverse
    let bare := if bare = [] then path else bare
    let place ← files.placeOf bare true
    if bare != path && (files.at? place).any fun e => !e.isDirectory then throw .notDirectory
    return place
  | .none => return resolveLoosely files (files.start path) (FileTree.partsOf path)

/-- A place as a path from another one. -/
def relativeTo (base place : Place) : Path :=
  let common := ((base.zip place).takeWhile fun p => p.1 = p.2).length
  let steps := List.replicate (base.length - common) Path.dotDot ++ place.drop common
  if steps = [] then Path.dot else Text.joinWith ['/'] steps

/-- A place as it is printed: from the root, or from where it is asked for. -/
def shownPlace (base : Option Place) (limit : Option Place) (place : Place) : Bytes :=
  Bytes.ofText (match base with
    | some base => if limit.all (·.isPrefixOf place) then relativeTo base place
        else FileTree.pathOf place
    | none => FileTree.pathOf place)

def presenceOf (w : Words) (usual : Presence) : Presence :=
  if w.has "e" then .all else if w.has "m" then .none else if w.has "f" then .most else usual

/-- Prints where paths lead. -/
def realpath : Utility := fun words =>
  let o : Options :=
    { flags := "eEmLPqsz", valued := "/:"
      names := [("canonicalize-existing", 'e'), ("canonicalize-missing", 'm'), ("logical", 'L'),
        ("physical", 'P'), ("quiet", 'q'), ("strip", 's'), ("no-symlinks", 's'), ("zero", 'z'),
        ("relative-to", '/'), ("relative-base", ':')] }
  withWords o words fun w => do
    if w.rest = [] then return (← lacksOperand)
    let files := (← get).files
    let placeOf (path : Bytes) : Option Place :=
      (resolve files .none (Bytes.toName path)).toOption
    let limit := (w.value? ':').bind placeOf
    let base := ((w.value? '/').bind placeOf).or limit
    for name in w.rest do
      let path := Bytes.toName name
      let plain := FileTree.partsOf path
      let stripped : Except Failure Place := .ok (plain.foldl (fun place step =>
        if step = Path.dot then place else if step = Path.dotDot then place.dropLast
        else place ++ [step]) (files.start path))
      let found := if w.has "s" then stripped else resolve files (presenceOf w .most) path
      match found with
      | .ok place =>
        print (shownPlace base limit place ++ [if w.has "z" then '\x00' else '\n'])
      | .error f =>
        if w.has "q" then leave 1
        else complainOf (Naming.bare name) f

/-- Prints where links lead, or paths through all links. -/
def readlink : Utility := fun words =>
  let o : Options :=
    { flags := "efmnqsvz"
      names := [("canonicalize", 'f'), ("canonicalize-existing", 'e'),
        ("canonicalize-missing", 'm'), ("no-newline", 'n'), ("quiet", 'q'), ("silent", 's'),
        ("verbose", 'v'), ("zero", 'z')] }
  withWords o words fun w => do
    if w.rest = [] then return (← lacksOperand)
    let many := w.rest.length > 1
    if many && w.has "n" then
      warn ((← get).name ++ ": ignoring --no-newline with multiple arguments".toList)
    for name in w.rest do
      let files := (← get).files
      let path := Bytes.toName name
      let found : Except Failure Bytes := if w.has "efm" then
          (resolve files (presenceOf w .most) path).map fun place =>
            Bytes.ofText (FileTree.pathOf place)
        else do
          match (← files.findSelf path).2.target? with
          | some target => return Bytes.ofText target
          | none => throw .invalid
      match found with
      | .ok t =>
        let ending := if w.has "z" then ['\x00'] else if w.has "n" && !many then [] else ['\n']
        print (t ++ ending)
      | .error f =>
        if w.has "v" then complainOf (Naming.bare name) f else leave 1

/-!
## Links
-/

/-- Makes one link. -/
def linkOne (w : Words) (source goal : Bytes) : Task Unit := do
  let isPlain := !w.has "s"
  let files := (← get).files
  let (path, target) := (Bytes.toName source, Bytes.toName goal)
  let through := w.has "L"
  let entry := (if through then files.find path else files.findSelf path).map Prod.snd
  let there := (files.findSelf target).toOption
  match entry with
  | .error f =>
    if isPlain then return (← complainOf ("failed to access ".toList ++ shown source) f)
  | .ok e =>
    if isPlain && e.isDirectory then
      return (← complain (source ++ ": hard link not allowed for directory".toList))
  if (there.any fun t => t.2.isDirectory) && w.has "f" then
    return (← complain (goal ++ ": cannot overwrite directory".toList))
  if there.isSome && w.has "i" && !w.has "f" then
    if !(← confirm ("replace ".toList ++ shown goal ++ "? ".toList)) then return (← leave 1)
  if there.isSome && w.has "fi" then
    let isSame := (files.findSelf path).toOption.any fun f =>
      there.any fun t => t.1 = f.1 || FileTree.isSame t.2 f.2
    if isSame then
      return (← complain (shown source ++ " and ".toList ++ shown goal
        ++ " are the same file".toList))
    modify fun j => { j with files := (j.files.removeFile target).toOption.getD j.files }
  if w.has "b" then setAside goal
  let relative := relativeTo
    (resolveLoosely files (files.start target) (FileTree.partsOf target).dropLast)
    (resolveLoosely files (files.start path) (FileTree.partsOf path))
  let leadsTo := if w.has "r" then relative else path
  let files := (← get).files
  let made := if isPlain then files.share path through target else files.makeLink leadsTo target
  match made with
  | .ok files =>
    modify fun j => { j with files := files }
    if w.has "v" then
      let arrow := if isPlain then " => ".toList else " -> ".toList
      printLine (shown goal ++ arrow ++ shown (Bytes.ofText leadsTo))
  | .error f =>
    let what := if isPlain then "failed to create hard link ".toList
      else "failed to create symbolic link ".toList
    let leads := if source = [] then " -> ''".toList
      else if isPlain && f != .exists then " => ".toList ++ shown source else []
    complainOf (what ++ shown goal ++ leads) f

/-- Gives files further names, or makes links to them. -/
def ln : Utility := fun words =>
  let o : Options :=
    { flags := "bdFfinLPrsTv", valued := "tS"
      names := [("symbolic", 's'), ("force", 'f'), ("interactive", 'i'), ("no-dereference", 'n'),
        ("logical", 'L'), ("physical", 'P'), ("relative", 'r'), ("verbose", 'v'), ("backup", 'b')]
        ++ Destination.names }
  withWords o words fun w => do
    if w.has "r" && !w.has "s" then
      return (← complain "cannot do --relative without --symbolic".toList)
    let enters (files : FileTree) (path : Bytes) : Bool :=
      files.isDirectory (Bytes.toName path)
        && !(w.has "n" && (files.findSelf (Bytes.toName path)).toOption.any fun f => f.2.isLink)
    if let some d ← Destination.ofWords? w enters true then
      for source in d.sources do linkOne w source (d.goal source)

end Weave.Utility
