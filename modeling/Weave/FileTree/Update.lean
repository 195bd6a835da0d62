import Weave.FileTree.Basic

/-!
# Changing a file tree

Writing replaces the whole content of one file or creates it; removing takes a
directory with all that is in it. Writing that fails leaves the tree as it was, and how
full a disk is makes no difference to that; making and removing directories may
get a part of the way. What the program is kept from it does not do.
-/
namespace Weave.FileTree

/-- Sets what one place holds. -/
def set (t : FileTree) (place : Place) (entry : Entry) : FileTree :=
  { t with entries := (place, entry) :: t.entries.filter fun e => e.1 != place }

/-- Whether two entries are the same file under two names. Then they agree in all. -/
def isSame (a b : Entry) : Bool :=
  a.sharing.isSome && a = b

/-- Gives what a place holds another form; so it has under all its names. -/
def replace (t : FileTree) (place : Place) (entry : Entry) : FileTree :=
  let renewed := match t.at? place with
    | some old => t.entries.map fun e => if isSame e.2 old then (e.1, entry) else e
    | none => t.entries
  { t with entries := renewed }.set place entry

/-- Empties every place inside a directory. -/
def clearInside (t : FileTree) (place : Place) : FileTree :=
  { t with entries := t.entries.filter fun e => !(place.isPrefixOf e.1 && e.1 != place) }

/-- Empties a place and every place inside it. -/
def clear (t : FileTree) (place : Place) : FileTree :=
  { t with entries := t.entries.filter fun e => !place.isPrefixOf e.1 }

/-- The parts of a path on the way to a file that is to be written. A slash at the end
asks for a directory, in which no file is named. -/
def stepsToWrite (p : Path) : List Text :=
  if p.getLast? = some '/' then (partsOf p).dropLast ++ [Path.dot] else partsOf p

/-- Whether the last of the steps can be the name of a file. -/
def endInName (steps : List Text) : Bool :=
  match steps.getLast? with
  | none => false
  | some name => !(name = Path.dot || name = Path.dotDot)

/-- Goes on from a place to that of a file that is to be written, through so many links
at most, of which the last may lead to a place that holds nothing. -/
def walkToWrite (t : FileTree) : Nat → Place → List Text → Except Failure Place
  | links, place, steps => do
    match ← t.advance true place steps with
    | .arrived place => if endInName steps then return place else throw .isDirectory
    | .turned dir target rest =>
      match links with
      | 0 => throw .tooManySteps
      | links + 1 =>
        let way := if rest = [] then stepsToWrite target else waySteps target
        t.walkToWrite links (base dir target) (way ++ rest)

/-- The place of a file that is to be written. -/
def placeToWrite (t : FileTree) (p : Path) : Except Failure Place := do
  checkPath p
  t.walkToWrite maxLinks (t.start p) (stepsToWrite p)

/-- The permissions among those asked for that something new gets. -/
def granted (t : FileTree) (mode : Nat) : Nat :=
  mode - (mode &&& t.mask)

/-- A file that is new. -/
def newFile (t : FileTree) (bytes : ByteArray) : Entry where
  content := .file bytes
  mode := t.granted 0o666
  time := t.now

def newDirectory (t : FileTree) : Entry where
  content := .directory
  mode := t.granted 0o777
  time := t.now

/-- What keeps the program from writing at a place, whatever it writes. A new file needs a
name in its directory. -/
def writeRefusal? (t : FileTree) (place : Place) : Option Failure :=
  if (t.at? place).isSome then t.refusal? place .write
  else (t.refusal? place.dropLast .change).or (t.refusal? place .write)

/-- Makes bytes the content of the file at a place, or adds them to it, or makes a
new file of them. A file that is there keeps its permissions. -/
def fill (t : FileTree) (place : Place) (adding : Bool) (bytes : ByteArray) :
    Except Failure FileTree :=
  match t.writeRefusal? place with
  | some f => .error f
  | none =>
    match t.at? place with
    | none => .ok (t.set place (t.newFile bytes))
    | some e =>
      match e.content with
      | .file before =>
        let content := Content.file (if adding then before ++ bytes else bytes)
        .ok (t.replace place { e with content := content, time := t.now })
      | .device d =>
        match d.refusal? bytes with
        | some f => .error f
        | none => .ok t
      | .directory => .error .isDirectory
      | .link _ => .error .tooManySteps

/-- Makes the bytes the whole content of a file. -/
def writeBytes (t : FileTree) (p : Path) (bytes : ByteArray) : Except Failure FileTree := do
  t.fill (← t.placeToWrite p) false bytes

/-- Adds bytes to the end of a file, or makes it of them. -/
def appendBytes (t : FileTree) (p : Path) (bytes : ByteArray) : Except Failure FileTree := do
  t.fill (← t.placeToWrite p) true bytes

def writeText (t : FileTree) (p : Path) (text : Text) : Except Failure FileTree :=
  t.writeBytes p (bytesOfText text)

/-- What keeps the program from removing what is at a place, whatever is inside it. -/
def removalRefusal? (t : FileTree) (place : Place) : Option Failure :=
  (t.refusal? place.dropLast .change).or (t.refusal? place .remove)

/-- The places of what is directly in a directory. -/
def placesIn (t : FileTree) (place : Place) : List Place :=
  (t.entries.map Prod.fst).filter fun q => q != [] && q.dropLast = place

/-- What keeps the program from going through all that is in a directory, which begins with
opening it. -/
def openRefusal? (t : FileTree) (place : Place) : Option Failure :=
  (t.refusal? place .read).or (if t.placesIn place = [] then none else t.refusal? place .search)

/-- One step of removing: a place that goes, or why nothing does. -/
def removing (t : FileTree) (place : Place) : Except Failure Place :=
  match t.removalRefusal? place with
  | some f => .error f
  | none => .ok place

/-- The steps of emptying a directory, one name after the other and each behind all that is
inside it. The number bounds how deep one goes. -/
def emptying (t : FileTree) : Nat → Place → List (Except Failure Place)
  | 0, _ => []
  | depth + 1, place =>
    match t.openRefusal? place with
    | some f => [.error f]
    | none => (t.placesIn place).flatMap fun q =>
      (if (t.at? q).any Entry.isDirectory then t.emptying depth q else []) ++ [t.removing q]

/-- How deep anything is in the tree. -/
def depth (t : FileTree) : Nat :=
  t.entries.foldr (fun e n => max e.1.length n) 0

/-- Empties a place, and no place inside it. -/
def erase (t : FileTree) (place : Place) : FileTree :=
  { t with entries := t.entries.filter fun e => e.1 != place }

/-- Goes steps of removing up to the first that is refused. -/
def goRemoving (t : FileTree) : List (Except Failure Place) → FileTree × Option Failure
  | [] => (t, none)
  | .ok place :: rest => (t.erase place).goRemoving rest
  | .error f :: _ => (t, some f)

/-- Removes an empty directory by its path as it is written. A path that ends in dots names
it from inside, and one that ends in a slash behind a link does not name it at all, so then it
stays; that is a failure unless the way itself has gone with what was inside. -/
def removeEmptied (t : FileTree) (p : Path) (place : Place) : FileTree × Option Failure :=
  match (partsOf p).getLast? with
  | none => (t, some .busy)
  | some name =>
    if name = Path.dot || name = Path.dotDot then
      match t.walk true maxLinks (t.start p) ((partsOf p).dropLast ++ [Path.dot]) with
      | .error _ => (t, none)
      | .ok _ => (t, some (if name = Path.dot then .invalid else .notEmpty))
    else
      match t.walk false maxLinks (t.start p) (partsOf p) with
      | .error _ => (t, none)
      | .ok named =>
        if named = place then
          match t.removalRefusal? place with
          | some f => (t, some f)
          | none => (t.clear place, none)
        else (t, some .notDirectory)

/-- Removes what is in a directory and then the directory, or less if that is refused. -/
def removeDirectory (t : FileTree) (p : Path) (place : Place) : FileTree × Option Failure :=
  match t.goRemoving (t.emptying (t.depth + 1) place) with
  | (left, some f) => (left, some f)
  | (_, none) => (t.clearInside place).removeEmptied p place

/-- Removes a directory and all that is in it. Of a link only itself is removed. -/
def removeTree (t : FileTree) (p : Path) : FileTree × Option Failure :=
  match t.findSelf p with
  | .error f => (t, some f)
  | .ok (place, e) =>
    match e.content with
    | .link _ =>
      match t.removalRefusal? place with
      | some f => (t, some f)
      | none => (t.clear place, none)
    | .directory => t.removeDirectory p place
    | _ => (t, some .notDirectory)

/-- Goes the steps and makes a directory wherever one is missing. What is made
before a failure stays. -/
def makeWay (t : FileTree) (place : Place) : List Text → FileTree × Option Failure
  | [] => (t, none)
  | step :: rest =>
    if step = Path.dot then t.makeWay place rest
    else if step = Path.dotDot then t.makeWay place.dropLast rest
    else if maxNameBytes < byteCount step then (t, some .nameTooLong)
    else
      match t.at? (place ++ [step]) with
      | none =>
        match t.refusal? place .change with
        | some f => (t, some f)
        | none => (t.set (place ++ [step]) t.newDirectory).makeWay (place ++ [step]) rest
      | some _ =>
        match t.walk true maxLinks place [step, Path.dot] with
        | .ok inner => t.makeWay inner rest
        | .error f => (t, some (if rest = [] || f = .notFound then .exists else f))

/-- Makes a directory and those on its way. -/
def makeDirectories (t : FileTree) (p : Path) : FileTree × Option Failure :=
  match checkPath p with
  | .error f => (t, some f)
  | .ok () => t.makeWay (t.start p) (partsOf p)

/-- Puts a file in place together with the directories on its way. -/
def install (t : FileTree) (p : Path) (bytes : ByteArray) (runnable : Bool) :
    Except Failure FileTree := do
  let t ← match p.parent? with
    | none => .ok t
    | some [] => .ok t
    | some dir => match t.makeDirectories dir with
      | (t, none) => .ok t
      | (_, some f) => .error f
  let place ← t.placeToWrite p
  let t ← t.fill place false bytes
  match t.at? place with
  | some e => return if runnable then t.replace place { e with mode := 0o755 } else t
  | none => return t

@[simp]
theorem here_set (t : FileTree) (place : Place) (entry : Entry) :
    (t.set place entry).here = t.here := rfl

theorem lookup_filter (keep : Place → Bool) (entries : List (Place × Entry)) (q : Place) :
    (entries.filter fun e => keep e.1).lookup q = if keep q then entries.lookup q else none := by
  induction entries with
  | nil => simp
  | cons e rest ih =>
    obtain ⟨k, v⟩ := e
    by_cases hq : q = k
    · subst hq
      cases hk : keep q <;> simp [hk, ih]
    · cases hk : keep k <;> simp [hk, ih, List.lookup_cons, beq_eq_false_iff_ne.2 hq]

/-- Only the place that is set changes. -/
theorem at?_set {t : FileTree} {place : Place} (entry : Entry) (q : Place) (h : place ≠ []) :
    (t.set place entry).at? q = if q = place then some entry else t.at? q := by
  unfold at? set
  by_cases hq : q = place
  · subst hq
    simp [h]
  · simp [hq, List.lookup_cons, beq_eq_false_iff_ne.2 hq, lookup_filter (· != place)]

end Weave.FileTree
