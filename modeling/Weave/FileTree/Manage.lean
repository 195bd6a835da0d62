import Weave.FileTree.Update
import Weave.Text.Bytes

/-!
# Single entries of a file tree

What programs do to one entry at a time: making a directory or a link, removing a
file or an empty directory, moving, and setting permissions and times. Each either
does the whole or fails and leaves the tree as it was. A link at the end of a path is
what is removed and moved, but permissions and times are those of what it leads to.
-/
namespace Weave.FileTree

/-- The directory that a path leads into and the name in it. -/
def parentAndName (t : FileTree) (p : Path) : Except Failure (Place × Text) := do
  checkPath p
  let steps := partsOf p
  let parent ← t.walk true maxLinks (t.start p) (steps.dropLast ++ [Path.dot])
  match steps.getLast? with
  | none => .ok ([], Path.dot)
  | some name =>
    if maxNameBytes < byteCount name then .error .nameTooLong else .ok (parent, name)

def isDots (name : Text) : Bool :=
  name = Path.dot || name = Path.dotDot

/-- The place of a path where something new can be made. -/
def newPlace (t : FileTree) (p : Path) : Except Failure Place := do
  let (parent, name) ← t.parentAndName p
  if isDots name || (t.at? (parent ++ [name])).isSome then .error .exists
  else
    match t.refusal? parent .change with
    | some f => .error f
    | none => .ok (parent ++ [name])

def makeDirectory (t : FileTree) (p : Path) : Except Failure FileTree := do
  return t.set (← t.newPlace p) t.newDirectory

/-- Makes a link, whatever it leads to. -/
def makeLink (t : FileTree) (target p : Path) : Except Failure FileTree := do
  if target = [] then throw .notFound
  let place ← t.newPlace p
  if p.getLast? = some '/' then throw .notFound
  return t.set place { Entry.link target with time := t.now }

/-- A number that no file shares. -/
def freshSharing (t : FileTree) : Nat :=
  (t.entries.filterMap fun e => e.2.sharing).foldl max 0 + 1

/-- What a place holds as an entry that can have further names, and its number. -/
def shareable (t : FileTree) (e : Entry) : Entry :=
  { e with sharing := some (e.sharing.getD t.freshSharing) }

/-- Gives what a place holds one more name. -/
def shareAt (t : FileTree) (place new : Place) (e : Entry) : FileTree :=
  (t.set place (t.shareable e)).set new (t.shareable e)

/-- Gives a file one more name. -/
def share (t : FileTree) (source : Path) (through : Bool) (p : Path) :
    Except Failure FileTree := do
  let (place, e) ← t.holding (← t.placeOf source through)
  let new ← t.newPlace p
  if e.isDirectory then throw .notPermitted
  return t.shareAt place new e

/-- How many names what an entry stands for has. -/
def namesOf (t : FileTree) (e : Entry) : Nat :=
  if e.sharing.isNone then 1
  else (t.entries.filter fun other => other.1.head? != some [] && isSame other.2 e).length

def removeFile (t : FileTree) (p : Path) : Except Failure FileTree := do
  let (place, e) ← t.findSelf p
  if e.isDirectory then .error .isDirectory
  else
    match t.removalRefusal? place with
    | some f => .error f
    | none => .ok (t.clear place)

/-- Whether nothing is inside a directory. -/
def isEmptyAt (t : FileTree) (place : Place) : Bool :=
  (t.clearInside place).entries.length = t.entries.length

def removeEmpty (t : FileTree) (p : Path) : Except Failure FileTree := do
  let (place, e) ← t.findSelf p
  if !e.isDirectory then .error .notDirectory
  else if (partsOf p).getLast? = some Path.dot then .error .invalid
  else if t.isEmptyAt place then
    match t.removalRefusal? place with
    | some f => .error f
    | none => .ok (t.clear place)
  else .error .notEmpty

/-- Puts what one place holds, with all inside it, at another place, in place of
what was there. -/
def transplant (t : FileTree) (source target : Place) : FileTree :=
  let moved := t.entries.filterMap fun e =>
    if source.isPrefixOf e.1 then some (target ++ e.1.drop source.length, e.2) else none
  { t with entries := moved ++ (t.clear target).entries }

/-- Moves an entry. A file takes the place of a file, and a directory that of an
empty directory. -/
def rename (t : FileTree) (source target : Path) : Except Failure FileTree := do
  let (old, entry) ← t.findSelf source
  let (parent, name) ← t.parentAndName target
  let goal := parent ++ [name]
  let moved := (t.transplant old goal).clear old
  if let some f := (t.removalRefusal? old).or (t.refusal? parent .change) then throw f
  match t.at? goal with
  | none =>
    if old.isPrefixOf goal then .error .invalid
    else if target.getLast? = some '/' && !entry.isDirectory then .error .notDirectory
    else .ok moved
  | some there =>
    if old = goal || isSame entry there then .ok t
    else if !there.isDirectory then
      if entry.isDirectory then .error .notDirectory else .ok moved
    else if !entry.isDirectory then .error .isDirectory
    else if old.isPrefixOf goal then .error .invalid
    else if t.isEmptyAt goal then .ok moved
    else .error .notEmpty

/-- Makes a directory the one where relative paths begin. -/
def enter (t : FileTree) (p : Path) : Except Failure FileTree := do
  let (place, e) ← t.find p
  if e.isDirectory then return { t with here := place } else throw .notDirectory

def setMode (t : FileTree) (p : Path) (mode : Nat) : Except Failure FileTree := do
  let (place, e) ← t.find p
  if place = [] then return t else return t.replace place { e with mode := mode }

def setTime (t : FileTree) (p : Path) (time : Int) : Except Failure FileTree := do
  let (place, e) ← t.find p
  if place = [] then return t else return t.replace place { e with time := time }

/-- The names in a directory, in the order of their bytes. -/
def namesAt (t : FileTree) (place : Place) : List Text :=
  let names := t.entries.filterMap fun e =>
    if e.1 != [] && e.1.dropLast = place then e.1.getLast? else none
  names.mergeSort fun a b => Bytes.ofText a ≤ Bytes.ofText b

end Weave.FileTree

/-!
## Comparing file trees

What a run has done to the files below the working directory, as far as it can be
seen through their paths: what is new or holds something else, and what is gone. A
link is seen as what it leads to, and one that leads nowhere as an empty file. A file
and a directory at the same path are different.
-/
namespace Weave.FileTree

/-- The relative path of something, and the bytes that can be read there. A directory
has none, and its path ends with a slash. -/
abbrev Sight := Path × Option ByteArray

/-- All that is seen in a directory, whose path is given with its slash. The number
bounds how deep one looks. -/
def sightsIn (t : FileTree) : Nat → Path → List Sight
  | 0, _ => []
  | depth + 1, dir =>
    match t.find (if dir = [] then Path.dot else dir) with
    | .error _ => []
    | .ok (place, _) =>
      (t.namesAt place).flatMap fun name =>
        let path := dir ++ name
        if t.isDirectory path then
          (path ++ ['/'], none) :: t.sightsIn depth (path ++ ['/'])
        else [(path, some ((t.readBytes path).toOption.getD .empty))]

/-- All that is seen below the working directory. -/
def sights (t : FileTree) : List Sight :=
  t.sightsIn maxPathBytes []

def changed (before after : FileTree) : List Sight :=
  let seen := before.sights
  after.sights.filter fun s => seen.lookup s.1 != some s.2

def removed (before after : FileTree) : List Path :=
  let seen := after.sights
  (before.sights.map Prod.fst).filter fun p => (seen.lookup p).isNone

/-- The places that hold something else, with what they hold. -/
def renewed (before after : FileTree) : List (Place × Entry) :=
  after.entries.filter fun e => (before.at? e.1).map Entry.content != some e.2.content

/-- The places that hold nothing any more, with what they held. -/
def vacated (before after : FileTree) : List (Place × Entry) :=
  before.entries.filter fun e => (after.at? e.1).isNone

end Weave.FileTree
