import Weave.FileTree.Entry

/-!
# File trees

What the program can see of a file system: which place holds what, and where
relative paths begin. A place is the list of names on the way from the root.
Finding the place of a path goes through it part by part and fails at the first
part that is missing or no directory. A link on the way is followed to where it
leads; a path may go through so many of them and no more.

The system may keep the program from going on, reading, writing or removing at a
place, because the program has no right to it or for some other reason. A tree lists
these refusals. They stay as they are as long as only the program works on the files.
-/
namespace Weave

/-- The names on the way from the root. -/
abbrev Place := List Text

/-- What a program does at a place. -/
inductive Access where
  /-- It goes on from a directory. -/
  | search
  /-- It reads a file, or the names in a directory. -/
  | read
  /-- It writes to a file, which may be new. -/
  | write
  /-- It makes names in a directory or removes them. -/
  | change
  /-- It removes what is there. -/
  | remove
deriving Repr, DecidableEq

structure FileTree where
  entries : List (Place × Entry)
  /-- The working directory. -/
  here : Place
  /-- The permissions that nothing new gets. -/
  mask : Nat := 0o022
  /-- The time, in nanoseconds. -/
  now : Int := 0
  /-- What the program is kept from, and why. -/
  refusals : List ((Place × Access) × Failure) := []
deriving DecidableEq

namespace FileTree

/-- What a place holds, if anything. The root is always a directory. -/
def at? (t : FileTree) (place : Place) : Option Entry :=
  if place = [] then some .directory else t.entries.lookup place

/-- What keeps the program from something at a place. -/
def refusal? (t : FileTree) (place : Place) (access : Access) : Option Failure :=
  t.refusals.lookup (place, access)

/-- The path of a place. -/
def pathOf (place : Place) : Path :=
  '/' :: Text.joinWith ['/'] place

/-- The number of bytes of a path or a name. -/
def byteCount (p : Path) : Nat :=
  (Bytes.ofText p).length

def maxNameBytes : Nat := 255

def maxPathBytes : Nat := 4095

/-- How many links a path may go through. -/
def maxLinks : Nat := 40

/-- The parts of a path between its slashes, dots included. -/
def partsOf (p : Path) : List Text :=
  (Text.splitOn '/' p).filter fun part => !part.isEmpty

/-- The step that asks for a directory and goes nowhere. -/
def slashStep : Text := []

/-- The parts of a path on the way to its place. A slash at the end asks for a
directory; so does a dot, which also searches it. -/
def waySteps (p : Path) : List Text :=
  if p.getLast? = some '/' then partsOf p ++ [slashStep] else partsOf p

/-- Where going on from a place comes to. -/
inductive Halt where
  | arrived (place : Place)
  /-- A link in a directory leads elsewhere, from where the steps go on. -/
  | turned (dir : Place) (target : Path) (steps : List Text)
deriving Repr, DecidableEq

/-- Why no step can be taken from a place, if none can. -/
def stepFault? (t : FileTree) (place : Place) (step : Text) : Option Failure :=
  match t.at? place with
  | none => some .notFound
  | some e =>
    if !e.isDirectory then some .notDirectory
    else if step = slashStep then none
    else t.refusal? place .search

/-- Goes on from a place up to the end or to a link. Each step needs a directory to
start from. A link at the end is followed only if `through` says so. -/
def advance (t : FileTree) (through : Bool) (place : Place) : List Text → Except Failure Halt
  | [] => .ok (.arrived place)
  | step :: rest =>
    match t.stepFault? place step with
    | some f => .error f
    | none =>
      if step = slashStep || step = Path.dot then t.advance through place rest
      else if step = Path.dotDot then t.advance through place.dropLast rest
      else if maxNameBytes < byteCount step then .error .nameTooLong
      else
        match (t.at? (place ++ [step])).bind Entry.target? with
        | some target =>
          if rest = [] && !through then .ok (.arrived (place ++ [step]))
          else .ok (.turned place target rest)
        | none => t.advance through (place ++ [step]) rest

/-- A step that can be taken. -/
theorem advance_cons {t : FileTree} {place : Place} {step : Text}
    (h : t.stepFault? place step = none) (through : Bool) (rest : List Text) :
    t.advance through place (step :: rest) =
      if step = slashStep || step = Path.dot then t.advance through place rest
      else if step = Path.dotDot then t.advance through place.dropLast rest
      else if maxNameBytes < byteCount step then .error .nameTooLong
      else
        match (t.at? (place ++ [step])).bind Entry.target? with
        | some target =>
          if rest = [] && !through then .ok (.arrived (place ++ [step]))
          else .ok (.turned place target rest)
        | none => t.advance through (place ++ [step]) rest := by
  rw [advance, h]

/-- Where a path begins that is met in a directory. -/
def base (dir : Place) (p : Path) : Place :=
  if p.isRooted then [] else dir

/-- Goes on from a place to the end, through so many links at most. -/
def walk (t : FileTree) (through : Bool) : Nat → Place → List Text → Except Failure Place
  | links, place, steps => do
    match ← t.advance through place steps with
    | .arrived place => return place
    | .turned dir target rest =>
      match links with
      | 0 => throw .tooManySteps
      | links + 1 => t.walk through links (base dir target) (waySteps target ++ rest)

/-- Refuses what cannot be the text of a path. -/
def checkPath (p : Path) : Except Failure Unit :=
  if p.holdsNul then .error .nameHoldsNul
  else if p = [] then .error .notFound
  else if maxPathBytes < byteCount p then .error .nameTooLong
  else .ok ()

def start (t : FileTree) (p : Path) : Place :=
  base t.here p

/-- The place that a path leads to, whether or not it holds anything. A link at the
end of the path is followed, or it is the place itself. -/
def placeOf (t : FileTree) (p : Path) (through : Bool) : Except Failure Place := do
  checkPath p
  t.walk through maxLinks (t.start p) (waySteps p)

/-- A place and what it holds. -/
def holding (t : FileTree) (place : Place) : Except Failure (Place × Entry) :=
  match t.at? place with
  | some entry => .ok (place, entry)
  | none => .error .notFound

/-- The place of a path and what it holds. -/
def find (t : FileTree) (p : Path) : Except Failure (Place × Entry) := do
  t.holding (← t.placeOf p true)

/-- The place of a path and what it holds, where a link is found itself and not
what it leads to. -/
def findSelf (t : FileTree) (p : Path) : Except Failure (Place × Entry) := do
  t.holding (← t.placeOf p false)

def holds (t : FileTree) (p : Path) : Bool :=
  (t.find p).toOption.isSome

def isDirectory (t : FileTree) (p : Path) : Bool :=
  match t.find p with
  | .ok (_, e) => e.isDirectory
  | .error _ => false

/-- The device that a path leads to, if it leads to one. -/
def device? (t : FileTree) (p : Path) : Option Device :=
  match t.find p with
  | .ok (_, e) => e.device?
  | .error _ => none

/-- Whether a path leads to something that is no directory. -/
def isFilePath (t : FileTree) (p : Path) : Bool :=
  match t.find p with
  | .ok (_, e) => !e.isDirectory
  | .error _ => false

def readBytes (t : FileTree) (p : Path) : Except Failure ByteArray := do
  let (place, e) ← t.find p
  match t.refusal? place .read with
  | some f => .error f
  | none => e.read

/-- The text whose UTF-8 form the bytes are. -/
def textOfBytes (bytes : ByteArray) : Except Failure Text :=
  match String.fromUTF8? bytes with
  | some s => .ok s.toList
  | none => .error .notText

def bytesOfText (t : Text) : ByteArray :=
  (String.ofList t).toUTF8

def readText (t : FileTree) (p : Path) : Except Failure Text := do
  textOfBytes (← t.readBytes p)

end FileTree

end Weave
