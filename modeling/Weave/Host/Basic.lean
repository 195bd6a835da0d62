import Weave.Host.Stream

/-!
# What programs share

The files, the open streams and what has been printed, for all programs that run one
behind the other. A program has channels, each with the number of its stream.

A file that is open has one more name, at a place that no path leads to because its
first name is empty; so a stream goes on leading to the file when it is moved or
removed.
-/
namespace Weave

/-- The channels of a program, by their numbers, with the numbers of their streams. -/
abbrev Channels := List (Nat × Nat)

structure Host where
  files : FileTree
  /-- The open streams by their numbers, the greatest first. -/
  streams : List (Nat × Stream) := []
  /-- What has been printed, the last piece first. -/
  output : List Bytes := []
  errors : List Bytes := []
  /-- Whether a program has read to the end of a text that was cut. -/
  isStarved : Bool := false

namespace Host

/-- The place of an open file that no path leads to. -/
def openPlace (n : Nat) : Place := [[], Text.ofNat n]

/-- The number for the next stream. -/
def nextNumber (h : Host) : Nat :=
  h.streams.head?.elim 0 fun s => s.1 + 1

/-- Opens one more stream and gives its number. -/
def add (h : Host) (s : Stream) : Nat × Host :=
  (h.nextNumber, { h with streams := (h.nextNumber, s) :: h.streams })

/-- Puts a stream in place of the one of that number. -/
def put (h : Host) (n : Nat) (s : Stream) : Host :=
  { h with streams := h.streams.map fun e => if e.1 = n then (n, s) else e }

/-- Closes the streams that nobody keeps. -/
def closeAllBut (h : Host) (keeps : Nat → Bool) : Host :=
  let gone := h.streams.filter fun e => !keeps e.1
  if gone.isEmpty then h
  else { h with
    streams := h.streams.filter fun e => keeps e.1
    files := gone.foldl (fun files e => files.clear (openPlace e.1)) h.files }

/-- The stream of a channel. -/
def streamOf? (h : Host) (channels : Channels) (channel : Nat) : Option (Nat × Stream) :=
  (channels.lookup channel).bind fun n => (h.streams.lookup n).map fun s => (n, s)

/-- Prints to a stream, or tells why that cannot be done. -/
def write (h : Host) (n : Nat) (t : Bytes) : Option Failure × Host :=
  match h.streams.lookup n with
  | none => (some .closed, h)
  | some s =>
    if !s.writes then (some .closed, h)
    else if t = [] then (none, h)
    else
      match s.target with
      | .output => (none, { h with output := t :: h.output })
      | .errors => (none, { h with errors := t :: h.errors })
      | .device .full => (some .noSpace, h)
      | .device _ => (none, h)
      | .directory => (some .isDirectory, h)
      | .text _ _ => (some .closed, h)
      | .pieces held room _ =>
        if room = 0 then (some .unread, h.put n { s with target := .pieces held 0 true })
        else (none, h.put n { s with target := .pieces (t :: held) (room - t.length) false })
      | .file place =>
        match h.files.at? place with
        | none => (some .closed, h)
        | some e =>
          let before := (Stream.bytesOf? e).getD .empty
          let position := if s.appends then before.size else s.position
          let bytes := Stream.overlay before position (Bytes.toArray t)
          let entry := { e with content := .file bytes, time := h.files.now }
          let h := { h with files := h.files.replace place entry }
          (none, h.put n { s with position := position + t.length })

/-- The bytes of a file that is open. -/
def bytesAt (h : Host) (place : Place) : ByteArray :=
  ((h.files.at? place).bind Stream.bytesOf?).getD .empty

/-- What is still to be read from a stream. -/
def unread (h : Host) (n : Nat) : Except Failure Bytes :=
  match h.streams.lookup n with
  | none => .error .closed
  | some s =>
    if !s.reads then .error .closed
    else
      match s.target with
      | .file place =>
        let bytes := h.bytesAt place
        .ok (Bytes.ofArray (bytes.extract s.position bytes.size))
      | .device d => .ok (Bytes.ofArray (Stream.deviceBytes d))
      | .text rest _ => .ok rest
      | .directory => .error .isDirectory
      | .output => .ok []
      | .errors => .ok []
      | .pieces _ _ _ => .error .closed

/-- The line that is read next from a stream, with its end if it has one. -/
def nextLine (h : Host) (n : Nat) : Except Failure Bytes :=
  match h.streams.lookup n with
  | some ⟨.file place, position, _, true, _⟩ =>
    let bytes := h.bytesAt place
    .ok (Bytes.ofArray (bytes.extract position (Stream.lineEnd bytes bytes.size position)))
  | some ⟨.text rest _, _, _, true, _⟩ =>
    let line := rest.takeWhile (· ≠ '\n')
    .ok (rest.take (line.length + 1))
  | _ => h.unread n

/-- Leaves so much of what is to be read behind. -/
def skip (h : Host) (n count : Nat) : Host :=
  match h.streams.lookup n with
  | none => h
  | some s =>
    match s.target with
    | .file _ => h.put n { s with position := s.position + count }
    | .text rest isCut => h.put n { s with target := .text (rest.drop count) isCut }
    | _ => h

/-- Notes that someone has read to the end of a stream. -/
def reachEnd (h : Host) (n : Nat) : Host :=
  match h.streams.lookup n with
  | some ⟨.text _ true, _, _, _, _⟩ => { h with isStarved := true }
  | _ => h

/-- Reads a stream to its end. -/
def takeAll (h : Host) (n : Nat) : Except Failure (Bytes × Host) := do
  let t ← h.unread n
  return (t, (h.skip n t.length).reachEnd n)

/-- Opens what a place holds; a file is emptied first, if it is opened for that. -/
def openFile (h : Host) (place : Place) (how : Opening) : Except Failure (Nat × Host) := do
  let files ← if how = .write then h.files.fill place false .empty else .ok h.files
  let (_, e) ← files.holding place
  let n := h.nextNumber
  let stream := Stream.leadingTo (.file (openPlace n)) how
  return { h with files := files.shareAt place (openPlace n) e }.add stream

/-- Opens a device. A channel of the program itself is opened once more. -/
def openDevice (h : Host) (channels : Channels) (d : Device) (how : Opening) :
    Except Failure (Nat × Host) :=
  match d with
  | .terminal => .error .noAddress
  | .channel c =>
    match h.streamOf? channels c with
    | none => .error .notFound
    | some (n, s) =>
      match s.target with
      | .file place => h.openFile place how
      | _ => .ok (n, h)
  | d => .ok (h.add (Stream.leadingTo (.device d) how))

/-- Opens what a path leads to. What is opened for printing is made if it is missing;
if it must be `fresh`, no file may be there. -/
def openPath (h : Host) (channels : Channels) (how : Opening) (fresh : Bool) (p : Path) :
    Except Failure (Nat × Host) := do
  match h.files.find p with
  | .ok (place, e) =>
    match e.content with
    | .file _ => if fresh then throw .exists else h.openFile place how
    | .directory =>
      if how = .read then return h.add (Stream.leadingTo .directory how) else throw .isDirectory
    | .device d => h.openDevice channels d how
    | .link _ => throw .tooManySteps
  | .error f =>
    if how = .read || f != .notFound then throw f
    else
      let place ← h.files.placeToWrite p
      { h with files := ← h.files.fill place false .empty }.openFile place how

/-- Reads what a path leads to, from its beginning. -/
def readPath (h : Host) (channels : Channels) (p : Path) : Except Failure (Bytes × Host) := do
  let (_, e) ← h.files.find p
  match e.content with
  | .device (.channel _) =>
    let (n, h) ← h.openPath channels .read false p
    h.takeAll n
  | .device .terminal => throw .noAddress
  | _ =>
    match Stream.bytesOf? e with
    | some bytes => return (Bytes.ofArray bytes, h)
    | none => throw .isDirectory

/-- All that has been printed. -/
def flatten (pieces : List Bytes) : Bytes :=
  pieces.foldl (fun t piece => piece ++ t) []

/-- The files without the names that no path leads to. -/
def settled (h : Host) : FileTree :=
  { h.files with entries := h.files.entries.filter fun e => e.1.head? != some [] }

end Host

end Weave
