import Weave.Recipe.Shown

/-!
# Files of recipes

A file is read and printed to as a text, in UTF-8 and with plain ends of lines, or as
bytes.
-/
namespace Weave.Recipe

/-- Why bytes are no text: how many are before the first one that does not fit, and what
is wrong with it. The number bounds how many characters there are. -/
def decodeFault? : Nat → Nat → Bytes → Option (Nat × Char × String)
  | 0, _, _ => none
  | _, _, [] => none
  | fuel + 1, position, b :: rest =>
    if b.toNat < 128 then decodeFault? fuel (position + 1) rest
    else
      let (count, least, greatest) := Bytes.following b.toNat
      let tail := Bytes.continuing count least greatest rest
      if count = 0 then some (position, b, "invalid start byte")
      else if tail.length = count then
        decodeFault? fuel (position + 1 + count) (rest.drop count)
      else if tail.length = rest.length then some (position, b, "unexpected end of data")
      else some (position, b, "invalid continuation byte")

/-- The text of bytes in UTF-8. -/
def decoded (b : Bytes) : Step Text := do
  match decodeFault? (b.length + 1) 0 b with
  | none => return Bytes.toText b
  | some (position, c, what) =>
    failWith "UnicodeDecodeError" ("'utf-8' codec can't decode byte 0x".toList
      ++ Shown.coded 2 c.toNat ++ " in position ".toList ++ Text.ofNat position ++ ": ".toList
      ++ what.toList)

/-- A text with plain ends of lines. -/
def plainLines : Text → Text
  | '\r' :: '\n' :: rest => '\n' :: plainLines rest
  | '\r' :: rest => '\n' :: plainLines rest
  | c :: rest => c :: plainLines rest
  | [] => []

/-- The file that an object stands for. -/
def fileOf (n : Nat) : Step OpenFile := do
  match (← get).object? n with
  | some (.file f) => return f
  | _ => typeFault "expected a file"

namespace OpenFile

/-- The number of the stream that a file leads to. -/
def stream (f : OpenFile) : Step Nat := do
  match f.outlet with
  | .stream n => return n
  | .channel c =>
    match (← task get).channels.lookup c with
    | some n => return n
    | none => failOn .closed .none
  | .closed => fail "ValueError" "I/O operation on closed file."

/-- Bytes as the value that they are read as. -/
def value (f : OpenFile) (b : Bytes) : Step Value := do
  if f.isBinary then return .bytes b
  return .text (plainLines (← decoded b))

/-- Fails if a file is not for reading. -/
def checkReads (f : OpenFile) : Step Unit := do
  let reads := f.mode.contains 'r' || f.mode.contains '+'
  if !reads && f.outlet ≠ .closed then
    fail "io.UnsupportedOperation" (if f.isBinary then "read" else "not readable")

/-- Reads a file up to its end. -/
def takeAll (f : OpenFile) : Step Value := do
  checkReads f
  let n ← f.stream
  let job ← task get
  match job.toHost.takeAll n with
  | .ok (t, host) =>
    task (set { job with toHost := host })
    f.value t
  | .error failure => failOn failure .none

/-- Reads the next line of a file, with its end; at the end of the file it is empty. -/
def takeLine (f : OpenFile) : Step Value := do
  checkReads f
  let n ← f.stream
  let job ← task get
  match job.toHost.nextLine n with
  | .ok line =>
    let host := job.toHost.skip n line.length
    task (set { job with
      toHost := if line.getLast? = some '\n' then host else host.reachEnd n })
    f.value line
  | .error failure => failOn failure .none

/-- Prints to a file. -/
def write (f : OpenFile) (v : Value) : Step Value := do
  let (bytes, count) ← match v, f.isBinary with
    | .text t, false => pure (Bytes.ofText t, t.length)
    | .bytes t, true => pure (t, t.length)
    | v, true =>
      typeFault ("a bytes-like object is required, not '" ++ (← get).kindName v ++ "'")
    | v, false =>
      typeFault ("write() argument must be str, not " ++ (← get).kindName v)
  match f.outlet with
  | .channel 1 => task (Job.print bytes)
  | .channel 2 => task (Job.say bytes)
  | _ =>
    let n ← f.stream
    if f.mode.contains 'r' && !f.mode.contains '+' then
      fail "io.UnsupportedOperation" (if f.isBinary then "write" else "not writable")
    let job ← task get
    let (failure, host) := job.toHost.write n bytes
    task (set { job with toHost := host })
    if let some failure := failure then failOn failure .none
  return .int count

/-- Closes the file that an object stands for. -/
def close (f : OpenFile) (number : Nat) : Step Unit := do
  match f.outlet with
  | .stream n =>
    let s ← get
    let isShared := s.heap.toList.zipIdx.any fun (o, i) => match o with
      | .file g => i ≠ number && g.outlet = .stream n
      | _ => false
    task (modify fun j =>
      if isShared || j.channels.any fun c => c.2 = n then j
      else { j with toHost := j.toHost.closeAllBut (· ≠ n) })
    modify fun s => s.put number (.file { f with outlet := .closed })
  | _ => modify fun s => s.put number (.file { f with outlet := .closed })

/-- Goes back to a position of a file. -/
def seek (f : OpenFile) (position : Nat) : Step Unit := do
  let n ← f.stream
  task (modify fun j =>
    match j.toHost.streams.lookup n with
    | some s => { j with toHost := j.toHost.put n { s with position := position } }
    | none => j)

/-- How far a file has been read or written, and how long it is. -/
def position (f : OpenFile) : Step (Nat × Nat) := do
  let n ← f.stream
  let job ← task get
  match job.toHost.streams.lookup n with
  | some s =>
    let size := match s.target with
      | .file place => (job.toHost.bytesAt place).size
      | _ => 0
    return (s.position, size)
  | none => return (0, 0)

/-- Opens a file. -/
def opened (name : Value) (path : Text) (mode : Text) : Step Value := do
  let isBinary := mode.contains 'b'
  let how := if mode.contains 'a' then Opening.append
    else if mode.contains '+' then .update
    else if mode.contains 'w' || mode.contains 'x' then .write
    else .read
  let job ← task get
  if mode.contains 'r' && !job.files.holds path then
    match job.files.find path with
    | .error f => failOn f name
    | .ok _ => return .none
  if mode.contains 'w' && how = .update then
    match job.toHost.openPath job.channels .write false path with
    | .ok (n, host) => task (set { job with toHost := host.closeAllBut (· ≠ n) })
    | .error f => failOn f name
  let job ← task get
  match job.toHost.openPath job.channels how (mode.contains 'x') path with
  | .error f => failOn f name
  | .ok (n, host) =>
    let isDirectory := match (host.streams.lookup n).map (·.target) with
      | some .directory => true
      | _ => false
    if isDirectory then failOn .isDirectory name
    task (set { job with toHost := host })
    make (.file { name := name, mode := mode, outlet := .stream n, isBinary := isBinary })

end OpenFile

end Weave.Recipe
