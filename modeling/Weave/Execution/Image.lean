import Weave.Utility.Table

/-!
# Programs in files

The programs of the machine and what is in their files.
-/

/-!
## The files of the machine

The directories, devices and programs that are there before anything is done. A
program is a file whose bytes are machine code; here they are a mark and the program's
name, so a copy of it is the same program.
-/
namespace Weave.Machine

def machineMark : ByteArray :=
  ⟨#[0x7F, 0x45, 0x4C, 0x46, 0x02, 0x01, 0x01, 0x00]⟩

def image (name : String) : ByteArray :=
  machineMark ++ name.toUTF8

/-- The name of the program whose machine code the bytes are. -/
def program? (bytes : ByteArray) : Option String :=
  if bytes.extract 0 machineMark.size == machineMark then
    (String.fromUTF8? (bytes.extract machineMark.size bytes.size)).filter fun name =>
      Utility.names.contains name
  else none

def place (path : String) : Place :=
  FileTree.partsOf path.toList

/-- Where a program is looked for that is called by its bare name. -/
def searched : List Bytes :=
  ["/usr/local/sbin", "/usr/local/bin", "/usr/sbin", "/usr/bin", "/sbin", "/bin"].map
    String.toList

def directories : List Place :=
  ["dev", "dev/fd", "etc", "home", "mnt", "opt", "proc", "root", "run", "srv", "sys", "tmp", "usr",
   "usr/bin", "usr/lib", "usr/local", "usr/local/bin", "usr/local/lib", "usr/local/sbin",
   "usr/sbin", "usr/share", "var", "var/log", "var/tmp"].map place

/-- Directories that have moved. -/
def links : List (Place × Entry) :=
  ["bin", "lib", "sbin"].map fun name => (place name, Entry.link ("usr/" ++ name).toList)

def devices : List (Place × Entry) :=
  let named := [("null", Device.null), ("zero", .zero), ("full", .full), ("random", .random),
    ("urandom", .random), ("tty", .terminal), ("stdin", .channel 0), ("stdout", .channel 1),
    ("stderr", .channel 2)]
  named.map (fun (name, d) => (place ("dev/" ++ name), Entry.device d))
    ++ (List.range 10).map fun n => (place ("dev/fd/" ++ toString n), Entry.device (.channel n))

/-- Files that tell about the system and its users, with their lines. -/
def tables : List (String × List String) :=
  [("etc/passwd", ["root:x:0:0:root:/root:/bin/bash",
     "nobody:x:65534:65534:nobody:/nonexistent:/usr/sbin/nologin"]),
   ("etc/group", ["root:x:0:", "nogroup:x:65534:"]),
   ("etc/hosts", ["127.0.0.1\tlocalhost"]),
   ("etc/hostname", ["localhost"]),
   ("etc/shells", ["# /etc/shells: valid login shells", "/bin/sh", "/usr/bin/sh", "/bin/bash",
     "/usr/bin/bash", "/bin/rbash", "/usr/bin/rbash", "/usr/bin/dash"])]

def texts : List (Place × Entry) :=
  tables.map fun (path, lines) =>
    (place path, Entry.file (String.join (lines.map (· ++ "\n"))).toUTF8 false)

def programs : List (Place × Entry) :=
  Utility.names.map fun name => (place ("usr/bin/" ++ name), Entry.file (image name) true)

/-- When everything begins, in nanoseconds. -/
def start : Int := 1767225600000000000

/-- The file tree before anything is done. -/
def files : FileTree where
  entries := ((directories.map fun place => (place, Entry.directory)) ++ links ++ devices ++ texts
    ++ programs).map fun (place, e) => (place, { e with time := start })
  here := []
  now := start

end Weave.Machine

/-!
## What a program's file is

A program is machine code or a script. A script names in its first line the
program that reads it, with at most one word for it; that program may be a
script in turn. Only the first bytes of a file are looked at.
-/
namespace Weave

namespace Image

/-- How many bytes of a file are looked at. -/
def headLength : Nat := 256

/-- How many scripts may stand behind one another. -/
def maxScripts : Nat := 5

def isGap (c : Char) : Bool := c = ' ' || c = '\t'

def trimEnd (t : Bytes) : Bytes :=
  (t.reverse.dropWhile isGap).reverse

/-- The first line of a script behind its mark. A line without an end must fit
into the bytes that are looked at, or at least its first word must. -/
def firstLine? (bytes : Bytes) : Option Bytes := do
  let rest ← Text.after? "#!".toList (bytes.take headLength)
  let line := rest.takeWhile fun c => c != '\n' && c != '\x00'
  match rest.drop line.length with
  | '\n' :: _ => if line.all isGap then none else some (trimEnd line)
  | _ :: _ => some line
  | [] =>
    if bytes.length < headLength then some line
    else
      let name := (line.dropWhile isGap).takeWhile fun c => !isGap c
      if line.all isGap || (line.dropWhile isGap).length = name.length then none
      else some (trimEnd (line.take (headLength - 3)))

/-- The program that reads a script, and the word for it. -/
def interpreter? (bytes : Bytes) : Option (Bytes × Option Bytes) :=
  (firstLine? bytes).map fun line =>
    let line := line.dropWhile isGap
    let word := (line.dropWhile fun c => !isGap c).dropWhile isGap
    (line.takeWhile fun c => !isGap c, if word = [] then none else some word)

/-- The bytes of a file that may be run. -/
def runnableBytes (files : FileTree) (path : Path) : Except Failure ByteArray := do
  if path = [] then .error .denied
  else
    let (_, e) ← files.find path
    match e.content with
    | .file bytes => if e.isRunnable then .ok bytes else .error .denied
    | _ => .error .denied

/-- What is started for a program and its words, of which the first is its own
name: the name of the machine code and the words for it. -/
def resolve (files : FileTree) : Nat → Bytes → List Bytes → Except Failure (String × List Bytes)
  | scripts, path, words => do
    let bytes ← runnableBytes files (Bytes.toName path)
    match Machine.program? bytes with
    | some name => .ok (name, words)
    | none =>
      match interpreter? (Bytes.ofArray (bytes.extract 0 headLength)) with
      | none => .error .notRunnable
      | some (name, word) =>
        match scripts with
        | 0 => .error .tooManySteps
        | scripts + 1 =>
          resolve files scripts name (name :: word.toList ++ path :: words.drop 1)

/-- The directories of a list in which colons stand between them. -/
def directoriesOf (list : Bytes) : List Bytes :=
  Text.splitOn ':' list

/-- The paths that a program's name may stand for in some directories, in their order. -/
def pathsFor (dirs : List Bytes) (program : Bytes) : List Bytes :=
  if program = [] then []
  else dirs.map fun dir => if dir = [] then program else Path.join dir program

/-- The files that it may stand for. -/
def candidates (files : FileTree) (dirs : List Bytes) (program : Bytes) : List Bytes :=
  (pathsFor dirs program).filter fun path =>
    (files.find (Bytes.toName path)).toOption.any fun f => f.2.isFile

/-- The path of a program: as it is written if there is a slash in it, or else where
a program of that name is, or at least a file. What is no file cannot be run. -/
def locate (files : FileTree) (dirs : List Bytes) (program : Bytes) : Except Failure Bytes :=
  if program.contains '/' then .ok program
  else if FileTree.maxNameBytes < program.length then .error .nameTooLong
  else
    let found := candidates files dirs program
    let runs (path : Bytes) : Bool := (runnableBytes files (Bytes.toName path)).toOption.isSome
    match (found.find? runs).or found.head? with
    | some path => .ok path
    | none =>
      let isThere (path : Bytes) : Bool := (files.find (Bytes.toName path)).toOption.isSome
      .error (if (pathsFor dirs program).any isThere then .denied else .notFound)

/-- What is started for a command: the name of the machine code and the words for
it, its own name first. -/
def ofCommand (files : FileTree) (dirs : List Bytes) (program : Bytes) (words : List Bytes) :
    Except Failure (String × List Bytes) := do
  let path ← locate files dirs program
  resolve files maxScripts path (program :: words)

example : ["#!/bin/sh\n", "#! /bin/sh -e x \n", "#!\n", "exit\n", "#!/bin/sh"].map
    (fun t => interpreter? t.toList) =
    [some ("/bin/sh".toList, none), some ("/bin/sh".toList, some "-e x".toList), none, none,
     some ("/bin/sh".toList, none)] := by decide

end Image

end Weave
