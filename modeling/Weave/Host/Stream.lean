import Weave.FileTree.Manage

/-!
# Streams

A program reads and prints through streams. A stream leads to a file, to a device,
to a text that is given, or to whoever waits for what is printed. All who hold the
same stream share how far it has been read or written.
-/
namespace Weave

/-- What a stream leads to. -/
inductive Stream.Target where
  /-- Whoever has started everything gets what is printed. -/
  | output
  /-- So it gets what is said about mistakes. -/
  | errors
  /-- An open file, by its place of its own. -/
  | file (place : Place)
  | device (d : Device)
  | directory
  /-- A text. Where it is cut, there would be more behind its end. -/
  | text (rest : Bytes) (isCut : Bool)
  /-- Holds what is printed, the last piece first, for another program that reads it,
  as long as there is room. -/
  | pieces (held : List Bytes) (room : Nat) (isOver : Bool)
deriving Repr, DecidableEq

structure Stream where
  target : Stream.Target
  /-- How much of a file lies behind. -/
  position : Nat := 0
  /-- Whether all that is printed goes to the end of the file. -/
  appends : Bool := false
  reads : Bool := false
  writes : Bool := false
deriving Repr, DecidableEq

/-- How a file is opened. -/
inductive Opening where
  | read
  /-- For printing to it; what it held is gone. -/
  | write
  | append
  /-- For reading and printing. -/
  | update
deriving Repr, DecidableEq

namespace Stream

/-- How far anyone goes on reading what has no end. -/
def endless : Nat := 2 ^ 20

/-- The bytes at the beginning of a device. -/
def deviceBytes : Device → ByteArray
  | .null => .empty
  | .channel _ => .empty
  | .terminal => .empty
  | .zero => ⟨Array.replicate endless 0⟩
  | .full => ⟨Array.replicate endless 0⟩
  | .random => ⟨Array.replicate endless 0⟩

/-- The bytes at the beginning of what can be read as bytes. -/
def bytesOf? (e : Entry) : Option ByteArray :=
  match e.content with
  | .file bytes => some bytes
  | .device d => some (deviceBytes d)
  | _ => none

def ofText (t : Bytes) : Stream where
  target := .text t false
  reads := true

def leadingTo (target : Target) (how : Opening) : Stream where
  target := target
  appends := how = .append
  reads := how = .read || how = .update
  writes := how != .read

/-- Bytes with others laid over them from a position on, where what is missing before
is filled up with zeros. -/
def overlay (bytes : ByteArray) (position : Nat) (new : ByteArray) : ByteArray :=
  if position = bytes.size then bytes ++ new
  else
    let gap : ByteArray := ⟨Array.replicate (position - bytes.size) 0⟩
    bytes.extract 0 position ++ gap ++ new ++ bytes.extract (position + new.size) bytes.size

/-- The position behind the line that begins at one. The number bounds how long it
is. -/
def lineEnd (bytes : ByteArray) : Nat → Nat → Nat
  | 0, position => position
  | fuel + 1, position =>
    if position < bytes.size then
      if bytes.get! position = 10 then position + 1 else lineEnd bytes fuel (position + 1)
    else position

end Stream

end Weave
