import Weave.FileTree.Failure
import Weave.Instance
import Weave.Path

/-!
# What a place in a file tree holds

A file, a directory, a link to another path, or a device of the system, with the
permissions and the time of its last change. A file that has several names has a
number that all of them share; a file without a number has only one.

The permissions are those that are shown and that say which files may be run. What a
program may do beyond that does not follow from them alone, and the tree tells it.
-/
namespace Weave

/-- The devices of the system. -/
inductive Device where
  /-- Takes everything and gives nothing. -/
  | null
  /-- Takes everything and gives zeros without end. -/
  | zero
  /-- Gives zeros without end and takes nothing. -/
  | full
  /-- Gives bytes without end that nobody can foretell. -/
  | random
  /-- The screen of whoever looks on; there is none. -/
  | terminal
  /-- The channel of that number of whoever opens it. -/
  | channel (n : Nat)
deriving Repr, DecidableEq

namespace Device

/-- The channels that a program has from the beginning. -/
def openChannels : Nat := 3

/-- What a program reads from a device to its end, if that comes before there is no more room
for it. Nobody hands the program anything on its own channels. -/
def read : Device → Except Failure ByteArray
  | null => .ok .empty
  | zero => .error .outOfMemory
  | full => .error .outOfMemory
  | random => .error .outOfMemory
  | terminal => .error .noAddress
  | channel n => if n < openChannels then .ok .empty else .error .notFound

/-- Why a device does not take bytes, if it does not. -/
def refusal? (bytes : ByteArray) : Device → Option Failure
  | full => if bytes.size = 0 then none else some .noSpace
  | terminal => some .noAddress
  | channel n => if n < openChannels then none else some .notFound
  | _ => none

end Device

inductive Content where
  | file (bytes : ByteArray)
  | directory
  | link (target : Path)
  | device (d : Device)
deriving DecidableEq

structure Entry where
  content : Content
  /-- Who may do what, as bits. -/
  mode : Nat
  /-- When it was changed last, in nanoseconds. -/
  time : Int := 0
  /-- What all names of a file have in common, if it has several. -/
  sharing : Option Nat := none
deriving DecidableEq

namespace Entry

/-- The bits of the permission to run. -/
def runBits : Nat := 0o111

def file (bytes : ByteArray) (runnable : Bool) : Entry where
  content := .file bytes
  mode := if runnable then 0o755 else 0o644

def directory : Entry where
  content := .directory
  mode := 0o755

def link (target : Path) : Entry where
  content := .link target
  mode := 0o777

def device (d : Device) : Entry where
  content := .device d
  mode := 0o666

def isDirectory (e : Entry) : Bool := e.content = .directory

def isFile (e : Entry) : Bool :=
  match e.content with
  | .file _ => true
  | _ => false

def device? (e : Entry) : Option Device :=
  match e.content with
  | .device d => some d
  | _ => none

def isDevice (e : Entry) : Bool :=
  e.device?.isSome

def isLink (e : Entry) : Bool :=
  match e.content with
  | .link _ => true
  | _ => false

/-- How many bytes it takes. -/
def size (e : Entry) : Nat :=
  match e.content with
  | .file bytes => bytes.size
  | .directory => 4096
  | .link target => target.length
  | .device _ => 0

def isRunnable (e : Entry) : Bool := e.mode &&& runBits != 0

/-- The bytes that reading gives. -/
def read (e : Entry) : Except Failure ByteArray :=
  match e.content with
  | .file bytes => .ok bytes
  | .directory => .error .isDirectory
  | .link _ => .error .tooManySteps
  | .device d => d.read

def target? (e : Entry) : Option Path :=
  match e.content with
  | .link target => some target
  | _ => none

end Entry

end Weave
