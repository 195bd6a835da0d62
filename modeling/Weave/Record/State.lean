import Weave.Record.Field
import Weave.Utility.Job

/-!
# What a program for records works on

Names have values, and tables have values by their keys. A function has names of its own;
each of them may stand for a table, which is one of the caller's where it was given.
-/
namespace Weave.Record

/-- Values by keys, that used last first. -/
abbrev Table := List (Bytes × Value)

/-- A name of a function with its value, and the name of the table that it stands for. -/
structure Local where
  name : Bytes
  value : Value
  table : Bytes

structure State where
  values : List (Bytes × Value) := []
  tables : List (Bytes × Table) := []
  locals : List Local := []
  /-- How many tables have been made for functions. -/
  tableCount : Nat := 0
  record : Bytes := []
  fields : List Value := []
  /-- The rules that are between their first and their last record. -/
  openRanges : List Nat := []
  /-- What is still to be read of the input. -/
  input : Option Bytes := none
  nextArgument : Nat := 1
  hasInput : Bool := false
  /-- What is still to be read of files and from commands. -/
  texts : List (Bytes × Bytes) := []
  answers : List (Bytes × Bytes) := []
  /-- The streams of the files that are printed to. -/
  files : List (Bytes × Nat) := []
  /-- What has been printed for commands, the last piece first. -/
  pipes : List (Bytes × List Bytes) := []
  seed : Float := 0
  random : Nat := 1

/-- Why a program does not go on as it is written. -/
inductive Stop where
  | next
  | nextFile
  | break'
  | continue'
  | return' (v : Value)
  | exit (status : Option Nat)
  /-- Something went wrong; a fault while running is told with its place. -/
  | fault (isRunning : Bool) (message : Bytes)

abbrev Step := ExceptT Stop (StateT State Task)

namespace State

/-- The value of a name that is no name of a function. -/
def global (s : State) (name : String) : Value :=
  (s.values.lookup name.toList).getD .nothing

def setGlobal (s : State) (name : Bytes) (v : Value) : State :=
  { s with values := (name, v) :: s.values.filter fun e => e.1 != name }

/-- How numbers that are not whole become text. -/
def conversion (s : State) : Bytes := (s.global "CONVFMT").toText []

def textOf (s : State) (v : Value) : Bytes := v.toText s.conversion

def globalText (s : State) (name : String) : Bytes := s.textOf (s.global name)

/-- The mark for fields, which an end of a line is too where empty lines end records. -/
def mark (s : State) : Mark :=
  let m := Mark.ofText (s.globalText "FS")
  if s.globalText "RS" = [] then m.orLineEnd else m

/-- Puts a record in place of the one before. -/
def setRecord (s : State) (t : Bytes) : State :=
  let fields := (s.mark.fields t).map Value.read
  { s with record := t, fields := fields }.setGlobal "NF".toList (.ofNat fields.length)

/-- Puts the record together from its fields. -/
def joinFields (s : State) : State :=
  { s with record := Text.joinWith (s.globalText "OFS") (s.fields.map s.textOf) }

/-- Gives a field a value; the fields before it are there then. -/
def setField (s : State) (n : Nat) (v : Value) : State :=
  if n = 0 then s.setRecord (s.textOf v)
  else
    let filled := s.fields ++ List.replicate (n - s.fields.length) (Value.read [])
    let s := { s with fields := filled.set (n - 1) v }
    (s.setGlobal "NF".toList (.ofNat filled.length)).joinFields

/-- Changes how many fields there are. -/
def setFieldCount (s : State) (n : Nat) : State :=
  let kept := s.fields.take n
  let fields := kept ++ List.replicate (n - kept.length) (Value.read [])
  ({ s with fields := fields }.setGlobal "NF".toList (.ofNat n)).joinFields

def field (s : State) (n : Nat) : Value :=
  if n = 0 then .read s.record else (s.fields[n - 1]?).getD .nothing

/-- The value of a name. -/
def value (s : State) (name : Bytes) : Value :=
  match s.locals.find? fun l => l.name = name with
  | some l => l.value
  | none => (s.values.lookup name).getD .nothing

def setValue (s : State) (name : Bytes) (v : Value) : State :=
  if s.locals.any fun l => l.name = name then
    { s with locals := s.locals.map fun l => if l.name = name then { l with value := v } else l }
  else if name = "NF".toList then s.setFieldCount (Value.truncated v.toNumber).toNat
  else s.setGlobal name v

/-- The name of the table that a name stands for. -/
def tableName (s : State) (name : Bytes) : Bytes :=
  match s.locals.find? fun l => l.name = name with
  | some l => l.table
  | none => name

def table (s : State) (name : Bytes) : Table :=
  (s.tables.lookup (s.tableName name)).getD []

def setTable (s : State) (name : Bytes) (t : Table) : State :=
  let own := s.tableName name
  { s with tables := (own, t) :: s.tables.filter fun e => e.1 != own }

/-- The value of a key, which is there then, and used last. -/
def look (s : State) (name key : Bytes) : Value × State :=
  let t := s.table name
  match t.lookup key with
  | some v => (v, s.setTable name ((key, v) :: t.filter fun e => e.1 != key))
  | none => (.nothing, s.setTable name ((key, .nothing) :: t))

def setElement (s : State) (name key : Bytes) (v : Value) : State :=
  s.setTable name ((key, v) :: (s.table name).filter fun e => e.1 != key)

/-- One of sixty-four shelves for a key: its bytes are mixed in one after the other. -/
def shelf (key : Bytes) : Nat :=
  (key.foldl (fun (h : UInt32) c => (h ^^^ UInt32.ofNat c.toNat) * 16777619) 2166136261).toNat % 64

/-- The keys of a table, shelf by shelf. Where all are numbers, the greater ones stand
before the others of their shelf. -/
def keys (t : Table) : List Bytes :=
  let all := t.map Prod.fst
  let number (key : Bytes) : Nat := Escape.numberIn 10 key
  let isNumber (key : Bytes) : Bool :=
    key != [] && key.all Char.isDigit && (key.head? != some '0' || key.length = 1)
  let all := if all.all isNumber then all.mergeSort fun a b => number b ≤ number a else all
  all.mergeSort fun a b => shelf a ≤ shelf b

end State

end Weave.Record
