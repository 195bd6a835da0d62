import Weave.Recipe.Program
import Weave.Utility.Job

/-!
# What recipes work on

A value is plain, or it is the number of an object; so two names can stand for the same
object, and what is done to it by one shows by the other. The names of a function are an
object too, which other functions may keep.
-/
namespace Weave.Recipe

/-- What of a dictionary is seen. -/
inductive Facet where
  | keys
  | values
  | items
deriving Repr, DecidableEq

inductive Value where
  | none
  | bool (b : Bool)
  | int (n : Int)
  | float (x : Float)
  | text (t : Text)
  | bytes (t : Bytes)
  | dots
  | tuple (items : List Value)
  | range (first last step : Int)
  | slice (first last step : Value)
  | path (t : Text)
  | object (n : Nat)
  /-- A function or a kind of values that is always there. -/
  | known (name : String)
  | module (name : String)
  /-- A function with its first argument. -/
  | bound (self function : Value)
  /-- Part of a dictionary, which changes with it. -/
  | facet (f : Facet) (n : Nat)
deriving Inhabited

/-- What a file leads to. -/
inductive Outlet where
  /-- A channel of the program. -/
  | channel (n : Nat)
  | stream (n : Nat)
  /-- Nothing, as the file is closed. -/
  | closed
deriving Repr, DecidableEq

structure OpenFile where
  name : Value
  mode : Text
  outlet : Outlet
  isBinary : Bool

/-- What a function does. -/
inductive Deed where
  | value (t : Term)
  | body (statements : List Statement) (yields : Bool)

structure Function where
  name : String
  /-- The name with those of what it is defined in. -/
  fullName : String
  parameters : List (String × Taking × Option Value)
  deed : Deed
  /-- The names that it is defined among. -/
  scope : Nat

/-- Names with their values. -/
structure Scope where
  names : List (String × Value) := []
  outer : Option Nat := none
  /-- Names that stand for those of another scope. -/
  elsewhere : List (String × Nat) := []
  /-- Whether the names belong to a kind of objects. -/
  isKind : Bool := false
deriving Inhabited

structure Kind where
  name : String
  bases : List Nat
  members : List (String × Value) := []
deriving Inhabited

inductive Object where
  | list (items : Array Value)
  | dict (entries : Array (Value × Value))
  | set (items : Array Value) (isFixed : Bool)
  /-- What has not been taken yet. -/
  | stream (rest : List Value)
  | function (f : Function)
  | kind (k : Kind)
  | instance' (kind : Nat) (fields : List (String × Value))
  | scope (s : Scope)
  | file (f : OpenFile)
deriving Inhabited

/-- What is at work: a function, or the recipe itself. -/
structure Frame where
  name : String
  scope : Nat
  /-- Where it has come to. -/
  place : Span := {}
  /-- The function that is at work, and what it was given first. -/
  self : Option (Nat × Value) := none
  /-- What has been handed out, the last value first. -/
  handedOut : List Value := []
deriving Inhabited

/-- A place that a fault came through. -/
inductive Origin where
  /-- A function of the recipe. -/
  | own (function : String) (span : Span)
  /-- A place outside of the recipe, as it is told. -/
  | foreign (lines : List String)

/-- What is the same all the time. -/
structure Setting where
  launch : Launch
  /-- What the recipe is called where something is said about it. -/
  name : Text
  lines : List Text
  /-- What the program is called that runs it. -/
  program : Bytes

structure State where
  setting : Setting
  heap : Array Object
  frame : Frame
  depth : Nat := 0
  /-- The faults that are being handled, the last one first. -/
  handling : List Nat := []
  /-- Where faults came up and what they came through, the outermost place first. -/
  traces : List (Nat × List Origin) := []
  /-- The faults that others have come from, and whether that is meant to be told. -/
  causes : List (Nat × Nat × Bool) := []
  /-- What the modules hold besides functions, by name. -/
  constants : List (String × Value) := []
  /-- What is done at the end, the last one first. -/
  farewells : List (Value × List Value) := []

/-- Why a recipe does not go on as it is written. -/
inductive Stop where
  | break'
  | continue'
  | return' (v : Value)
  /-- Something went wrong; the object tells what. -/
  | fault (n : Nat)
  /-- The recipe ends at once. -/
  | quit (status : Nat)

abbrev Step := ExceptT Stop (StateT State Task)

/-- What is asked of the run as a whole. -/
inductive Request where
  | term (t : Term)
  | body (statements : List Statement)
  | call (f : Value) (plain : List Value) (named : List (String × Value))
  | attribute (v : Value) (name : String)
  | index (v i : Value)

abbrev Again := Request → Step Value

/-- Does something with the files and streams. -/
def task {α : Type} (t : Task α) : Step α := ExceptT.lift (StateT.lift t)

/-- The kinds of faults that are always there, each with the one that it belongs to. -/
def faultKinds : List (String × String) :=
  [("BaseException", ""), ("Exception", "BaseException"), ("SystemExit", "BaseException"),
   ("KeyboardInterrupt", "BaseException"), ("GeneratorExit", "BaseException"),
   ("StopIteration", "Exception"), ("ArithmeticError", "Exception"),
   ("ZeroDivisionError", "ArithmeticError"), ("OverflowError", "ArithmeticError"),
   ("AssertionError", "Exception"), ("AttributeError", "Exception"), ("EOFError", "Exception"),
   ("ImportError", "Exception"), ("ModuleNotFoundError", "ImportError"),
   ("LookupError", "Exception"), ("IndexError", "LookupError"), ("KeyError", "LookupError"),
   ("NameError", "Exception"), ("UnboundLocalError", "NameError"), ("OSError", "Exception"),
   ("FileNotFoundError", "OSError"), ("FileExistsError", "OSError"),
   ("PermissionError", "OSError"), ("IsADirectoryError", "OSError"),
   ("NotADirectoryError", "OSError"), ("BrokenPipeError", "OSError"),
   ("ProcessLookupError", "OSError"), ("TimeoutError", "OSError"), ("RuntimeError", "Exception"),
   ("RecursionError", "RuntimeError"), ("NotImplementedError", "RuntimeError"),
   ("SyntaxError", "Exception"), ("IndentationError", "SyntaxError"), ("TypeError", "Exception"),
   ("ValueError", "Exception"), ("UnicodeError", "ValueError"),
   ("UnicodeDecodeError", "UnicodeError"), ("UnicodeEncodeError", "UnicodeError"),
   ("json.decoder.JSONDecodeError", "ValueError"), ("subprocess.SubprocessError", "Exception"),
   ("subprocess.CalledProcessError", "subprocess.SubprocessError"), ("Warning", "Exception"),
   ("io.UnsupportedOperation", "OSError"),
   ("object", ""), ("subprocess.CompletedProcess", ""), ("subprocess.Popen", ""),
   ("os.stat_result", "")]

/-- The number of a kind of faults. -/
def faultNumber (name : String) : Nat :=
  faultKinds.findIdx fun e => e.1 = name

/-- Other names of kinds of faults. -/
def faultNames : List (String × String) :=
  [("IOError", "OSError"), ("EnvironmentError", "OSError"),
   ("json.JSONDecodeError", "json.decoder.JSONDecodeError")]

/-- The objects that are there from the beginning: the kinds of faults and the names of
the recipe. -/
def firstObjects (names : List (String × Value)) : Array Object :=
  let kinds := faultKinds.map fun (name, base) =>
    Object.kind ⟨name, if base = "" then [] else [faultNumber base], []⟩
  (kinds ++ [Object.scope { names := names }]).toArray

/-- The number of the names of the recipe. -/
def topScope : Nat := faultKinds.length

namespace State

def object? (s : State) (n : Nat) : Option Object := s.heap[n]?

/-- Adds an object and gives its number. -/
def add (s : State) (o : Object) : Nat × State :=
  (s.heap.size, { s with heap := s.heap.push o })

def put (s : State) (n : Nat) (o : Object) : State :=
  { s with heap := s.heap.setIfInBounds n o }

def scope (s : State) (n : Nat) : Scope :=
  match s.object? n with
  | some (.scope c) => c
  | _ => {}

def kind (s : State) (n : Nat) : Kind :=
  match s.object? n with
  | some (.kind k) => k
  | _ => default

/-- The kinds that a kind belongs to, itself first. The number bounds how many there
are. -/
def lineage (s : State) : Nat → Nat → List Nat
  | 0, _ => []
  | fuel + 1, k =>
    let bases := (s.kind k).bases
    (k :: bases.flatMap fun b => s.lineage fuel b).reverse.eraseDups.reverse

def isKindOf (s : State) (k base : Nat) : Bool := (s.lineage 50 k).contains base

/-- What a kind or those that it belongs to have by a name. -/
def member? (s : State) (k : Nat) (name : String) : Option Value :=
  (s.lineage 50 k).findSome? fun k => (s.kind k).members.lookup name

/-- The kind of an object that has one of its own. -/
def kindOf? (s : State) (v : Value) : Option Nat :=
  match v with
  | .object n =>
    match s.object? n with
    | some (.instance' k _) => some k
    | _ => none
  | _ => none

/-- The name of the kind of a value. -/
def kindName (s : State) (v : Value) : String :=
  match v with
  | .none => "NoneType"
  | .bool _ => "bool"
  | .int _ => "int"
  | .float _ => "float"
  | .text _ => "str"
  | .bytes _ => "bytes"
  | .dots => "ellipsis"
  | .tuple _ => "tuple"
  | .range _ _ _ => "range"
  | .slice _ _ _ => "slice"
  | .path _ => "PosixPath"
  | .known n => if n.toList.head?.any Char.isUpper || plainKinds.contains n then "type" else
      "builtin_function_or_method"
  | .module _ => "module"
  | .bound _ (.known _) => "builtin_function_or_method"
  | .bound _ _ => "method"
  | .facet .keys _ => "dict_keys"
  | .facet .values _ => "dict_values"
  | .facet .items _ => "dict_items"
  | .object n =>
    match s.object? n with
    | some (.list _) => "list"
    | some (.dict _) => "dict"
    | some (.set _ isFixed) => if isFixed then "frozenset" else "set"
    | some (.stream _) => "generator"
    | some (.function _) => "function"
    | some (.kind _) => "type"
    | some (.instance' k _) =>
      let full := (s.kind k).name
      ((full.splitOn ".").getLast?).getD full
    | some (.file f) => if f.isBinary then "_io.BufferedReader" else "_io.TextIOWrapper"
    | _ => "object"
where
  plainKinds : List String :=
    ["int", "float", "str", "bytes", "bool", "list", "dict", "tuple", "set", "frozenset", "range",
     "type", "object", "slice", "function", "builtin_function_or_method", "method", "module",
     "generator", "ellipsis", "dict_keys", "dict_values", "dict_items"]

end State

/-- Makes an object and gives its value. -/
def make (o : Object) : Step Value :=
  modifyGet fun s =>
    let (n, s) := s.add o
    (.object n, s)

def makeList (items : List Value) : Step Value := make (.list items.toArray)

/-- Makes a fault with what is known of it. -/
def makeFault (kind : String) (arguments : List Value) (fields : List (String × Value)) :
    Step Nat := do
  modifyGet fun s => s.add (.instance' (faultNumber kind) (("args", .tuple arguments) :: fields))

/-- Goes over to the handling of a fault, and keeps where it came up. -/
def raise {α : Type} (n : Nat) : Step α := do
  modify fun s =>
    let before := (s.traces.lookup n).getD []
    let causes := match s.handling.head? with
      | some m =>
        if m = n || (s.causes.lookup n).isSome then s.causes else (n, m, false) :: s.causes
      | none => s.causes
    { s with
      traces := (n, .own s.frame.name s.frame.place :: before) :: s.traces.filter fun e => e.1 != n
      causes := causes }
  throw (.fault n)

def failWith {α : Type} (kind : String) (message : Text) : Step α := do
  raise (← makeFault kind [.text message] [])

def fail {α : Type} (kind : String) (message : String) : Step α := failWith kind message.toList

def typeFault {α : Type} (message : String) : Step α := fail "TypeError" message

/-- The kind of a fault that the system tells about. -/
def failureKind (f : Failure) : String :=
  match f with
  | .notFound => "FileNotFoundError"
  | .exists => "FileExistsError"
  | .denied => "PermissionError"
  | .notPermitted => "PermissionError"
  | .isDirectory => "IsADirectoryError"
  | .notDirectory => "NotADirectoryError"
  | .unread => "BrokenPipeError"
  | _ => "OSError"

/-- Fails as the system tells, with the paths in question. -/
def failOn {α : Type} (f : Failure) (first : Value) (second : Value := .none) : Step α := do
  match f with
  | .nameHoldsNul => fail "ValueError" "embedded null byte"
  | _ =>
    let number := Value.int (f.number?.getD 0)
    let reason := Value.text f.reason
    raise (← makeFault (failureKind f) [number, reason]
      [("errno", number), ("strerror", reason), ("filename", first), ("filename2", second)])

/-- A place outside of the recipe, with what stands there and the part of it that was at
work. -/
def foreignPlace (file : String) (line : Nat) (function source part : String) : List String :=
  let head := "  File \"" ++ file ++ "\", line " ++ toString line ++ ", in " ++ function
  if source = "" then [head]
  else if part = "" then [head, "    " ++ source]
  else
    let before := ((source.splitOn part).headD "").length
    [head, "    " ++ source, String.ofList (List.replicate (4 + before) ' ' ++
      List.replicate part.length '^')]

/-- Does something at places outside of the recipe, which are told if it fails. -/
def within {α : Type} (lines : List String) (act : Step α) : Step α :=
  tryCatch act fun stop => do
    match stop with
    | .fault n =>
      modify fun s =>
        let trace := (s.traces.lookup n).getD []
        let isOwn (o : Origin) : Bool := match o with
          | .own _ _ => true
          | .foreign _ => false
        let inner := (trace.reverse.takeWhile fun o => !isOwn o).reverse
        let outer := trace.take (trace.length - inner.length)
        { s with
          traces := (n, outer ++ .foreign lines :: inner) :: s.traces.filter fun e => e.1 != n }
      throw stop
    | stop => throw stop

/-- Notes where the function that is at work has come to. -/
def reach (span : Span) : Step Unit :=
  modify fun s => { s with frame := { s.frame with place := span } }

def listOf (n : Nat) : Step (Array Value) := do
  match (← get).object? n with
  | some (.list a) => return a
  | _ => return #[]

end Weave.Recipe

