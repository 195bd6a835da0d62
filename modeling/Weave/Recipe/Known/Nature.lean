import Weave.Recipe.Known.Process

/-!
# Functions about the kinds of values

What kind a value has, what belongs to it, and how a recipe ends.
-/
namespace Weave.Recipe.Known

/-- Whether a value is of a kind. -/
def isOfKind (s : State) (v kind : Value) : Bool :=
  match kind with
  | .object k =>
    match v with
    | .object n =>
      match s.object? n with
      | some (.instance' j _) => s.isKindOf j k
      | _ => false
    | _ => false
  | .known "object" => true
  | .known "pathlib.Path" => s.kindName v = "PosixPath"
  | .known name => s.kindName v = name || (name = "int" && s.kindName v = "bool")
  | _ => false

/-- Kinds: one, or several in tuples. -/
def kindsOf : Nat → Value → List Value
  | fuel + 1, .tuple ks => ks.flatMap (kindsOf fuel)
  | _, v => [v]

def leave : Known := fun g => do
  raise (← makeFault "SystemExit" g.plain [("code", g.value 0 "")])

/-- The kinds that stand for a kind of values. -/
def kindValue (s : State) (v : Value) : Value :=
  match s.kindOf? v with
  | some k => .object k
  | none => .known (s.kindName v)

def natureFunctions : List (String × Known) :=
  [("type", fun g => do return kindValue (← get) (← g.need 0)),
   ("object", fun _ => make (.instance' (faultNumber "object") [])),
   ("isinstance", fun g => do
     let v ← g.need 0
     let kinds := kindsOf 20 (← g.need 1)
     let s ← get
     return .bool (kinds.any fun k => isOfKind s v k)),
   ("issubclass", fun g => do
     let s ← get
     match ← g.need 0 with
     | .object n =>
       return .bool ((kindsOf 20 (← g.need 1)).any fun k => match k with
         | .object m => s.isKindOf n m
         | .known name => name = "object"
         | _ => false)
     | v =>
       let kinds := kindsOf 20 (← g.need 1)
       return .bool (kinds.any (s.isEqual v))),
   ("callable", fun g => do
     match ← g.need 0 with
     | .known _ => return .bool true
     | .bound _ _ => return .bool true
     | .object n =>
       match (← get).object? n with
       | some (.function _) => return .bool true
       | some (.kind _) => return .bool true
       | _ => return .bool (← ownMethod? (.object n) "__call__").isSome
     | _ => return .bool false),
   ("getattr", fun g => do
     let name := String.ofList (← g.text 1)
     let v ← g.need 0
     match g.plain[2]? with
     | none => g.again (.attribute v name)
     | some standard =>
       tryCatch (g.again (.attribute v name)) fun stop => do
         match stop with
         | .fault n => if ← isFault n "AttributeError" then return standard else throw stop
         | stop => throw stop),
   ("hasattr", fun g => do
     let name := String.ofList (← g.text 1)
     let v ← g.need 0
     tryCatch (do
       let _ ← g.again (.attribute v name)
       return .bool true) fun stop => do
         match stop with
         | .fault n => if ← isFault n "AttributeError" then return .bool false else throw stop
         | stop => throw stop),
   ("setattr", fun g => do
     let name := String.ofList (← g.text 1)
     let x ← g.need 2
     match ← g.need 0 with
     | .object n =>
       modify fun s => match s.object? n with
         | some (.instance' k fields) =>
           s.put n (.instance' k (fields.filter (fun e => e.1 != name) ++ [(name, x)]))
         | some (.kind k) =>
           s.put n (.kind { k with members := (name, x) :: k.members.filter fun e => e.1 != name })
         | _ => s
     | _ => pure ()
     return .none),
   ("vars", fun g => do makeDict (← fieldsOf (← g.need 0))),
   ("id", fun g => do
     match ← g.need 0 with
     | .object n => return .int (140000000000000 + 64 * n)
     | _ => return .int 140000000000000),
   ("hash", fun g => do
     match ← g.need 0 with
     | .int n => return .int n
     | _ => return .int 0),
   ("exit", leave), ("quit", leave), ("sys.exit", leave),
   ("sys.setrecursionlimit", fun _ => return .none),
   ("sys.getrecursionlimit", fun _ => return .int 1000),
   ("sys.getdefaultencoding", fun _ => return .text "utf-8".toList),
   ("sys.getfilesystemencoding", fun _ => return .text "utf-8".toList),
   ("sys.exc_info", fun _ => do
     match (← get).handling.head? with
     | some n => return .tuple [kindValue (← get) (.object n), .object n, .none]
     | none => return .tuple [.none, .none, .none]),
   ("atexit.register", fun g => do
     let f ← g.need 0
     modify fun s => { s with farewells := (f, g.plain.drop 1) :: s.farewells }
     return f),
   ("signal.signal", fun _ => return .none),
   ("BaseException.with_traceback", fun g => g.self),
   ("BaseException.__init__", fun g => do
     match ← g.self with
     | .object n =>
       modify fun s => match s.object? n with
         | some (.instance' k fields) =>
           s.put n (.instance' k (("args", .tuple (g.plain.drop 1))
             :: fields.filter fun e => e.1 != "args"))
         | _ => s
     | _ => pure ()
     return .none),
   ("object.__init__", fun _ => return .none)]

/-- All functions that are always there, by name. -/
def table : List (String × Known) :=
  textFunctions ++ numberFunctions ++ listFunctions ++ dictFunctions ++ setFunctions
    ++ iterationFunctions ++ dataFunctions ++ pathFunctions ++ pathKindFunctions
    ++ methodsOf pathMethods ++ globFunctions ++ diskFunctions ++ copyFunctions
    ++ methodsOf pathDiskMethods ++ streamFunctions ++ processFunctions ++ natureFunctions

/-- The modules that there are. -/
def modules : List String :=
  ["sys", "os", "os.path", "json", "time", "math", "copy", "pathlib", "shutil", "subprocess",
   "glob", "io", "atexit", "signal", "typing", "__future__", "re", "datetime", "argparse", "collections",
   "functools", "itertools", "random", "string", "hashlib", "platform", "textwrap", "base64",
   "logging", "warnings", "tempfile", "uuid", "csv", "traceback", "socket", "threading", "struct",
   "operator", "types", "errno", "stat", "fnmatch", "shlex", "select", "fcntl", "pprint", "decimal",
   "fractions", "statistics", "contextlib", "dataclasses", "enum", "abc", "inspect", "unittest",
   "urllib", "http", "asyncio", "concurrent", "multiprocessing", "queue", "getopt", "getpass",
   "locale", "codecs", "unicodedata", "bisect", "heapq", "calendar", "zlib", "gzip", "zipfile",
   "tarfile", "pickle", "gc", "weakref", "ast", "dis", "importlib", "pwd", "resource", "secrets"]

end Weave.Recipe.Known
