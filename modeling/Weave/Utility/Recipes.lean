import Weave.Recipe.Read.Statement
import Weave.Recipe.Trace

/-!
# The program for recipes

Its words give a recipe, or the file that holds one; otherwise it is read from the input.
-/
namespace Weave.Utility

open Job Recipe

/-- Where a recipe comes from. -/
inductive RecipeSource where
  | file (name : Bytes)
  | word (t : Bytes)
  | input
  | module (name : Bytes)
deriving Repr, DecidableEq

/-- What the words ask for. -/
structure RecipeWords where
  source : RecipeSource
  /-- What the recipe is called in its own words. -/
  title : Bytes
  rest : List Bytes

/-- What else the words can come to. -/
inductive RecipeRefusal where
  | version
  | help
  | unknown (what : Bytes)
  | lacks (letter : Char)
deriving Repr, DecidableEq

namespace RecipeWords

/-- The options that change nothing here. -/
def plainLetters : List Char := "bBdEiIOPqRsStuvx".toList

/-- Reads the letters of one word. -/
def readLetters (rest : List Bytes) : Bytes → Except RecipeRefusal (Option RecipeWords × List Bytes)
  | [] => .ok (none, rest)
  | c :: cs =>
    let value : Except RecipeRefusal (Bytes × List Bytes) :=
      if cs != [] then .ok (cs, rest)
      else
        match rest with
        | v :: rest => .ok (v, rest)
        | [] => .error (.lacks c)
    if c = 'c' then value.map fun (v, rest) => (some ⟨.word v, "-c".toList, rest⟩, rest)
    else if c = 'm' then value.map fun (v, rest) => (some ⟨.module v, v, rest⟩, rest)
    else if c = 'W' || c = 'X' then value.map fun (_, rest) => (none, rest)
    else if c = 'V' then .error .version
    else if c = 'h' || c = '?' then .error .help
    else if plainLetters.contains c then readLetters rest cs
    else .error (.unknown ("Unknown option: -".toList ++ [c]))

def read : Nat → List Bytes → Except RecipeRefusal RecipeWords
  | 0, _ => .ok ⟨.input, [], []⟩
  | fuel + 1, words =>
    match words with
    | [] => .ok ⟨.input, [], []⟩
    | ['-'] :: rest => .ok ⟨.input, ['-'], rest⟩
    | ['-', '-'] :: name :: rest => .ok ⟨.file name, name, rest⟩
    | ['-', '-'] :: [] => .ok ⟨.input, [], []⟩
    | ('-' :: '-' :: name) :: rest =>
      if name = "version".toList then .error .version
      else if name = "help".toList then .error .help
      else
        let _ := rest
        .error (.unknown ("unknown option --".toList ++ name))
    | ('-' :: letters) :: rest => do
      match ← readLetters rest letters with
      | (some w, _) => return w
      | (none, rest) => read fuel rest
    | name :: rest => .ok ⟨.file name, name, rest⟩

end RecipeWords

/-- What is said behind a refusal. -/
def recipeUsage (name : Bytes) : List Bytes :=
  ["usage: ".toList ++ name ++ " [option] ... [-c cmd | -m mod | file | -] [arg] ...".toList,
   "Try \u0060python -h' for more information.".toList]

/-- What the modules hold besides functions. -/
def recipeConstants : List (String × Value) :=
  let text (name t : String) : String × Value := (name, .text t.toList)
  let int (name : String) (n : Int) : String × Value := (name, .int n)
  [text "os.name" "posix", text "os.sep" "/", text "os.linesep" "\n", text "os.curdir" ".",
   text "os.pardir" "..", text "os.devnull" "/dev/null", text "os.pathsep" ":",
   text "os.extsep" ".",
   text "os.path.sep" "/", int "os.F_OK" 0, int "os.X_OK" 1, int "os.W_OK" 2, int "os.R_OK" 4,
   text "sys.platform" "linux", text "sys.byteorder" "little", int "sys.maxsize" (2 ^ 63 - 1),
   text "sys.executable" "/usr/bin/python3",
   text "sys.version" "3.12.3 (main, Mar 23 2026) [GCC 13.3.0]",
   ("sys.version_info", .tuple [.int 3, .int 12, .int 3, .text "final".toList, .int 0]),
   int "sys.maxunicode" 0x10FFFF, int "subprocess.PIPE" (-1), int "subprocess.STDOUT" (-2),
   int "subprocess.DEVNULL" (-3), ("math.pi", .float 3.141592653589793),
   ("math.e", .float 2.718281828459045), ("math.inf", .float (1 / 0)), ("math.nan", .float (0 / 0)),
   int "io.SEEK_SET" 0, int "io.SEEK_CUR" 1, int "io.SEEK_END" 2, int "os.SEEK_SET" 0,
   int "os.SEEK_END" 2] ++ (Signal.names.zipIdx 1).map fun (name, n) => int ("signal.SIG" ++ name) n

/-- What a recipe begins with. -/
def recipeStart (setting : Setting) (words : List Bytes) (variables' : List (Bytes × Bytes))
    (isFile : Bool) : Recipe.State :=
  let names : List (String × Value) := [("__name__", .text "__main__".toList), ("__doc__", .none)]
    ++ if isFile then [("__file__", .text setting.name)] else []
  let s : Recipe.State :=
    { setting := setting, heap := firstObjects names
      frame := { name := "<module>", scope := topScope } }
  let value (v : Bytes) : Value := .text (Bytes.toText v)
  let (arguments, s) := s.add (.list (words.map value).toArray)
  let (given, s) := s.add (.dict (variables'.map fun (k, v) => (value k, value v)).toArray)
  let file (name mode : String) (channel : Nat) : Object :=
    .file { name := .text name.toList, mode := mode.toList, outlet := .channel channel,
            isBinary := false }
  let (input, s) := s.add (file "<stdin>" "r" 0)
  let (output, s) := s.add (file "<stdout>" "w" 1)
  let (errors, s) := s.add (file "<stderr>" "w" 2)
  let objects : List (String × Nat) :=
    [("sys.argv", arguments), ("os.environ", given), ("sys.stdin", input), ("sys.stdout", output),
     ("sys.stderr", errors), ("sys.__stdout__", output), ("sys.__stderr__", errors)]
  { s with constants := objects.map (fun (n, o) => (n, Value.object o)) ++ recipeConstants }

/-- Tells of a fault that nothing has handled, and gives the status that it ends with. -/
def concludeFault (n : Nat) : Recipe.Step Nat := do
  let again := Recipe.run maxRun
  if ← isFault n "SystemExit" then
    match (← fieldsOf (.object n)).lookup "code" with
    | some (.int k) => return (k % 256).toNat
    | some (.bool b) => return if b then 1 else 0
    | some .none => return 0
    | none => return 0
    | some v =>
      let t ← textOf again v
      Recipe.task (warn (Bytes.ofText t))
      return 1
  else
    for line in ← Trace.lines again 20 n do Recipe.task (warn (Bytes.ofText line))
    return 1

/-- Runs the statements of a recipe, and gives the status that it ends with. -/
def runRecipe (statements : List Statement) : Recipe.Step Nat := do
  let again := Recipe.run maxRun
  let guarded (act : Recipe.Step Unit) : Recipe.Step Nat :=
    tryCatch (do
      act
      return 0) fun stop => do
      match stop with
      | .fault n =>
        tryCatch (concludeFault n) fun _ => return 1
      | .quit status => throw (.quit status)
      | _ => return 0
  let status ← guarded (do
    let _ ← again (.body statements))
  for (f, arguments) in (← get).farewells do
    let _ ← guarded (do
      let _ ← again (.call f arguments []))
  return status

/-- Reads a recipe and runs it. -/
def startRecipe (launch : Launch) (title : Bytes) (words : List Bytes) (name : Text) (text : Bytes)
    (isFile : Bool) : Task Unit := do
  let job ← get
  let t := plainLines (Bytes.toText text)
  let lines := Text.splitOn '\n' t
  let setting : Setting :=
    { launch := launch, name := name, lines := lines, program := job.name }
  let refuse (f : Fault) : Task Unit := do
    for line in Trace.faultLines setting f do warn (Bytes.ofText line)
    leave 1
  if (decodeFault? (text.length + 1) 0 text).isSome then
    let before := (text.takeWhile fun c => c.toNat < 128)
    let c := (text.drop before.length).headD ' '
    let line := (before.filter (· = '\n')).length + 1
    warn ("SyntaxError: Non-UTF-8 code starting with '\\x".toList ++ Shown.coded 2 c.toNat
      ++ "' in file ".toList ++ Bytes.ofText name ++ " on line ".toList ++ Text.ofNat line
      ++ ", but no encoding declared".toList)
    leave 1
    return
  if t.contains '\x00' then
    let before := t.takeWhile (· ≠ '\x00')
    let line := (before.filter (· = '\n')).length + 1
    let shown := (before.reverse.takeWhile (· ≠ '\n')).reverse
    warn ("  File \"".toList ++ Bytes.ofText name ++ "\", line ".toList ++ Text.ofNat line)
    warn ("    ".toList ++ Bytes.ofText shown)
    warn "SyntaxError: source code cannot contain null bytes".toList
    leave 1
    return
  match Recipe.ofText t with
  | .error f => refuse f
  | .ok (statements, warnings) =>
    for (line, c) in warnings do
      warn (Bytes.ofText name ++ ':' :: Text.ofNat line
        ++ ": SyntaxWarning: invalid escape sequence '\\".toList
        ++ Bytes.ofText [c] ++ ['\''])
      let shown := ((lines[line - 1]?).getD []).dropWhile Known.isSpace
      warn ("  ".toList ++ Bytes.ofText (shown.reverse.dropWhile Known.isSpace).reverse)
    let shownLines := if isFile then lines else []
    let s :=
      recipeStart { setting with lines := shownLines } (title :: words) job.environment isFile
    let (result, _) ← (ExceptT.run (runRecipe statements)).run s
    match result with
    | .ok status => leave status
    | .error (.quit status) => leave status
    | .error _ => leave 1

/-- Runs a recipe. -/
def recipes : Starter := fun launch words => do
  let job ← get
  let own := if job.name.contains '/' then job.name else "/usr/bin/".toList ++ job.name
  match RecipeWords.read (words.length + 1) words with
  | .error .version => printLine "Python 3.12.3".toList
  | .error .help => printLine ((recipeUsage job.name).headD [])
  | .error (.unknown what) =>
    warn what
    for line in recipeUsage job.name do warn line
    leave 2
  | .error (.lacks c) =>
    warn ("Argument expected for the -".toList ++ [c] ++ " option".toList)
    for line in recipeUsage job.name do warn line
    leave 2
  | .ok w =>
    match w.source with
    | .word t => startRecipe launch w.title w.rest "<string>".toList (t ++ ['\n']) false
    | .input => startRecipe launch w.title w.rest "<stdin>".toList (← takeInput) false
    | .module name =>
      warn (own ++ ": No module named ".toList ++ name)
      leave 1
    | .file name =>
      let here := FileTree.pathOf job.files.here
      let path := if name = [] then here
        else if name.head? = some '/' then Bytes.toName name
        else (if here = ['/'] then [] else here) ++ '/' :: Bytes.toName name
      if job.files.isDirectory path then
        warn (own ++ ": can't find '__main__' module in '".toList ++ Bytes.ofText path ++ ['\''])
        leave 1
      else
        match ← read name with
        | .ok text => startRecipe launch w.title w.rest path text true
        | .error f =>
          warn (job.name ++ ": can't open file '".toList ++ Bytes.ofText path ++ "': [Errno ".toList
            ++ Text.ofNat (f.number?.getD 0) ++ "] ".toList ++ f.reason)
          leave 2

end Weave.Utility
