import Weave.Recipe.Known.Disk

/-!
# Reading and printing in recipes
-/
namespace Weave.Recipe.Known

/-- Prints values to a file, or to anything that texts can be written to. -/
def printValues : Known := fun g => do
  let s ← get
  let mark (name : String) (standard : Text) : Step Text := do
    match g.named.lookup name with
    | some (.text t) => return t
    | some .none => return standard
    | none => return standard
    | some v => typeFault (name ++ " must be None or a string, not " ++ s.kindName v)
  let between ← mark "sep" [' ']
  let ending ← mark "end" ['\n']
  let parts ← g.plain.mapM (textOf g.again)
  let t := Text.joinWith between parts ++ ending
  let goal ← match g.named.lookup "file" with
    | some .none => pure ((s.constants.lookup "sys.stdout").getD .none)
    | some v => pure v
    | none => pure ((s.constants.lookup "sys.stdout").getD .none)
  match goal with
  | .object n =>
    match s.object? n with
    | some (.file f) =>
      let _ ← f.write (.text t)
    | _ =>
      let f ← g.again (.attribute goal "write")
      let _ ← g.call f [.text t]
  | v =>
    let f ← g.again (.attribute v "write")
    let _ ← g.call f [.text t]
  return .none

/-- A line of the input without its end. -/
def inputLine : Known := fun g => do
  if let some v := g.plain[0]? then
    let t ← textOf g.again v
    task (Job.print (Bytes.ofText t))
  match (← get).constants.lookup "sys.stdin" with
  | some (.object n) =>
    match ← (← fileOf n).takeLine with
    | .text [] => fail "EOFError" "EOF when reading a line"
    | .text t => return .text (if t.getLast? = some '\n' then t.dropLast else t)
    | v => return v
  | _ => fail "RuntimeError" "input(): lost sys.stdin"

/-- Whether a text tells how a file can be opened. -/
def isMode (mode : Text) : Bool :=
  mode.all ("rwaxbt+".toList.contains ·)
    && (mode.filter fun c => "rwax".toList.contains c).length = 1

def openFile : Known := fun g => do
  let v := g.value 0 "file"
  let mode := match g.value 1 "mode" with
    | .text m => m
    | _ => ['r']
  if !isMode mode then
    failWith "ValueError" ("invalid mode: ".toList ++ Shown.quoted false mode)
  match v with
  | .int n =>
    make (.file
      { name := v, mode := mode, outlet := .channel n.toNat, isBinary := mode.contains 'b' })
  | .bool _ => typeFault "integer argument expected"
  | v =>
    let path ← { g with plain := [v] }.path 0
    OpenFile.opened v path mode

/-- A method of a file. -/
def ofFile (f : Given → Nat → OpenFile → Step Value) : Known := fun g => do
  match ← g.self with
  | .object n => f g n (← fileOf n)
  | v => typeFault ("descriptor does not apply to a '" ++ (← get).kindName v ++ "' object")

/-- The first characters or bytes of what is left. -/
def takeSome (f : OpenFile) (count : Nat) : Step Value := do
  f.checkReads
  let n ← f.stream
  let job ← task get
  match job.toHost.unread n with
  | .error failure => failOn failure .none
  | .ok t =>
    let taken := if f.isBinary then t.take count else Bytes.ofText ((Bytes.toText t).take count)
    task (set { job with toHost := job.toHost.skip n taken.length })
    f.value taken

def fileMethods : List (String × Known) :=
  [("read", ofFile fun g _ f => do
     match (g.value? 1 "size").bind position? with
     | some n => if n < 0 then f.takeAll else takeSome f n.toNat
     | none => f.takeAll),
   ("readline", ofFile fun _ _ f => f.takeLine),
   ("readlines", ofFile fun _ _ f => do makeList (← linesOf f maxItems)),
   ("write", ofFile fun g _ f => do f.write (← g.need 1)),
   ("writelines", ofFile fun g _ f => do
     for v in ← itemsOf g.again (← g.need 1) do
       let _ ← f.write v
     return .none),
   ("close", ofFile fun _ n f => do
     f.close n
     return .none),
   ("flush", ofFile fun _ _ f => do
     if f.outlet = .channel 1 then task Job.flush
     return .none),
   ("seek", ofFile fun g _ f => do
     let offset ← g.int 1
     let (now, size) ← f.position
     let base : Int := match (g.value? 2 "whence").bind position? with
       | some 1 => now
       | some 2 => size
       | _ => 0
     f.seek (base + offset).toNat
     return .int (base + offset)),
   ("tell", ofFile fun _ _ f => do return .int (← f.position).1),
   ("truncate", ofFile fun g _ f => do
     let (now, _) ← f.position
     let length := (((g.value? 1 "size").bind position?).getD now).toNat
     let n ← f.stream
     task (modify fun j =>
       match (j.toHost.streams.lookup n).map fun (s : Weave.Stream) => s.target with
       | some (.file place) =>
         match j.files.at? place with
         | some e =>
           let bytes := ((Weave.Stream.bytesOf? e).getD .empty).extract 0 length
           let entry := { e with content := .file bytes }
           { j with files := j.files.replace place entry }
         | none => j
       | _ => j)
     return .int length),
   ("fileno", ofFile fun _ _ f => do
     match f.outlet with
     | .channel n => return .int n
     | .stream n => return .int (n + 3)
     | .closed => fail "ValueError" "I/O operation on closed file"),
   ("isatty", ofFile fun _ _ _ => return .bool false),
   ("readable", ofFile fun _ _ f => return .bool (f.mode.contains 'r')),
   ("writable", ofFile fun _ _ f => return .bool (!f.mode.contains 'r' || f.mode.contains '+')),
   ("reconfigure", ofFile fun _ _ _ => return .none),
   ("__enter__", ofFile fun _ n _ => return .object n),
   ("__exit__", ofFile fun _ n f => do
     f.close n
     return .none)]

/-- What a file has besides its methods. -/
def fileAttribute? (f : OpenFile) (name : String) : Step (Option Value) := do
  match name with
  | "name" => return some f.name
  | "mode" => return some (.text f.mode)
  | "closed" => return some (.bool (f.outlet = .closed))
  | "encoding" => return some (.text "utf-8".toList)
  | "errors" => return some (.text "strict".toList)
  | "newlines" => return some .none
  | "buffer" => return some (← make (.file { f with isBinary := true }))
  | _ => return none

/-- The names of the kinds of files. -/
def fileKinds : List String := ["_io.TextIOWrapper", "_io.BufferedReader"]

def streamFunctions : List (String × Known) :=
  [("print", printValues), ("input", inputLine), ("open", openFile), ("io.open", openFile)]
  ++ fileKinds.flatMap fun kind => fileMethods.map fun (n, f) => (kind ++ "." ++ n, f)

end Weave.Recipe.Known
