import Weave.Recipe.Known.Stream
import Weave.Utility.Starting

/-!
# Starting programs in recipes

A program gets channels of its own where that is wanted: what it prints can be kept, or
goes to a file or to nobody.
-/
namespace Weave.Recipe.Known

/-- Where a channel of a program leads to. -/
inductive Lead where
  /-- Where that of the recipe leads to. -/
  | same
  | kept
  | nowhere
  /-- Where what is printed goes. -/
  | joined
  | stream (n : Nat)

def leadOf (v : Value) : Step Lead := do
  match v with
  | .none => return .same
  | .int (-1) => return .kept
  | .int (-2) => return .joined
  | .int (-3) => return .nowhere
  | .object n => return .stream (← (← fileOf n).stream)
  | v => typeFault ("'" ++ (← get).kindName v ++ "' object has no attribute 'fileno'")

/-- What a program that has been started leaves behind. -/
structure Ended where
  status : Int
  output : Option Bytes
  errors : Option Bytes

/-- The variables that programs are given. -/
def environment (v : Value) : Step (List (Bytes × Bytes)) := do
  let s ← get
  let asked := match v with
    | .object n => n
    | _ =>
      match s.constants.lookup "os.environ" with
      | some (.object n) => n
      | _ => s.heap.size
  return (← entriesOf asked).toList.filterMap fun
    | (.text k, .text x) => some (Bytes.ofText k, Bytes.ofText x)
    | _ => none

/-- Starts a program and waits for it. -/
def runProgram (words : List Bytes) (input : Option Bytes) (leads : Lead × Lead × Lead)
    (variables' : List (Bytes × Bytes)) (dir : Option Text) : Step (Except Failure Ended) := do
  let launch := (← get).setting.launch
  let job ← task (modifyGet fun j => (j, { j with held := [] }))
  let add (host : Host) (s : Stream) : Option Nat × Host :=
    let (n, host) := host.add s
    (some n, host)
  let wire (host : Host) (lead : Lead) (reads : Bool) : Option Nat × Host :=
    match lead with
    | .same => (none, host)
    | .joined => (none, host)
    | .stream n => (some n, host)
    | .nowhere => add host { target := .device .null, reads := reads, writes := !reads }
    | .kept =>
      if reads then add host (.ofText [])
      else add host { target := .pieces [] (2 ^ 24) false, writes := true }
  let (first, host) := match input with
    | some t => add job.toHost (.ofText t)
    | none => wire job.toHost leads.1 true
  let (second, host) := wire host leads.2.1 false
  let (third, host) := wire host leads.2.2 false
  let third := match leads.2.2 with
    | .joined => second.or (job.channels.lookup 1)
    | _ => third
  let put (c : Nat) (n : Option Nat) (channels : Channels) : Channels :=
    match n with
    | some n => (c, n) :: channels.filter fun e => e.1 != c
    | none => channels
  let channels := put 0 first (put 1 second (put 2 third job.channels))
  let entered ← match dir with
    | none => pure host.files
    | some dir =>
      match host.files.enter dir with
      | .ok files => pure files
      | .error f =>
        task (set job)
        failOn f (.text dir)
  task (set { job with
    toHost := { host with files := entered }, channels := channels, held := [],
    environment := variables' })
  let failure ← task (launch (words.headD []) (words.drop 1))
  let after ← task get
  let kept (n : Option Nat) (lead : Lead) : Option Bytes :=
    match lead, n.bind fun n => after.toHost.streams.lookup n with
    | .kept, some ⟨.pieces held _ _, _, _, _, _⟩ => some (Host.flatten held)
    | _, _ => none
  let isOld (n : Nat) : Bool := n < job.toHost.nextNumber
  let back := { after.toHost.closeAllBut isOld with
    files := { after.toHost.files with here := job.files.here } }
  task (set { job with toHost := back })
  match failure with
  | some f => return .error f
  | none =>
    let status : Int := match after.signal with
      | some signal => -signal
      | none => after.status
    return .ok ⟨status, kept second leads.2.1, kept third leads.2.2⟩

/-- The words of a command: one text for the shell, or a list. -/
def commandWords (g : Given) (isShell : Bool) : Step (List Bytes) := do
  let word (v : Value) : Step Bytes := do
    match v with
    | .text t => return Bytes.ofText t
    | .path t => return Bytes.ofText t
    | .bytes t => return t
    | v =>
      typeFault ("expected str, bytes or os.PathLike object, not " ++ (← get).kindName v)
  match g.value 0 "args" with
  | .text t =>
    return if isShell then ["/bin/sh".toList, "-c".toList, Bytes.ofText t] else [Bytes.ofText t]
  | .path t => return [Bytes.ofText t]
  | v =>
    let words ← (← itemsOf g.again v).mapM word
    return if isShell then "/bin/sh".toList :: "-c".toList :: words else words

/-- Where programs are started outside of recipes. -/
def startPlaces : List String :=
  let file := "/usr/lib/python3.12/subprocess.py"
  foreignPlace file 1026 "__init__"
      "self._execute_child(args, executable, preexec_fn, close_fds," ""
    ++ foreignPlace file 1955 "_execute_child"
      "raise child_exception_type(errno_num, err_msg, err_filename)" ""

def runPlace : List String :=
  foreignPlace "/usr/lib/python3.12/subprocess.py" 548 "run"
    "with Popen(*popenargs, **kwargs) as process:" "Popen(*popenargs, **kwargs)"

/-- Starts the program that a function is asked for. -/
def started (g : Given) (keepsOutput : Bool) : Step Ended := do
  let isShell ← g.isSet 100 "shell" false
  let captures ← g.isSet 100 "capture_output" false
  let words ← commandWords g isShell
  let input := match g.named.lookup "input" with
    | some (.text t) => some (Bytes.ofText t)
    | some (.bytes t) => some t
    | _ => none
  let lead (name : String) (keeps : Bool) : Step Lead := do
    if keeps then return .kept
    leadOf ((g.named.lookup name).getD .none)
  let leads :=
    (← lead "stdin" false, ← lead "stdout" (captures || keepsOutput), ← lead "stderr" captures)
  let dir ← match g.named.lookup "cwd" with
    | some (.text t) => pure (some t)
    | some (.path t) => pure (some t)
    | _ => pure none
  match ← runProgram words input leads (← environment ((g.named.lookup "env").getD .none)) dir with
  | .ok e => return e
  | .error f => within startPlaces (failOn f (.text (Bytes.toText (words.headD []))))

/-- What has been kept, as a text or as bytes. -/
def keptValue (g : Given) (t : Option Bytes) : Step Value := do
  let isText := (← g.isSet 100 "text" false) || (← g.isSet 100 "universal_newlines" false)
    || (g.named.lookup "encoding").isSome
  match t with
  | none => return .none
  | some t => if isText then return .text (plainLines (← decoded t)) else return .bytes t

/-- Fails as a program has failed. -/
def failAs {α : Type} (g : Given) (e : Ended) (line : Nat) (function source : String) : Step α := do
  let command ← textOf g.again (g.value 0 "args")
  let output ← keptValue g e.output
  let errors ← keptValue g e.errors
  let reason := if e.status < 0 then
      let n := e.status.natAbs
      "died with <Signals.SIG".toList ++ Signal.name n ++ ": ".toList ++ Text.ofNat n ++ ">.".toList
    else "returned non-zero exit status ".toList ++ Text.ofNat e.status.toNat ++ ['.']
  let message := "Command '".toList ++ command ++ "' ".toList ++ reason
  within (foreignPlace "/usr/lib/python3.12/subprocess.py" line function source "") do
    raise (← makeFault "subprocess.CalledProcessError" [.text message]
      [("returncode", .int e.status), ("cmd", g.value 0 "args"), ("output", output),
       ("stdout", output), ("stderr", errors)])

/-- The number of the program that runs the recipe. -/
def ownNumber : Nat := 1001

/-- Does what a signal does. -/
def die (signal : Int) : Step Value := do
  let n := signal.toNat
  if n = 0 || Signal.isHarmless n then return .none
  else if n = 2 then fail "KeyboardInterrupt" ""
  else
    task (modify fun j => { j with held := [], signal := some n })
    throw (.quit (Signal.statusOf n))

def processFunctions : List (String × Known) :=
  [("subprocess.run", fun g => do
     let e ← within runPlace (started g false)
     if (← g.isSet 100 "check" false) && e.status ≠ 0 then
       failAs g e 571 "run" "raise CalledProcessError(retcode, process.args,"
     make (.instance' (faultNumber "subprocess.CompletedProcess")
       [("args", g.value 0 "args"), ("returncode", .int e.status),
        ("stdout", ← keptValue g e.output), ("stderr", ← keptValue g e.errors)])),
   ("subprocess.call", fun g => do return .int (← started g false).status),
   ("subprocess.check_call", fun g => do
     let e ← started g false
     if e.status ≠ 0 then failAs g e 413 "check_call" "raise CalledProcessError(retcode, cmd)"
     return .int 0),
   ("subprocess.check_output", fun g => do
     let e ← started g true
     if e.status ≠ 0 then
       within (foreignPlace "/usr/lib/python3.12/subprocess.py" 466 "check_output"
         "return run(*popenargs, stdout=PIPE, timeout=timeout, check=True,"
         "run(*popenargs, stdout=PIPE, timeout=timeout, check=True,")
         (failAs g e 571 "run" "raise CalledProcessError(retcode, process.args,")
     keptValue g e.output),
   ("subprocess.getoutput", fun g => do
     let e ← started { g with named := [("shell", .bool true), ("stderr", .int (-2))] } true
     let t := Bytes.toText (e.output.getD [])
     return .text (if t.getLast? = some '\n' then t.dropLast else t)),
   ("subprocess.Popen", fun g => do
     let e ← started g false
     make (.instance' (faultNumber "subprocess.Popen")
       [("args", g.value 0 "args"), ("returncode", .int e.status), ("pid", .int 1002),
        ("stdout", ← keptValue g e.output), ("stderr", ← keptValue g e.errors)])),
   ("subprocess.Popen.wait", fun g => do g.again (.attribute (← g.self) "returncode")),
   ("subprocess.Popen.poll", fun g => do g.again (.attribute (← g.self) "returncode")),
   ("subprocess.Popen.communicate", fun g => do
     let v ← g.self
     return .tuple [← g.again (.attribute v "stdout"), ← g.again (.attribute v "stderr")]),
   ("subprocess.Popen.__enter__", fun g => g.self),
   ("subprocess.Popen.__exit__", fun _ => return .none),
   ("subprocess.CompletedProcess.check_returncode", fun g => do
     match ← g.again (.attribute (← g.self) "returncode") with
     | .int 0 => return .none
     | _ => fail "subprocess.CalledProcessError" "Command returned non-zero exit status"),
   ("os.system", fun g => do
     let t ← g.text 0
     let words := ["sh".toList, "-c".toList, Bytes.ofText t]
     match ← runProgram words none (.same, .same, .same) (← environment .none) none with
     | .ok e => return .int (if e.status < 0 then -e.status else e.status * 256)
     | .error _ => return .int (127 * 256)),
   ("os.popen", fun g => do
     let t ← g.text 0
     let words := ["sh".toList, "-c".toList, Bytes.ofText t]
     let e ← runProgram words none (.same, .kept, .same) (← environment .none) none
     let printed := (e.toOption.bind (·.output)).getD []
     let n ← task (modifyGet fun j =>
       let (n, host) := j.toHost.add (.ofText printed)
       (n, { j with toHost := host }))
     make (.file { name := .none, mode := ['r'], outlet := .stream n, isBinary := false })),
   ("os.getenv", fun g => do
     let name ← g.text 0
     return (((← environment .none).lookup (Bytes.ofText name)).map fun t =>
       .text (Bytes.toText t)).getD (g.value 1 "default")),
   ("os.getpid", fun _ => return .int ownNumber), ("os.getppid", fun _ => return .int 1000),
   ("os.getuid", fun _ => return .int 0), ("os.geteuid", fun _ => return .int 0),
   ("os.getgid", fun _ => return .int 0), ("os.cpu_count", fun _ => return .int 1),
   ("os.kill", fun g => do
     if (← g.int 0) != ownNumber then
       raise (← makeFault "ProcessLookupError" [.int 3, .text "No such process".toList] [])
     die (← g.int 1)),
   ("signal.raise_signal", fun g => do die (← g.int 0)),
   ("os.abort", fun _ => die 6),
   ("os._exit", fun g => do
     task (modify fun j => { j with held := [] })
     throw (.quit ((← g.int 0) % 256).toNat)),
   ("time.sleep", fun g => do
     let x := (← number g 0 "an integer is required").toFloat
     match Number.truncated? (x * 1000000000) with
     | some n =>
       if n < 0 then fail "ValueError" "sleep length must be non-negative"
       task (Utility.pass n.toNat)
       return .none
     | none => return .none),
   ("time.time", fun _ => do return .float (seconds (← task get).files.now)),
   ("time.monotonic", fun _ => do return .float (seconds (← task get).files.now)),
   ("time.perf_counter", fun _ => do return .float (seconds (← task get).files.now)),
   ("time.time_ns", fun _ => do return .int (← task get).files.now)]

end Weave.Recipe.Known
