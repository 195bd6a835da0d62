import Weave.Shell.Description
import Weave.Shell.Ending
import Weave.Shell.Expand
import Weave.Shell.Inside
import Weave.Shell.Refusal

/-!
# Running scripts

Commands are run one after the other on the state of a shell. How deep a run goes is
bounded by a number; where it is used up, the script ends. A script that is started by
another one, and a program of the system, work on the same host and leave a status.

Commands that are joined by a pipe run one behind the other: the first one prints into a
stream with some room, and where that was not enough for the second one, both run again
with more room. A command that is not waited for runs at once if it takes no time, and
otherwise when the time has come for its end.
-/
namespace Weave.Shell

/-- How deep running goes at most. -/
def maxSteps : Nat := 10000000

/-- How many shells and functions may be inside of one another. -/
def maxDepth : Nat := 600

/-- How much a program may print at first that another one reads. -/
def smallRoom : Nat := 2 ^ 16

/-- How much it may print at last. -/
def greatRoom : Nat := 2 ^ 21

mutual

/-- Runs a command. A guarded one is a condition, whose failure is no reason to
end the script. -/
def run : Nat → Bool → Command → Step Unit
  | 0, _, _ => modify fun s => s.leave 2
  | fuel + 1, guarded, c => do
    match c with
    | .nothing => pure ()
    | .simple line settings words rs =>
      modify fun s => { s with line := line }
      runSimple fuel guarded settings words rs
      runDue fuel
      heed fuel
      settle guarded
    | .sequence a b =>
      run fuel guarded a
      if (← get).flow = .onward then run fuel guarded b
    | .both a b =>
      run fuel true a
      let s ← get
      if s.flow = .onward && s.status = 0 then run fuel guarded b
    | .either a b =>
      run fuel true a
      let s ← get
      if s.flow = .onward && s.status != 0 then run fuel guarded b
    | .negation a =>
      run fuel true a
      modify fun s =>
        if s.flow = .onward then { s with status := if s.status = 0 then 1 else 0 } else s
    | .aside a =>
      runAside fuel a
      heed fuel
    | .subshell a =>
      runApart fuel guarded a
      heed fuel
      settle guarded
    | .pipe a b =>
      let before ← get
      runPipe fuel before smallRoom a b
      heed fuel
      settle guarded
    | .choice condition yes no =>
      run fuel true condition
      let s ← get
      if s.flow = .onward then
        if s.status = 0 then run fuel guarded yes
        else
          match no with
          | .nothing => set { s with status := 0 }
          | no => run fuel guarded no
    | .loop succeeds condition body =>
      let before ← get
      set { before with loops := before.loops + 1 }
      runLoop fuel guarded succeeds condition body 0
      modify fun s => { s with loops := before.loops }
    | .each line name words body =>
      modify fun s => { s with line := line }
      let values ← match words with
        | none => pure (← get).arguments
        | some ws => expandAll fuel false ws
      let before ← get
      if before.flow = .onward then
        set { before with status := 0, loops := before.loops + 1 }
        runEach fuel guarded name values body
        modify fun s => { s with loops := before.loops }
    | .select line subject arms =>
      modify fun s => { s with line := line }
      let t ← Expand.text (catchOutput fuel) subject
      if (← get).flow = .onward then
        modify fun s => { s with status := 0 }
        runArms fuel guarded t arms
    | .define name body =>
      modify fun s =>
        let others := s.functions.filter fun f => f.1 != name
        { s with functions := (name, body) :: others, status := 0 }
    | .redirected line a rs =>
      modify fun s => { s with line := line }
      let before ← get
      if ← redirectAll fuel rs then
        run fuel guarded a
      modify (State.undoChannels before)

/-- Runs a command in a shell of its own, whose changes are lost. -/
def runInShell : Nat → Bool → Command → Step Unit
  | 0, _, _ => modify fun s => s.leave 2
  | fuel + 1, guarded, c => do
    let s ← get
    if maxDepth ≤ s.depth then set (s.leave 2)
    else
      let number := s.lastNumber + 1
      set { s with
        lastNumber := number
        number := number
        waiting := s.number :: s.waiting
        traps := s.traps.filter fun t => t.2 = []
        jobs := []
        depth := s.depth + 1 }
      run fuel guarded c
      finish fuel

def runApart : Nat → Bool → Command → Step Unit
  | 0, _, _ => modify fun s => s.leave 2
  | fuel + 1, guarded, c => do
    let before ← get
    runInShell fuel guarded c
    modify (outerSaid before)

/-- Runs a command that is not waited for. If it takes time, it is put off. -/
def runAside : Nat → Command → Step Unit
  | 0, _ => modify fun s => s.leave 2
  | fuel + 1, c => do
    let before ← get
    set (before.leadToNew 0 (.ofText []))
    runInShell fuel true c
    let after ← get
    let number := before.lastNumber + 1
    let status := endStatus after
    if after.files.now = before.files.now then
      modify (outer before)
      modify (State.undoChannels before)
      modify fun s => { s with
        status := 0, jobs := number :: s.jobs, ended := (number, status) :: s.ended }
    else
      let deferred : Deferred :=
        { number, start := before.files.now, finish := after.files.now, here := before.files.here
          process := before.toProcess, command := c }
      set { before with
        lastNumber := after.lastNumber, status := 0, jobs := number :: before.jobs
        deferred := before.deferred ++ [deferred] }

/-- Brings a command to its end that was put off. -/
def runDeferred : Nat → Deferred → Step Unit
  | 0, _ => modify fun s => s.leave 2
  | fuel + 1, d => do
    let before ← get
    set ((beside before d).leadToNew 0 (.ofText []))
    run fuel true d.command
    finish fuel
    modify fun after => besideEnded before after d

/-- Brings those to their end that concern one, the first to end first. -/
def runConcerned : Nat → (Deferred → Bool) → Step Unit
  | 0, _ => pure ()
  | fuel + 1, concerns => do
    match earliest? (← get) concerns with
    | none => pure ()
    | some d =>
      runDeferred fuel d
      runConcerned fuel concerns

/-- Brings those to their end whose time has come. -/
def runDue : Nat → Step Unit
  | 0 => pure ()
  | fuel + 1 => do
    let s ← get
    if !s.deferred.isEmpty then runConcerned fuel fun d => d.finish ≤ s.files.now

/-- Does what is to be done about the signals that a shell has been sent. -/
def heed : Nat → Step Unit
  | 0 => pure ()
  | fuel + 1 => do
    let s ← get
    if s.flow = .onward then
      match s.signals.find? fun signal => signal.1 = s.number with
      | none => pure ()
      | some (number, signal) =>
        let s := { s with signals := s.signals.erase (number, signal) }
        let action := if signal = Signal.kill then none else s.traps.lookup signal
        match action with
        | none =>
          set (if Signal.isHarmless signal then s else { s with flow := .dying signal })
          heed fuel
        | some script =>
          set s
          runTokens fuel (Token.ofText 1 script)
          modify fun after =>
            if after.flow = .onward then { after with status := s.status } else after
          heed fuel

/-- Runs two commands of which the second reads what the first one prints. If it would
have read more than there was room for, both run again, from what was before. -/
def runPipe : Nat → State → Nat → Command → Command → Step Unit
  | 0, _, _, _, _ => modify fun s => s.leave 2
  | fuel + 1, before, room, a, b => do
    let n := before.nextNumber
    set (before.leadToNew 1 (streamWithRoom room))
    runApart fuel true a
    runConcerned fuel fun d => d.process.channels.any fun c => c.2 = n
    let s ← get
    let first := s.status
    let (stream, isCut) := turnAround s n
    set ({ s with channels := before.channels, isStarved := false }.leadToNew 0 stream)
    runApart fuel true b
    let s ← get
    if s.isStarved && isCut && room < greatRoom then runPipe fuel before (16 * room) a b
    else
      let failed := s.options.contains 'P' && s.status = 0
      set { State.undoChannels before s with
        isStarved := before.isStarved, status := if failed then first else s.status }

/-- Runs the commands that were asked for at the end. -/
def finish : Nat → Step Unit
  | 0 => pure ()
  | fuel + 1 => do
    let s ← get
    let ends := match s.flow with
      | .dying _ => s.dialect = .extended
      | _ => true
    match s.traps.lookup 0 with
    | none => pure ()
    | some script =>
      if ends && script != [] then
        set { s with traps := s.traps.filter fun t => t.1 != 0, flow := .onward }
        runTokens fuel (Token.ofText 1 script)
        modify fun after =>
          let ended := after.flow = .leaving || after.flow = .failing
          { after with
            status := if ended then after.status else s.status
            flow := match s.flow with
              | .dying signal => .dying signal
              | _ => after.flow }

def runLoop : Nat → Bool → Bool → Command → Command → Nat → Step Unit
  | 0, _, _, _, _, _ => modify fun s => s.leave 2
  | fuel + 1, guarded, succeeds, condition, body, status => do
    run fuel true condition
    let (s, goesOn) := loopFlow (← get)
    set s
    if goesOn then
      if (s.status = 0) = succeeds then
        run fuel guarded body
        let (s, goesOn) := loopFlow (← get)
        set s
        if goesOn then runLoop fuel guarded succeeds condition body s.status
      else set { s with status := status }

def runEach : Nat → Bool → Bytes → List Bytes → Command → Step Unit
  | 0, _, _, _, _ => modify fun s => s.leave 2
  | _ + 1, _, _, [], _ => pure ()
  | fuel + 1, guarded, name, value :: rest, body => do
    modify fun s => s.assign name value
    if (← get).flow = .onward then
      run fuel guarded body
      let (s, goesOn) := loopFlow (← get)
      set s
      if goesOn then runEach fuel guarded name rest body

def runArms : Nat → Bool → Bytes → List (List Word × Command) → Step Unit
  | 0, _, _, _ => modify fun s => s.leave 2
  | _ + 1, _, _, [] => pure ()
  | fuel + 1, guarded, t, (patterns, body) :: rest => do
    let isMatch ← matchesAny fuel t patterns
    if (← get).flow = .onward then
      if isMatch then run fuel guarded body else runArms fuel guarded t rest

def matchesAny : Nat → Bytes → List Word → Step Bool
  | 0, _, _ => return false
  | _ + 1, _, [] => return false
  | fuel + 1, t, w :: rest => do
    if Pattern.isMatch (← Expand.pattern (catchOutput fuel) w) t then return true
    else matchesAny fuel t rest

/-- Runs a script and gives what it prints. -/
def catchOutput : Nat → Nat → Bytes → Step Bytes
  | 0, _, _ => return []
  | fuel + 1, line, script => do
    let before ← get
    if maxDepth ≤ before.depth then
      set (before.leave 2)
      return []
    else
      let n := before.nextNumber
      let number := before.lastNumber + 1
      set { before.leadToNew 1 (streamWithRoom greatRoom) with
        lastNumber := number
        number := number
        waiting := before.number :: before.waiting
        traps := before.traps.filter fun t => t.2 = []
        jobs := []
        depth := before.depth + 1 }
      runTokens fuel (Inside.commands line script)
      finish fuel
      modify (outerSaid before)
      runConcerned fuel fun d => d.process.channels.any fun c => c.2 = n
      let after ← get
      set { State.undoChannels before after with substituted := true }
      return match (turnAround after n).1.target with
        | .text t _ => t.filter (· ≠ '\x00')
        | _ => []

/-- Expands words to fields. Where a command sets variables, each of its words that does
so is one field. -/
def expandAll : Nat → Bool → List Word → Step (List Bytes)
  | 0, _, _ => return []
  | _ + 1, _, [] => return []
  | fuel + 1, sets, w :: rest => do
    let first ← match if sets then Command.setting? w else none with
      | some (name, value) => pure [name ++ '=' :: (← Expand.setting (catchOutput fuel) value)]
      | none => Expand.fields (catchOutput fuel) w
    if (← get).flow = .onward then
      let more ← expandAll fuel sets rest
      return first ++ more
    else return first

/-- Expands the words of a command. -/
def expandCommand : Nat → List Word → Step (List Bytes)
  | 0, _ => return []
  | _ + 1, [] => return []
  | fuel + 1, w :: rest => do
    let first ← Expand.fields (catchOutput fuel) w
    if (← get).flow = .onward then
      let sets := first.head?.any Builtin.setters.contains
      let more ← if first = [] then expandCommand fuel rest else expandAll fuel sets rest
      return first ++ more
    else return first

/-- Does redirections one after the other, and tells whether all could be done. -/
def redirectAll : Nat → List Redirection → Step Bool
  | 0, _ => return false
  | _ + 1, [] => return true
  | fuel + 1, r :: rest => do
    let target ← if r.action = .document then Expand.document (catchOutput fuel) r.target
      else Expand.text (catchOutput fuel) r.target
    let s ← get
    if s.flow != .onward then return false
    else
      match s.redirectTo r.channel r.action target with
      | .ok s =>
        set s
        redirectAll fuel rest
      | .error .noChannel =>
        modify (refuseRead s.reached "Bad fd number".toList)
        return false
      | .error (.failed message) =>
        let closed := r.action = .copy && r.channel = 2 && (Builtin.count? target).isSome
        let said := if closed then s else s.complain message
        set { said with status := if s.dialect = Dialect.standard then 2 else 1 }
        return false

/-- Sets variables one after the other. The answer is what they are set to. -/
def setAll : Nat → List (Bytes × Word) → Step (List Bytes)
  | 0, _ => return []
  | _ + 1, [] => return []
  | fuel + 1, (name, w) :: rest => do
    let value ← Expand.setting (catchOutput fuel) w
    if (← get).flow = .onward then
      modify fun s => s.assign name value
      return (name ++ '=' :: value) :: (← setAll fuel rest)
    else return []

/-- Shows what a command has become, where that is asked for. It goes where the
errors went before the command's own redirections. -/
def trace : Nat → State → List Bytes → Step Unit
  | 0, _, _ => pure ()
  | fuel + 1, before, words => do
    let s ← get
    if s.options.contains 'x' && words != [] && s.flow = .onward then
      let front := (s.value? "PS4".toList).getD []
      let parts := ((Word.ofText .document s.line front).toOption).getD []
      set { s with options := s.options.filter (· ≠ 'x') }
      let front ← Expand.document (catchOutput fuel) parts
      modify fun after =>
        let line := front ++ Text.joinWith [' '] words ++ ['\n']
        let said := { after with channels := before.channels }.say line
        { said with channels := after.channels, options := s.options, status := s.status }

def runSimple :
    Nat → Bool → List (Bytes × Word) → List Word → List Redirection → Step Unit
  | 0, _, _, _, _ => modify fun s => s.leave 2
  | fuel + 1, guarded, settings, words, rs => do
    modify fun s => { s with substituted := false }
    let fields ← expandCommand fuel words
    let before ← get
    if before.flow = .onward then
      match fields with
      | [] =>
        if ← redirectAll fuel rs then
          let set ← setAll fuel settings
          trace fuel before set
          modify fun s => if s.substituted || s.flow != .onward then s else { s with status := 0 }
        modify (State.undoChannels before)
      | name :: arguments =>
        let isSpecial := Command.special.contains name
        let isExec := name = "exec".toList && arguments = []
        let done ← redirectAll fuel rs
        if done then
          let set ← setAll fuel settings
          for (key, _) in settings do modify fun s => s.passOn key
          trace fuel before (set ++ fields)
          if (← get).flow = .onward then runNamed fuel guarded name arguments
        else if isSpecial && before.dialect = .standard then
          modify fun s => { s with flow := .failing }
        if !isSpecial then
          for (key, _) in settings do
            modify fun s => s.restore key (before.holder? key)
        if !(isExec && done) then modify (State.undoChannels before)

/-- Runs what a name stands for: a function, a command of the shell or a program. -/
def runNamed : Nat → Bool → Bytes → List Bytes → Step Unit
  | 0, _, _, _ => modify fun s => s.leave 2
  | fuel + 1, guarded, name, arguments => do
    let s ← get
    let word := String.ofList name
    match if Command.special.contains name then none else s.functions.lookup name with
    | some body =>
      if maxDepth ≤ s.depth then set (s.leave 2)
      else
        set { s with
          arguments := arguments, saved := [] :: s.saved, loops := 0, depth := s.depth + 1 }
        run fuel guarded body
        modify fun after =>
          let restored := (after.saved.headD []).foldl (fun a v => a.restore v.1 v.2) after
          { restored with
            arguments := s.arguments
            saved := s.saved
            loops := s.loops
            depth := s.depth
            flow := if after.flow = .returning then .onward else after.flow }
    | none =>
      match Builtin.table.lookup word with
      | some builtin =>
        set { s with title := name }
        builtin arguments
        modify fun after =>
          let goesOn := after.flow = .failing && !Command.special.contains name
          { after with title := s.title, flow := if goesOn then .onward else after.flow }
      | none =>
        if Builtin.runners.contains word then runRunner fuel guarded word arguments
        else runProgram fuel false name arguments

/-- Waits for commands that were not waited for. -/
def wait : Nat → List Bytes → Step Unit
  | 0, _ => pure ()
  | fuel + 1, words => do
    let s ← get
    match words with
    | [] =>
      runConcerned fuel fun d => s.jobs.contains d.number
      modify fun s => { s with status := 0 }
    | words =>
      for word in words do
        match Builtin.numberOf? s word with
        | none =>
          let what := if word.head? = some '%' then "No such job: ".toList ++ word
            else Builtin.illegalNumber s.dialect word
          modify fun s => { s.complain what with status := 2 }
        | some number =>
          let finish := (s.deferred.find? fun d => d.number = number).map Deferred.finish
          runConcerned fuel fun d => finish.any fun f => d.finish ≤ f
          modify fun s =>
            { s with status := if s.jobs.contains number then (s.ended.lookup number).getD 127
                       else 127 }

/-- Runs a command of the shell that runs others. -/
def runRunner : Nat → Bool → String → List Bytes → Step Unit
  | 0, _, _, _ => modify fun s => s.leave 2
  | fuel + 1, guarded, word, arguments => do
    let s ← get
    let titled (title : Bytes) : State :=
      { s with title := if s.dialect = .standard then title else s.title, status := 0 }
    match word with
    | "eval" =>
      set (titled word.toList)
      let line := if s.dialect = .standard then 1 else s.line
      runTokens fuel (Token.ofText line (Text.joinWith [' '] arguments))
      modify fun after => { after with title := s.title }
    | "exec" =>
      match arguments with
      | [] => modify fun s => { s with status := 0 }
      | name :: arguments =>
        set { s with title := word.toList }
        runProgram fuel true name arguments
        modify fun s => { s with traps := s.traps.filter fun t => t.1 != 0 }
    | "type" => modify fun s => describeAll s true arguments
    | "hash" =>
      set { s with title := word.toList }
      modify fun s => showKnown s arguments
      modify fun after => { after with title := s.title }
    | "wait" =>
      set { s with title := word.toList }
      wait fuel arguments
      modify fun after => { after with title := s.title }
    | "jobs" => modify fun s => { s with status := 0 }
    | "fg" => modify (refuseJob word)
    | "bg" => modify (refuseJob word)
    | "command" => runCommand fuel guarded arguments
    | _ =>
      match arguments with
      | [] =>
        if s.dialect = .extended then
          set { s.complain (word.toList ++ ": filename argument required".toList) with status := 2 }
        else set { s with status := 0 }
      | script :: more =>
        match scriptFor s script with
        | .ok (path, text, host) =>
          let own := titled path
          set { own with
            toHost := host
            arguments := if more != [] && s.dialect = Dialect.extended then more else s.arguments }
          runTokens fuel (Token.ofText 1 text)
          modify fun after => { after with
            title := s.title
            arguments :=
              if more != [] && s.dialect = .extended then s.arguments else after.arguments
            flow := if after.flow = .returning then .onward else after.flow }
        | .error message =>
          set (match s.dialect with
            | .standard => { { s with title := word.toList }.giveUp message with title := s.title }
            | .extended => { s.complain message with status := 1 })

/-- Runs a command that is no function, or tells what it is. -/
def runCommand : Nat → Bool → List Bytes → Step Unit
  | 0, _, _ => modify fun s => s.leave 2
  | fuel + 1, guarded, arguments => do
    let s ← get
    match Builtin.options "pvV" arguments with
    | .error c => set (s.giveUp ("command: Illegal option -".toList ++ [c]))
    | .ok (letters, words) =>
      let told := if s.dialect = .standard then words.take 1 else words
      if letters.contains 'v' then modify fun s => describeAll s false told
      else if letters.contains 'V' then modify fun s => describeAll s true told
      else
        match words with
        | [] => modify fun s => { s with status := 0 }
        | name :: arguments =>
          set { s with functions := s.functions.filter fun f => f.1 != name }
          runNamed fuel guarded name arguments
          modify fun after => { after with
            functions := s.functions
            flow := if after.flow = .failing then .onward else after.flow }

/-- Starts a program, either the last one or one that is waited for. -/
def runProgram : Nat → Bool → Bytes → List Bytes → Step Unit
  | 0, _, _, _ => modify fun s => s.leave 2
  | fuel + 1, isLast, name, arguments => do
    let s ← get
    if !name.contains '/' && !s.known.contains name
        && (Image.candidates s.files (searched s) name) != [] then
      modify fun s => { s with known := s.known ++ [name] }
    match ← startProgram fuel isLast name arguments with
    | none => pure ()
    | some f =>
      let isFile := (Image.candidates s.files (searched s) name) != []
      let (message, status) := startFailure s.dialect name isFile f
      modify fun s => { s.complain message with
        status := status, flow := if isLast then .leaving else s.flow }

/-- Starts a program, or tells why that cannot be done. A file that is neither machine
code nor a script with a program of its own is run by the shell. -/
def startProgram : Nat → Bool → Bytes → List Bytes → Step (Option Failure)
  | 0, _, _, _ => return none
  | fuel + 1, isLast, name, arguments => do
    let s ← get
    match Image.ofCommand s.files (searched s) name arguments with
    | .ok (image, words) =>
      runImage fuel image words
      modify (programEnded isLast s)
      return none
    | .error .notRunnable =>
      match (Image.locate s.files (searched s) name).bind fun path =>
        s.files.readBytes (Bytes.toName path) with
      | .ok bytes =>
        set (inner s s.dialect name arguments)
        runTokens fuel (Token.ofText 1 (Bytes.ofArray bytes))
        finish fuel
        modify (programEnded isLast s)
        return none
      | .error f => return some f
    | .error f => return some f

/-- Runs machine code by its name. The words begin with the name it is called by. -/
def runImage : Nat → String → List Bytes → Step Unit
  | 0, _, _ => modify fun s => s.leave 2
  | fuel + 1, image, words => do
    let s ← get
    let own := words.headD []
    match Utility.ofName? image.toList, Utility.starter? image.toList with
    | some utility, _ => set (s.runUtility own utility (words.drop 1))
    | none, some starter =>
      if maxDepth ≤ s.depth then set (s.leave 2)
      else set (s.runUtility own (starter (launch fuel s)) (words.drop 1))
    | none, none =>
      if maxDepth ≤ s.depth then set (s.leave 2)
      else runShell fuel (if image = "bash" then .extended else .standard) words

/-- Starts a program for one that starts others. -/
def launch : Nat → State → Launch
  | 0, _, _, _ => return none
  | fuel + 1, s, program, words => do
    Job.flush
    let job ← get
    let (failure, after) := StateT.run (startProgram fuel true program words) (forJob s job)
    set { job with
      toHost := { after.toHost with files := { after.files with here := job.files.here } }
      status := endStatus after
      signal := match after.flow with
        | .dying signal => some signal
        | _ => none }
    return failure

/-- Runs a shell by the words it is started with. -/
def runShell : Nat → Dialect → List Bytes → Step Unit
  | 0, _, _ => modify fun s => s.leave 2
  | fuel + 1, dialect, words => do
    let s ← get
    let own := words.headD []
    let refuse (message : Bytes) (status : Nat) : State :=
      { s.say (own ++ message ++ ['\n']) with status := status }
    match Builtin.readStart dialect true words.length (words.drop 1) {} with
    | .error option => set (refuse (": 0: Illegal option ".toList ++ option) 2)
    | .ok st =>
      let begin (name : Bytes) (arguments : List Bytes) : State :=
        { inner s dialect name arguments with options := st.options }
      let rest := st.rest.getD []
      if st.fromWord then
        match rest with
        | [] => set (refuse ": 0: -c requires an argument".toList 2)
        | script :: rest =>
          set (begin (rest.headD own) (rest.drop 1))
          runTokens fuel (Token.ofText 1 script)
          finish fuel
      else if rest = [] || st.options.contains 's' then
        let s := begin own rest
        let input := (s.channels.lookup 0).bind fun n => (s.toHost.takeAll n).toOption
        match input with
        | some (script, host) =>
          set { s with toHost := host }
          runTokens fuel (Token.ofText 1 script)
          finish fuel
        | none => set s
      else
        let path := rest.headD []
        match s.toHost.readPath s.channels (Bytes.toName path) with
        | .ok (script, host) =>
          set { begin path (rest.drop 1) with toHost := host }
          runTokens fuel (Token.ofText 1 script)
          finish fuel
        | .error f =>
          set (match dialect with
            | .standard =>
              let reason := if f = Failure.notFound then "No such file".toList else f.reason
              refuse (": 0: cannot open ".toList ++ path ++ ": ".toList ++ reason) 2
            | .extended => refuse (": ".toList ++ path ++ ": ".toList ++ f.reason) 127)

/-- Runs tokens command by command. -/
def runTokens : Nat → List Placed → Step Unit
  | 0, _ => modify fun s => s.leave 2
  | _ + 1, [] => pure ()
  | fuel + 1, ts => do
    let s ← get
    let aliases := if s.dialect = .standard then s.aliases else []
    match Inside.readLine aliases ts with
    | .error (line, f) => modify (refuseRead line (faultText f))
    | .ok (c, rest) =>
      let reached := ((ts.take (ts.length - rest.length)).getLast?).elim s.reached Prod.fst
      modify fun s => { s with reached := reached }
      if !s.options.contains 'n' then run fuel false c
      if (← get).flow = .onward then runTokens fuel rest

end

/-- Runs what is started for a tool, and what it has left running. -/
def runToEnd (fuel : Nat) (image : String) (words : List Bytes) : Step Unit := do
  runImage fuel image words
  let ended ← get
  runConcerned fuel fun _ => true
  modify fun s => { s with status := ended.status, flow := ended.flow }

end Weave.Shell
