import Weave.Record.Known

/-!
# Running programs for records

The rules of a program are applied to one record after the other.
-/
namespace Weave.Record

open Job

mutual

/-- The value of a term. -/
def value (g : Setting) : Nat → Term → Step Value
  | 0, _ => throw (.fault true "evaluation too deep".toList)
  | fuel + 1, t => do
    match t with
    | .number x => return .number x
    | .text t => return .text t
    | .expression e => return .ofBool (e.isIn (← get).record)
    | .name _ => (← place g fuel t).get
    | .field _ => (← place g fuel t).get
    | .element _ _ => (← place g fuel t).get
    | .grouped a => value g fuel a
    | .give target op a =>
      let p ← place g fuel target
      let v ← value g fuel a
      let v ← match op with
        | none => pure v
        | some op => pure (Value.number (Value.combine op (← p.get).toNumber v.toNumber))
      p.set v
      return v
    | .step target up isBefore =>
      let p ← place g fuel target
      let old := (← p.get).toNumber
      let new := if up then old + 1 else old - 1
      p.set (.number new)
      return .number (if isBefore then new else old)
    | .choice c a b => if (← value g fuel c).isTrue then value g fuel a else value g fuel b
    | .both a b =>
      if (← value g fuel a).isTrue then return .ofBool (← value g fuel b).isTrue
      else return .ofBool false
    | .either a b =>
      if (← value g fuel a).isTrue then return .ofBool true
      else return .ofBool (← value g fuel b).isTrue
    | .not a => return .ofBool (!(← value g fuel a).isTrue)
    | .minus a => return .number (-(← value g fuel a).toNumber)
    | .plus a => return .number (← value g fuel a).toNumber
    | .combined op a b =>
      let x ← value g fuel a
      let y ← value g fuel b
      return .number (Value.combine op x.toNumber y.toNumber)
    | .compared c a b =>
      let x ← value g fuel a
      let y ← value g fuel b
      return .ofBool (Value.compare (← get).conversion c x y)
    | .joined a b =>
      let x ← textOf (← value g fuel a)
      return .text (x ++ (← textOf (← value g fuel b)))
    | .fits negated a pattern =>
      let t ← textOf (← value g fuel a)
      return .ofBool (((← expression g fuel pattern).isIn t) != negated)
    | .isKey key table =>
      let k ← keyOf (← values g fuel key)
      return .ofBool (((← get).table table).lookup k).isSome
    | .readLine source origin target => readLine g fuel source origin target
    | .known function arguments => known g fuel (String.ofList function) arguments
    | .call function arguments => call g fuel function arguments

def values (g : Setting) : Nat → List Term → Step (List Value)
  | fuel + 1, t :: ts => do
    let v ← value g fuel t
    return v :: (← values g fuel ts)
  | _, _ => return []

/-- The expression for texts that a term stands for. -/
def expression (g : Setting) : Nat → Term → Step Expression
  | fuel + 1, .grouped a => expression g fuel a
  | _ + 1, .expression e => return e
  | fuel + 1, t => do expressionOf (← textOf (← value g fuel t))
  | 0, _ => throw (.fault true "evaluation too deep".toList)

def place (g : Setting) : Nat → Term → Step Place
  | fuel + 1, t => do
    match t with
    | .name n => return .name n
    | .grouped a => place g fuel a
    | .field index =>
      let n := Value.truncated (← value g fuel index).toNumber
      if n < 0 then
        throw (.fault true ("negative field index $".toList ++ (toString n).toList))
      return .field n.toNat
    | .element table key => return .element table (← keyOf (← values g fuel key))
    | _ => return .name []
  | 0, _ => throw (.fault true "evaluation too deep".toList)

/-- Reads a line; the value tells whether there was one, and is less than zero where
nothing can be read. -/
def readLine (g : Setting) : Nat → Source → Option Term → Option Term → Step Value
  | 0, _, _, _ => return .ofInt (-1)
  | fuel + 1, source, origin, target => do
    let name ← match origin with
      | some t => textOf (← value g fuel t)
      | none => pure []
    let p ← match target with
      | some t => pure (some (← place g fuel t))
      | none => pure none
    let line ← match source with
      | .records => pure (some (← takeRecord 100000))
      | .file => fileLine name
      | .command => pure (some (← commandLine g.launch name))
    match line with
    | none => return .ofInt (-1)
    | some none => return .ofNat 0
    | some (some t) =>
      if source = .command then count "NR"
      match p with
      | some p => p.set (.read t)
      | none => modify fun s => s.setRecord t
      return .ofNat 1

/-- Calls a function that is known without being defined. -/
def known (g : Setting) : Nat → String → List Term → Step Value
  | 0, _, _ => throw (.fault true "evaluation too deep".toList)
  | fuel + 1, function, arguments => do
    match function, arguments with
    | "length", [.name n] =>
      let s ← get
      if (s.tables.lookup (s.tableName n)).isSome then return .ofNat (s.table n).length
      else plainFunction g function (← values g fuel arguments)
    | "split", a :: .name table :: more =>
      let t ← textOf (← value g fuel a)
      let mark ← match more with
        | .expression e :: _ => pure (Mark.expression e)
        | b :: _ => pure (Mark.ofText (← textOf (← value g fuel b)))
        | [] => pure (← get).mark
      let fields := mark.fields t
      let cells := fields.zipIdx.map fun (f, i) => (Text.ofNat (i + 1), Value.read f)
      modify fun s => s.setTable table cells
      return .ofNat fields.length
    | "match", [a, b] =>
      let t ← textOf (← value g fuel a)
      let e ← expression g fuel b
      let (start, length) : Value × Value := match e.find? none t with
        | some m => (.ofNat (m.before.length + 1), .ofNat m.found.length)
        | none => (.ofNat 0, .ofInt (-1))
      modify fun s => (s.setGlobal "RSTART".toList start).setGlobal "RLENGTH".toList length
      return start
    | "sub", a :: b :: more => substitute g fuel false a b more
    | "gsub", a :: b :: more => substitute g fuel true a b more
    | _, _ => plainFunction g function (← values g fuel arguments)

/-- Replaces what an expression matches in a place, and counts how often. -/
def substitute (g : Setting) : Nat → Bool → Term → Term → List Term → Step Value
  | 0, _, _, _, _ => throw (.fault true "evaluation too deep".toList)
  | fuel + 1, everywhere, pattern, new, target => do
    let e ← expression g fuel pattern
    let new ← textOf (← value g fuel new)
    let p ← place g fuel (target.headD (.field (.number 0)))
    let t ← textOf (← match target with
      | t :: _ => if t.isPlace then p.get else value g fuel t
      | [] => p.get)
    let (done, n) := replace e new everywhere (t.length + 2) none false t
    if n != 0 && (target.all Term.isPlace) then p.set (.text done)
    return .ofNat n

/-- Calls a function of the program. -/
def call (g : Setting) : Nat → Bytes → List Term → Step Value
  | 0, _, _ => throw (.fault true "evaluation too deep".toList)
  | fuel + 1, name, arguments => do
    match g.functions.find? fun f => f.name = name with
    | none => return .nothing
    | some f =>
      let mut locals : List Local := []
      let outer ← get
      let mut n := outer.tableCount
      for (parameter, i) in f.parameters.zipIdx do
        match arguments[i]? with
        | some (.name a) =>
          let s ← get
          locals := ⟨parameter, s.value a, s.tableName a⟩ :: locals
        | some t =>
          locals := ⟨parameter, ← value g fuel t, ownTable n⟩ :: locals
          n := n + 1
        | none =>
          locals := ⟨parameter, .nothing, ownTable n⟩ :: locals
          n := n + 1
      let inside := locals
      let count := n
      let caller := (← get).locals
      modify fun s => { s with locals := inside, tableCount := max count s.tableCount }
      let result ← tryCatch (do
        run g fuel f.body
        return Value.nothing) fun stop => match stop with
        | .return' v => return v
        | stop => throw stop
      let own :=
        (List.range (count - outer.tableCount)).map fun i => ownTable (outer.tableCount + i)
      modify fun s => { s with
        locals := caller
        tableCount := outer.tableCount
        tables := s.tables.filter fun t => !own.contains t.1 }
      return result

/-- Runs a statement. -/
def run (g : Setting) : Nat → Statement → Step Unit
  | 0, _ => throw (.fault true "statements too deep".toList)
  | fuel + 1, s => do
    match s with
    | .nothing => pure ()
    | .term t => let _ ← value g fuel t
    | .print terms goal =>
      let all ← values g fuel terms
      let s ← get
      let shown (v : Value) : Bytes := v.toText (s.globalText "OFMT")
      let t := if terms.isEmpty then s.record
        else Text.joinWith (s.globalText "OFS") (all.map shown)
      deliver g fuel goal (t ++ s.globalText "ORS")
    | .printf terms goal =>
      let all ← values g fuel terms
      deliver g fuel goal (← laidOut "printf" goal.isNone all)
    | .block inner => runAll g fuel inner
    | .choice c a b => if (← value g fuel c).isTrue then run g fuel a else run g fuel b
    | .whilst c inner => loop g fuel (some c) .nothing inner
    | .until' inner c => if ← turn (run g fuel inner) then loop g fuel (some c) .nothing inner
    | .loop first c step inner =>
      run g fuel first
      loop g fuel c step inner
    | .each name table inner => each g fuel name table (State.keys ((← get).table table)) inner
    | .delete table none => modify fun s => s.setTable table []
    | .delete table (some key) =>
      let k ← keyOf (← values g fuel key)
      modify fun s => s.setTable table ((s.table table).filter fun e => e.1 != k)
    | .next => throw .next
    | .nextFile => throw .nextFile
    | .break' => throw .break'
    | .continue' => throw .continue'
    | .return' none => throw (.return' .nothing)
    | .return' (some t) => throw (.return' (← value g fuel t))
    | .exit none => throw (.exit none)
    | .exit (some t) =>
      throw (.exit (some ((Value.truncated (← value g fuel t).toNumber) % 256).toNat))

/-- Prints a text to where it is to go. -/
def deliver (g : Setting) : Nat → Option (Sink × Term) → Bytes → Step Unit
  | _, none, t => task (print t)
  | fuel + 1, some (sink, name), t => do printTo sink (← textOf (← value g fuel name)) t
  | 0, _, _ => pure ()

def runAll (g : Setting) : Nat → List Statement → Step Unit
  | fuel + 1, s :: more => do
    run g fuel s
    runAll g fuel more
  | _, _ => pure ()

/-- Runs the inside of a loop as long as its condition holds. -/
def loop (g : Setting) : Nat → Option Term → Statement → Statement → Step Unit
  | 0, _, _, _ => pure ()
  | fuel + 1, condition, step, inner => do
    let holds ← match condition with
      | some c => pure (← value g fuel c).isTrue
      | none => pure true
    if holds then
      if ← turn (run g fuel inner) then
        run g fuel step
        loop g fuel condition step inner

/-- Runs the inside of a loop for some keys. -/
def each (g : Setting) : Nat → Bytes → Bytes → List Bytes → Statement → Step Unit
  | fuel + 1, name, table, key :: keys, inner => do
    modify fun s => s.setValue name (.text key)
    if ← turn (run g fuel inner) then each g fuel name table keys inner
  | _, _, _, _, _ => pure ()

end

/-- How deep running goes at most. -/
def maxSteps : Nat := 10000000

/-- Carries out what a rule says. -/
def act (g : Setting) (r : Rule) : Step Unit :=
  match r.act with
  | some s => run g maxSteps s
  | none => run g maxSteps (.print [] none)

/-- Applies a rule to the record, if it is for it. -/
def apply (g : Setting) (r : Rule) (number : Nat) : Step Unit := do
  match r.scope with
  | .every => act g r
  | .those c => if (← value g maxSteps c).isTrue then act g r
  | .range first last =>
    let isOpen := (← get).openRanges.contains number
    if isOpen || (← value g maxSteps first).isTrue then
      let ends := (← value g maxSteps last).isTrue
      modify fun s =>
        let others := s.openRanges.filter (· ≠ number)
        { s with openRanges := if ends then others else number :: others }
      act g r
  | _ => pure ()

/-- Applies all rules to one record after the other. -/
def applyAll (g : Setting) (rules : List Rule) : Nat → Step Unit
  | 0 => pure ()
  | fuel + 1 => do
    match ← takeRecord 100000 with
    | none => pure ()
    | some t =>
      modify fun s => s.setRecord t
      tryCatch (do
        for (r, i) in rules.zipIdx do apply g r i) fun stop => match stop with
        | .next => pure ()
        | .nextFile => modify fun s => { s with input := none }
        | stop => throw stop
      applyAll g rules fuel

def isFirst (r : Rule) : Bool := match r.scope with
  | .first => true
  | _ => false

def isLast (r : Rule) : Bool := match r.scope with
  | .last => true
  | _ => false

/-- Runs a part of a program; the answer is the status with which it has ended, if it has
been ended. -/
def part (inner : Step Unit) : Step (Option Nat) :=
  tryCatch (do
    inner
    return none) fun stop => match stop with
    | .exit status => do
      if let some n := status then
        modify fun s => s.setGlobal "\x00status".toList (.ofNat n)
      return some (status.getD 0)
    | .fault _ _ => throw stop
    | _ => return none

/-- Runs a program. -/
def runProgram (g : Setting) (p : Program) : Step Unit := do
  let reads := p.rules.any fun r => !isFirst r
  let ended ← part do
    for r in p.rules do if isFirst r then act g r
  if ended.isNone && reads then
    let _ ← part (applyAll g p.rules maxSteps)
  let _ ← part do
    for r in p.rules do if isLast r then act g r

/-- Closes all that is still open: the command that was printed for last comes first. -/
def closeAll (launch : Launch) : Nat → Step Unit
  | 0 => pure ()
  | fuel + 1 => do
    let s ← get
    match s.files ++ s.pipes.map fun e => (e.1, 0) with
    | (name, _) :: _ =>
      let _ ← close launch name
      closeAll launch fuel
    | [] => pure ()

end Weave.Record
