import Weave.CommandLine.Grammar

/-!
# Reading a command line

Words are read from left to right, and the first that is refused decides. A
value is checked when the next switch or position is met, or at the end, so a
word that nothing knows is refused before the value that precedes it; a value
joined to its switch is checked at once. Two dashes make every later word fill
a position.
-/
namespace Weave.CommandLine

/-- What was last met and is not yet checked. -/
inductive Pending where
  | none
  /-- A switch that waits for its value. -/
  | awaiting (switch : Switch)
  | value (slot : Slot) (text : Text)
deriving Repr, DecidableEq

structure Reading where
  given : List (Slot × Text) := []
  pending : Pending := .none
  positions : List Slot
  /-- Two dashes have been read. -/
  onlyPositions : Bool := false
deriving Repr, DecidableEq

namespace Reading

def value? (r : Reading) (slot : Slot) : Option Text :=
  r.given.lookup slot

def has (r : Reading) (slot : Slot) : Bool :=
  (r.value? slot).isSome

/-- Whether a slot can take a value at all. -/
def usable (slot : Slot) (text : Text) : Bool :=
  !(slot.isPath && text.isEmpty)

/-- A slot is given once. -/
def store (r : Reading) (slot : Slot) (text : Text) : Except Refusal Reading :=
  if r.has slot then .error .givenTwice
  else if usable slot text then .ok { r with given := r.given ++ [(slot, text)] }
  else .error .valueUnusable

/-- Checks what is pending. -/
def settle (r : Reading) : Except Refusal Reading :=
  match r.pending with
  | .none => .ok r
  | .awaiting _ => .error .valueUnusable
  | .value slot text => { r with pending := .none }.store slot text

/-- Reads a switch without a value. Help and version are answered at once. -/
def setFlag (level : Level) (r : Reading) (slot : Slot) : Except Refusal Reading := do
  let r ← r.settle
  match slot with
  | .help => .error .helpShown
  | .version => .error (.versionShown level.title)
  | slot => r.store slot []

/-- Reads a switch with the value joined to it, or waits for the value. -/
def setValue (r : Reading) (switch : Switch) (joined : Option Text) : Except Refusal Reading := do
  let r ← r.settle
  match joined with
  | some text => r.store switch.slot text
  | none => .ok { r with pending := .awaiting switch }

/-- Reads a long switch, less its dashes. -/
def readLong (level : Level) (r : Reading) (body : Text) : Except Refusal Reading :=
  let long := body.takeWhile (· ≠ '=')
  let joined := if body.contains '=' then some (body.drop (long.length + 1)) else none
  match level.switches.find? fun s => s.long = long with
  | none => .error .argumentUnknown
  | some switch =>
    match switch.arity, joined with
    | .flag, some _ => .error .valueNotAllowed
    | .flag, none => r.setFlag level switch.slot
    | _, joined => r.setValue switch joined

/-- Reads letters, less their dash. The first that takes a value has the rest
for it, less one equals sign. -/
def readShorts (level : Level) (r : Reading) : Text → Except Refusal Reading
  | [] => .ok r
  | c :: rest =>
    match level.switches.find? fun s => s.short = some c with
    | none => .error .argumentUnknown
    | some switch =>
      match switch.arity, rest with
      | .flag, rest => do
        let r ← r.setFlag level switch.slot
        readShorts level r rest
      | _, [] => r.setValue switch none
      | _, '=' :: joined => r.setValue switch (some joined)
      | _, joined => r.setValue switch (some joined)

/-- Reads a word that fills a position. Behind two dashes the name of a command is
no command, but a word too many like any other. -/
def readPosition (level : Level) (r : Reading) (word : Text) : Except Refusal Reading :=
  match r.positions with
  | [] =>
    let isCommand := word = helpWord || (CommandName.ofWord? word).isSome
    .error (if r.onlyPositions && isCommand then .argumentUnknown else level.surplus)
  | slot :: rest => do
    let r ← r.settle
    .ok { r with pending := .value slot word, positions := rest }

/-- Reads a word that no waiting switch takes unseen. -/
def readPlain (level : Level) (r : Reading) (word : Text) : Except Refusal Reading :=
  match word with
  | ['-', '-'] => .ok { r with onlyPositions := true }
  | '-' :: '-' :: body => r.readLong level body
  | '-' :: c :: rest => r.readShorts level (c :: rest)
  | word =>
    match r.pending with
    | .awaiting switch => .ok { r with pending := .value switch.slot word }
    | _ => r.readPosition level word

def readWord (level : Level) (r : Reading) (word : Text) : Except Refusal Reading :=
  if r.onlyPositions then r.readPosition level word
  else
    match r.pending with
    | .awaiting switch =>
      if switch.arity = .anyValue then .ok { r with pending := .value switch.slot word }
      else r.readPlain level word
    | _ => r.readPlain level word

def isAwaiting (r : Reading) : Bool :=
  match r.pending with
  | .awaiting _ => true
  | _ => false

end Reading

/-- Reads all words at one level. -/
def readWords (level : Level) (words : List Text) : Except Refusal Reading := do
  let r ← words.foldlM (Reading.readWord level) { positions := level.positions }
  r.settle

/-- The value of the tool switch, or else of its variable. -/
def toolOf (env : Environment) (r : Reading) : Except Refusal Path :=
  match r.value? .tool, env.tool with
  | some path, _ => .ok path
  | none, some path => if Reading.usable .tool path then .ok path else .error .valueUnusable
  | none, none => .ok "jupyter".toList

def inputOf (r : Reading) : Except Refusal Path :=
  match r.value? .input with
  | some path => .ok path
  | none => .error .argumentMissing

def jobOf (r : Reading) : Except Refusal Job := do
  return ⟨← inputOf r, (r.value? .outdir).getD Path.dot, r.value? .name⟩

/-- The command with what was given to it. Variables are read before missing
words are noticed. -/
def commandOf (env : Environment) (r : Reading) : CommandName → Except Refusal Command
  | .script => do
    return .script (← jobOf r)
  | .markdown => do
    return .markdown (← jobOf r) (r.value? .fenceOpening)
      ((r.value? .fenceClosing).getD "```".toList)
  | .notebook => do
    let tool ← toolOf env r
    let languageVersion := (r.value? .languageVersion).or env.languageVersion
    return .notebook (← jobOf r) (r.has .execute) tool languageVersion
  | .chunks => do
    return .chunks (← inputOf r) ((r.value? .target).getD "markdown".toList) (r.value? .name)

/-- What follows the word for help must name one command, if anything. -/
def helpFor : List Text → Refusal
  | [] => .helpShown
  | [word] =>
    if word = helpWord || (CommandName.ofWord? word).isSome then .helpShown else .commandUnknown
  | _ => .commandUnknown

/-- What was given before the command counts unless it is given again behind it. -/
def invocationOf (top sub : Reading) (command : Command) : Invocation where
  verbose := top.has .verbose || sub.has .verbose
  format := ((sub.value? .format).or (top.value? .format)).getD "text".toList
  command := command

/-- Reads the words before the command, and from there on those behind it. -/
def parseFrom (env : Environment) (top : Reading) : List Text → Except Refusal Invocation
  | [] => do
    let top ← top.settle
    .error (if top.given.isEmpty then .nothingGiven else .commandMissing)
  | word :: rest =>
    let command := if top.onlyPositions || top.isAwaiting then none else CommandName.ofWord? word
    match command with
    | some name => do
      let sub ← readWords name.level rest
      let command ← commandOf env sub name
      let top ← top.settle
      .ok (invocationOf top sub command)
    | none =>
      if word = helpWord && !top.onlyPositions && !top.isAwaiting then .error (helpFor rest)
      else do
        let top ← top.readWord topLevel word
        parseFrom env top rest

def parse (env : Environment) (words : List Text) : Except Refusal Invocation :=
  parseFrom env { positions := topLevel.positions } words

end Weave.CommandLine
