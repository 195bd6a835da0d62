import Weave.Shell.Builtin.Option
import Weave.Shell.Piece

/-!
# Commands on variables

Variables are given values and marks, taken away, made a function's own, and read from
the input. Aliases are kept and shown beside them.
-/
namespace Weave.Shell.Builtin

/-- Takes variables away, or functions where a flag says so. -/
def unset : Builtin := fun words =>
  withOptions "fv" words fun letters names => do
    for name in names do
      let s ← get
      if s.flow = .onward then
        if letters.contains 'f' then
          set { s with functions := s.functions.filter fun f => f.1 != name }
        else if !Command.isName name then set (s.giveUp (badName s.dialect name))
        else if s.isFixed name then set (s.refuseFixed name)
        else set (s.without name)
    succeedUnlessFailed

/-- The variables with a mark, as commands that set them again. -/
def markedList (s : State) (has : Variable → Bool) (command : String) (letter : Char) : Bytes :=
  let line (v : Variable) : Bytes :=
    match s.dialect with
    | .standard => command.toList ++ ' ' :: match v.value with
      | some value => shownSetting v.name value
      | none => v.name
    | .extended => "declare -".toList ++ letter :: ' ' :: v.name ++ match v.value with
      | some value => '=' :: '"' :: value.flatMap
          (fun c => if "\"\\$\u0060".toList.contains c then ['\\', c] else [c]) ++ ['"']
      | none => []
  let chosen := (s.vars.filter has).mergeSort fun a b => a.name ≤ b.name
  Text.unlines (chosen.map line)

/-- Gives a mark to variables, maybe with a value, or lists those that have it. -/
def mark (has : Variable → Bool) (give : State → Bytes → State) (command : String) (letter : Char) :
    Builtin := fun words =>
  withOptions "pfn" words fun _ words => do
    if words = [] then
      modify fun s => { s with status := 0 }.print (markedList s has command letter)
    for word in words do
      let (name, value) := splitSetting word
      let s ← get
      if s.flow = .onward then
        if !Command.isName name then set (s.giveUp (badName s.dialect name))
        else
          match value with
          | some value => modify fun s => give (s.assign name value) name
          | none => modify fun s => give s name
    if words != [] then succeedUnlessFailed

def export' : Builtin := mark Variable.exported State.passOn "export" 'x'

def readonly : Builtin := mark Variable.fixed State.fix "readonly" 'r'

/-- Variables of a function are put back as they were at its end. -/
def local' : Builtin := fun words => do
  for word in words do
    let (name, value) := splitSetting word
    let s ← get
    if s.flow = .onward then
      match s.saved with
      | [] => set (s.giveUp "not in a function".toList)
      | saved :: outer =>
        if !Command.isName name then set ({ s with title := [] }.giveUp (badName s.dialect name))
        else
          let s := { s with saved := ((name, s.holder? name) :: saved) :: outer }
          set (match value with
            | some value => s.assign name value
            | none => if s.dialect = Dialect.standard then s else s.without name)
  succeedUnlessFailed

/-- The characters of a line, up to its end, protected where a backslash stands before
them; whether there was an end; and whether the next line belongs to it as well. -/
def readMarks (raw : Bool) (stop : Char) : Bytes → List Mark × Bool × Bool
  | [] => ([], false, false)
  | '\\' :: rest =>
    if raw then
      let (marks, ended, goesOn) := readMarks raw stop rest
      (('\\', false) :: marks, ended, goesOn)
    else
      match rest with
      | [] => ([], false, false)
      | ['\n'] => ([], false, true)
      | c :: rest =>
        let (marks, ended, goesOn) := readMarks raw stop rest
        ((c, true) :: marks, ended, goesOn)
  | c :: rest =>
    if c = stop then ([], true, false)
    else
      let (marks, ended, goesOn) := readMarks raw stop rest
      (if c = '\x00' then marks else (c, false) :: marks, ended, goesOn)

/-- Reads a line from a stream, together with those behind it that belong to it. The
number bounds how many these are. -/
def takeLine (raw : Bool) (n : Nat) : Nat → Host → List Mark × Bool × Host
  | 0, h => ([], false, h)
  | fuel + 1, h =>
    match h.nextLine n with
    | .error _ => ([], false, h)
    | .ok line =>
      let h := h.skip n line.length
      let (marks, ended, goesOn) := readMarks raw '\n' line
      let h := if ended || goesOn then h else h.reachEnd n
      if goesOn then
        let (more, ended, h) := takeLine raw n fuel h
        (marks ++ more, ended, h)
      else (marks, ended, h)

/-- Gives the fields of a line to names; the last one gets all that is left. -/
def giveFields (separators : Bytes) : List Bytes → List Mark → State → State
  | [], _, s => s
  | [name], marks, s =>
    s.assign name (Piece.lastField separators (marks.dropWhile (Piece.isGap separators)))
  | name :: names, marks, s =>
    let (field, rest) :=
      Piece.firstField separators (marks.dropWhile (Piece.isGap separators))
    giveFields separators names rest (s.assign name field)

/-- How many lines may be read as one. -/
def maxLines : Nat := 100000

/-- Gives variables the fields of the next line of the input. -/
def read : Builtin := fun words => do
  let s ← get
  let o : Options := match s.dialect with
    | .standard => { flags := "r", valued := "p", anywhere := false }
    | .extended => { flags := "res", valued := "pntuid", anywhere := false }
  match Words.read o words with
  | .error f =>
    let what := match f with
      | .unknownLetter c => "Illegal option -".toList ++ [c]
      | .unknownName _ => "Illegal option --".toList
      | .lacksValue c => "No arg for -".toList ++ c :: " option".toList
    refuse what 2
  | .ok w =>
    let names := if w.rest = [] && s.dialect = .extended then ["REPLY".toList] else w.rest
    match names.find? fun name => !Command.isName name with
    | some name => refuse (badName s.dialect name) (if s.dialect = .standard then 2 else 1)
    | none =>
      let channel := ((w.value? 'u').bind count?).getD 0
      if names = [] then refuse "arg count".toList 2
      else
        match s.channels.lookup channel with
        | none => set { s with status := 1 }
        | some n =>
          let (marks, ended, host) := takeLine (w.has "r") n maxLines s.toHost
          let s := { s with toHost := host }
          let s := if w.rest = [] then s.assign "REPLY".toList (marks.map Prod.fst)
            else giveFields s.separators names marks s
          set (if s.flow = .onward then { s with status := if ended then 0 else 1 } else s)

/-- The row of a table in which an alias stands. The rows are listed one by one. -/
def aliasRow (name : Bytes) : Nat :=
  name.foldl (fun n c => n + c.toNat) (16 * (name.headD '\x00').toNat) % 39

/-- The aliases in the order in which they are listed. -/
def aliasList (s : State) : List (Bytes × Bytes) :=
  match s.dialect with
  | .standard => s.aliases.mergeSort fun a b => aliasRow a.1 ≤ aliasRow b.1
  | .extended => s.aliases.mergeSort fun a b => a.1 ≤ b.1

/-- Makes aliases or shows them. -/
def alias' : Builtin := fun words => do
  succeed
  let front := match (← get).dialect with
    | .standard => []
    | .extended => "alias ".toList
  if words = [] then
    modify fun s => s.print
      (Text.unlines ((aliasList s).map fun a => front ++ shownSetting a.1 a.2))
  for word in words do
    let s : State ← get
    match splitSetting word with
    | (name, some value) =>
      let others := s.aliases.filter fun a => a.1 != name
      set { s with aliases := others ++ [(name, value)] }
    | (name, none) =>
      match s.aliases.lookup name with
      | some value => set (s.print (front ++ shownSetting name value ++ ['\n']))
      | none =>
        let said := match s.dialect with
          | .standard => s.say ("alias: ".toList ++ name ++ " not found\n".toList)
          | .extended => s.complain (name ++ ": not found".toList)
        set { said with status := 1 }

/-- Takes aliases away. -/
def unalias : Builtin := fun words =>
  withOptions "a" words fun letters words => do
    succeed
    if letters.contains 'a' then modify fun s => { s with aliases := [] }
    for name in words do
      let s ← get
      if (s.aliases.lookup name).isSome then
        set { s with aliases := s.aliases.filter fun a => a.1 != name }
      else
        let said := match s.dialect with
          | .standard => s.say ("unalias: ".toList ++ name ++ " not found\n".toList)
          | .extended => s.complain (name ++ ": not found".toList)
        set { said with status := 1 }

end Weave.Shell.Builtin
