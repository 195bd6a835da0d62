import Weave.Shell.Builtin.Basic

/-!
# Options

The options of a shell are letters, most of which have names. They are given where a
shell begins and can be changed on the way. A script reads the options among its own
arguments one at a time.
-/
namespace Weave.Shell.Builtin

/-- The names of the options in the order in which they are listed. -/
def optionNames (d : Dialect) : List (String × Char) :=
  (if d = .extended then [("pipefail", 'P')] else []) ++
  [("errexit", 'e'), ("noglob", 'f'), ("ignoreeof", 'I'), ("interactive", 'i'), ("monitor", 'm'),
   ("noexec", 'n'), ("stdin", 's'), ("xtrace", 'x'), ("verbose", 'v'), ("vi", 'V'),
   ("emacs", 'E'), ("noclobber", 'C'), ("allexport", 'a'), ("notify", 'b'), ("nounset", 'u'),
   ("privileged", 'p'), ("nolog", 'l'), ("debug", 'd')]

def optionLetters : List Char := "aefIimnsxvVECbup".toList

/-- Options of a shell, and the words behind them, if two dashes or other words end
them. -/
structure Start where
  options : List Char := []
  /-- Whether the first word behind is a script itself. -/
  fromWord : Bool := false
  /-- Whether the options are to be listed, and as commands. -/
  lists : Option Bool := none
  rest : Option (List Bytes) := none

def Start.set (st : Start) (on : Bool) (letter : Char) : Start :=
  let others := st.options.filter (· ≠ letter)
  { st with options := if on then others ++ [letter] else others }

/-- Reads the letters of one word, which may be followed by names of options. What
is no option is the error. Where a shell begins, there may be a letter for a
script that is given as a word. -/
def readLetters (d : Dialect) (begins on : Bool) :
    Bytes → List Bytes → Start → Except Bytes (List Bytes × Start)
  | [], words, st => .ok (words, st)
  | 'o' :: letters, name :: words, st =>
    match (optionNames d).lookup (String.ofList name) with
    | some letter => readLetters d begins on letters words (st.set on letter)
    | none => .error ("-o ".toList ++ name)
  | 'o' :: letters, [], st => readLetters d begins on letters [] { st with lists := some (!on) }
  | c :: letters, words, st =>
    if begins && c = 'c' then readLetters d begins on letters words { st with fromWord := true }
    else if optionLetters.contains c then readLetters d begins on letters words (st.set on c)
    else .error ['-', c]

/-- Reads the options at the front of some words. The number bounds how many words
there are. -/
def readStart (d : Dialect) (begins : Bool) : Nat → List Bytes → Start → Except Bytes Start
  | fuel + 1, ('-' :: letters) :: words, st => do
    if letters = [] || letters = ['-'] then return { st with rest := some words }
    let (words, st) ← readLetters d begins true letters words st
    readStart d begins fuel words st
  | fuel + 1, ('+' :: letters) :: words, st => do
    let (words, st) ← readLetters d begins false letters words st
    readStart d begins fuel words st
  | _, [], st => .ok st
  | _, words, st => .ok { st with rest := some words }

/-- The list of the options, or the commands that set them. -/
def optionList (s : State) (asCommands : Bool) : Bytes :=
  let line := fun ((name, letter) : String × Char) =>
    let on := s.options.contains letter
    if asCommands then (if on then "set -o " else "set +o ").toList ++ name.toList
    else
      let gap := List.replicate (16 - name.length) ' '
      name.toList ++ gap ++ (if on then "on" else "off").toList
  let lines := (optionNames s.dialect).map line
  Text.unlines (if asCommands then lines else "Current option settings".toList :: lines)

/-- The variables that have a value, as settings, in the order of their names. -/
def variableList (s : State) : Bytes :=
  let lines :=
    s.vars.filterMap fun v => v.value.map fun value => (v.name, shownSetting v.name value)
  Text.unlines ((lines.mergeSort fun a b => a.1 ≤ b.1).map Prod.snd)

def set' : Builtin := fun words => do
  let s ← get
  if words = [] then set { s.print (variableList s) with status := 0 }
  else
    match readStart s.dialect false words.length words { options := s.options } with
    | .ok st =>
      let s := { s with options := st.options, arguments := st.rest.getD s.arguments, status := 0 }
      set (match st.lists with
        | some asCommands => s.print (optionList s asCommands)
        | none => s)
    | .error option => set (s.giveUp ("Illegal option ".toList ++ option))

/-- What is read of an argument next as an option: its letter or why there is none, its
value, and how far one has come then. -/
structure OptionFound where
  letter : Char
  value : Option Bytes := none
  index : Nat
  letters : Nat := 0
  isOver : Bool := false

/-- What is wrong with an option. -/
def optionFault (d : Dialect) (title : Bytes) (lacks : Bool) (c : Char) : Bytes :=
  match d with
  | .standard =>
    if lacks then "No arg for -".toList ++ c :: " option".toList
    else "Illegal option -".toList ++ [c]
  | .extended =>
    title ++ (if lacks then ": option requires an argument -- " else ": illegal option -- ").toList
      ++ [c]

/-- Reads the option behind `index` words and some letters of the last one of them. -/
def nextOption (known : Bytes) (words : List Bytes) (index letters : Nat) :
    OptionFound × Option (Bool × Char) :=
  let current := if letters = 0 || index = 0 then [] else ((words[index - 1]?).getD []).drop letters
  let silent := known.head? = some ':'
  let known := if silent then known.drop 1 else known
  let allRead (index : Nat) : OptionFound × Option (Bool × Char) :=
    ({ letter := '?', index, isOver := true }, none)
  let found (c : Char) (rest : Bytes) (index used : Nat) : OptionFound × Option (Bool × Char) :=
    match if c = ':' then [] else known.dropWhile (· ≠ c) with
    | [] => ({ letter := '?', value := if silent then some [c] else none, index
               letters := if rest = [] then 0 else used },
             if silent then none else some (false, c))
    | _ :: ':' :: _ =>
      match rest, words[index]? with
      | [], none =>
        ({ letter := if silent then ':' else '?'
           value := if silent then some [c] else none
           index },
         if silent then none else some (true, c))
      | [], some value => ({ letter := c, value := some value, index := index + 1 }, none)
      | value, _ => ({ letter := c, value := some value, index }, none)
    | _ =>
      ({ letter := c, value := some [], index, letters := if rest = [] then 0 else used }, none)
  match current with
  | c :: rest => found c rest index (letters + 1)
  | [] =>
    match words[index]? with
    | some ['-', '-'] => allRead (index + 1)
    | some ('-' :: c :: rest) => found c rest (index + 1) 2
    | _ => allRead index

/-- Gives a variable the next option among the arguments. -/
def getopts : Builtin := fun words => do
  let s ← get
  match words with
  | known :: name :: given =>
    if !Command.isName name then refuse (badName s.dialect name) 2
    else
      let arguments := if given = [] then s.arguments else given
      let index := ((s.value? State.optionIndex).bind count?).getD 1
      let (found, fault) := nextOption known arguments (index - 1) s.optionLetters
      let said := match fault with
        | none => s
        | some (lacks, c) => s.say (optionFault s.dialect s.name lacks c ++ ['\n'])
      let argument := "OPTARG".toList
      let given := if found.isOver then said
        else match found.value with
          | some [] => if s.dialect = .standard then said.set argument [] else said.without argument
          | some value => said.set argument value
          | none => said.without argument
      let moved := given.set State.optionIndex (Text.ofNat (found.index + 1))
      let named := moved.assign name [found.letter]
      set { named with optionLetters := found.letters, status := if found.isOver then 1 else 0 }
  | _ =>
    match s.dialect with
    | .standard => refuse "Usage: getopts optstring var [arg...]".toList 2
    | .extended => refuse "usage: getopts optstring name [arg ...]".toList 2

end Weave.Shell.Builtin
