import Weave.Shell.Piece
import Weave.Shell.State
import Weave.Shell.Sum

/-!
# Words in place of words

Before a command runs, its words are expanded: parameters, the output of
commands and sums take the place of what names them, what came from them
unquoted is split into fields, and fields with unquoted pattern characters are
replaced by the names of the files they match, if there are any.
-/
namespace Weave.Shell

/-!
## Homes
-/

namespace Home

/-- Where a user is at home, who is named or not. -/
def ofUser? (s : State) (name : Bytes) : Option Bytes :=
  match String.ofList name with
  | "" => (s.value? "HOME".toList).filter (· ≠ [])
  | "root" => some "/root".toList
  | "nobody" => some "/nonexistent".toList
  | _ => none

/-- Puts where a user is at home in place of the name behind a tilde at the front. -/
def atFront (s : State) : Word → Word
  | .char '~' false :: rest =>
    let isName (part : Part) : Bool := match part with
      | .char c false => c != '/'
      | _ => false
    let name := rest.takeWhile isName
    let behind := rest.drop name.length
    let ends := behind = [] || behind.head? = some (.char '/' false)
    match if ends then ofUser? s (Word.chars name) else none with
    | some home => home.map (.char · true) ++ behind
    | none => .char '~' false :: rest
  | w => w

def splitAtColons : Word → List Word
  | [] => [[]]
  | part :: rest =>
    if part = .char ':' false then [] :: splitAtColons rest
    else
      match splitAtColons rest with
      | [] => [[part]]
      | first :: more => (part :: first) :: more

/-- Does so at the front and behind every colon. -/
def inSetting (s : State) (w : Word) : Word :=
  List.intercalate [.char ':' false] ((splitAtColons w).map (atFront s))

end Home

namespace Glob

/-- The components of a pattern between its slashes. -/
def components : List Mark → List (List Mark)
  | [] => [[]]
  | m :: rest =>
    if m.1 = '/' then [] :: components rest
    else
      match components rest with
      | [] => [[m]]
      | first :: more => (m :: first) :: more

/-- The names in a directory that match; hidden ones only if the pattern begins
with a dot. In the standard dialect the directory itself and the one above it are
among them. -/
def matching (d : Dialect) (files : FileTree) (dir : Bytes) (pattern : List Mark) :
    List Bytes :=
  let path := if dir = [] then Path.dot else Bytes.toName dir
  match files.find path with
  | .ok (place, ⟨.directory, _, _, _⟩) =>
    let above := if d = .standard then [".".toList, "..".toList] else []
    let names := above ++ (files.namesAt place).map Bytes.ofText
    names.filter fun name =>
      (name.head? != some '.' || (pattern.head?.any fun m => m.1 = '.'))
        && Pattern.isMatch (Pattern.ofMarks pattern) name
  | _ => []

/-- The paths that a pattern matches below a directory. -/
def paths (d : Dialect) (files : FileTree) : Bytes → List (List Mark) → List Bytes
  | dir, [] => [dir]
  | dir, [last] =>
    if Pattern.isMagic last then (matching d files dir last).map (dir ++ ·)
    else
      let path := dir ++ last.map Prod.fst
      if (files.findSelf (Bytes.toName path)).toOption.isSome then [path] else []
  | dir, first :: rest =>
    if Pattern.isMagic first then
      ((matching d files dir first).filter fun name =>
        files.isDirectory (Bytes.toName (dir ++ name))).flatMap fun name =>
          paths d files (dir ++ name ++ ['/']) rest
    else paths d files (dir ++ first.map Prod.fst ++ ['/']) rest

/-- The field itself, or the paths that it matches. -/
def expand (d : Dialect) (files : FileTree) (field : List Mark) : List Bytes :=
  if Pattern.isMagic field then
    match paths d files [] (components field) with
    | [] => [field.map Prod.fst]
    | found => found.mergeSort (· ≤ ·)
  else [field.map Prod.fst]

end Glob

namespace Expand

/-- Runs a script that begins in a certain line and gives what it prints. -/
abbrev Catch := Nat → Bytes → Step Bytes

/-- The number that a variable holds, zero if it holds nothing. -/
def numberIn (s : State) (name : Bytes) : Except Sum.Fault Int :=
  match (s.value? name).getD [] with
  | [] => .ok 0
  | t =>
    match Sum.numberOf? t with
    | some n => .ok n
    | none => .error (.notNumber t)

/-- The value of a sum, which may set variables. -/
def sum (t : Bytes) : Step Bytes := do
  let shown (n : Int) : Bytes := (toString n).toList
  let empty := t.all fun c => c = ' ' || c = '\t' || c = '\n'
  if empty && (← get).dialect = .extended then return ['0']
  else
    match Sum.eval (numberIn (← get)) t with
    | .ok (n, given) =>
      modify fun s => given.foldr (fun g s => s.assign g.1 (shown g.2)) s
      return shown n
    | .error f =>
      modify fun s => s.giveUp (f.message t)
      return []

/-- The value of a parameter, where there must be one if the shell is asked to
insist on it. -/
def valueOrNothing (name : Bytes) : Step Bytes := do
  let s ← get
  match s.value? name with
  | some t => return t
  | none =>
    if s.options.contains 'u' then
      set (s.giveUp (name ++ match s.dialect with
        | .standard => ": parameter not set".toList
        | .extended => ": unbound variable".toList))
    return []

def isParameter (name : Bytes) : Bool :=
  match name with
  | [c] => c.isDigit || Word.isSpecial c || Word.isNameStart c
  | name => Command.isName name || (name != [] && name.all Char.isDigit)

/-- What stands between arguments that are made one text. -/
def joint (s : State) : Bytes := s.separators.head?.toList

def isAll (name : Bytes) : Bool := name = ['@'] || name = ['*']

/-- The value of a parameter as one text, in which arguments that stay apart have a
character of their own between them. -/
def valueOf? (s : State) (name : Bytes) (quoted : Bool) : Option Bytes :=
  if isAll name then
    let mark := if quoted && name = ['*'] then joint s else [Piece.between]
    if s.arguments = [] then none else some (Text.joinWith mark s.arguments)
  else s.value? name

/-- The pieces of a value. -/
def piecesOfValue (name : Bytes) (quoted : Bool) (t : Bytes) : List Piece :=
  if isAll name && !(quoted && name = ['*']) then Piece.ofArguments quoted t
  else Piece.ofValue quoted t

/-- A value that there must be, if the shell insists on that. -/
def valueOf (name : Bytes) (quoted : Bool) : Step Bytes := do
  if isAll name then return (valueOf? (← get) name quoted).getD [] else valueOrNothing name

mutual

/-- The pieces of the parts of a word. -/
def pieces (catchOutput : Catch) : Nat → Word → Step (List Piece)
  | 0, _ => return []
  | _ + 1, [] => return []
  | fuel + 1, part :: rest => do
    let first ← piecesOf catchOutput fuel part
    let more ← pieces catchOutput fuel rest
    return first ++ more

/-- The pieces of a text that is a word itself. -/
def piecesOfText (catchOutput : Catch) : Nat → Setting → Bytes → Step (List Piece)
  | 0, _, _ => return []
  | fuel + 1, setting, t => do
    let s ← get
    match Word.ofText setting s.line t with
    | .error _ => return []
    | .ok w => pieces catchOutput fuel (if setting = .braces then Home.atFront s w else w)

def piecesOf (catchOutput : Catch) : Nat → Part → Step (List Piece)
  | 0, _ => return []
  | fuel + 1, part => do
    match part with
    | .char c quoted => return [.char c quoted false]
    | .nothing => return [.nothing]
    | .output script line _ quoted =>
      let text ← catchOutput line script
      return Piece.ofValue quoted ((text.reverse.dropWhile (· = '\n')).reverse)
    | .sum expression quoted =>
      let inner ← piecesOfText catchOutput fuel .document expression
      return Piece.ofValue quoted (← sum (Piece.text (joint (← get)) inner))
    | .parameter name change quoted =>
      if !isParameter name then
        modify fun s => s.giveUp "Bad substitution".toList
        return []
      else
        match change with
        | .plain => return piecesOfValue name quoted (← valueOf name quoted)
        | .length =>
          if isAll name then return Piece.ofValue quoted (Text.ofNat (← get).arguments.length)
          else return Piece.ofValue quoted (Text.ofNat (← valueOrNothing name).length)
        | .cut atEnd longest pattern =>
          let t ← valueOf name quoted
          let inner ← piecesOfText catchOutput fuel .braces pattern
          let elements := Pattern.ofMarks (Piece.marks (joint (← get)) inner)
          return piecesOfValue name quoted (Pattern.cut atEnd longest elements t)
        | .instead mark orEmpty word =>
          let s ← get
          let value := valueOf? s name quoted
          let given := match value with
            | none => false
            | some t => !(orEmpty && t = [])
          let setting := if quoted then Setting.enclosed else Setting.braces
          let other : Step (List Piece) := do
            let inner ← piecesOfText catchOutput fuel setting word
            return inner.map fun p => match p with
              | .char c q _ => .char c q (!quoted && !q)
              | p => p
          if mark = '+' then
            if given then
              let inner ← other
              return if quoted then .nothing :: inner else inner
            else return Piece.ofValue quoted []
          else if given then return piecesOfValue name quoted (value.getD [])
          else if mark = '-' then
            let inner ← other
            return if quoted then .nothing :: inner else inner
          else if mark = '=' then
            let text := Piece.text (joint s) (← other)
            modify fun s => s.assign name text
            return Piece.ofValue quoted text
          else
            let text := Piece.text (joint s) (← other)
            let usual := "parameter not set".toList ++
              if orEmpty then " or null".toList else []
            let message := if text = [] then usual else text
            modify fun s => s.giveUp (name ++ ": ".toList ++ message)
            return []

end

/-- The length of the text that a part may be expanded by. -/
def textLength : Part → Nat
  | .parameter _ (.instead _ _ word) _ => word.length + 1
  | .parameter _ (.cut _ _ pattern) _ => pattern.length + 1
  | .sum expression _ => expression.length + 1
  | _ => 1

/-- Enough for a word, whose parts nest no deeper than their texts are long. -/
def fuelFor (w : Word) : Nat :=
  w.foldl (fun n p => n + 8 * textLength p) 8

/-- The fields of a word. -/
def fields (catchOutput : Catch) (w : Word) : Step (List Bytes) := do
  let w := Home.atFront (← get) w
  let ps ← pieces catchOutput (fuelFor w) w
  let s ← get
  let marks := Piece.fields s.separators ps (.inl .behindMark)
  return if s.options.contains 'f' then marks.map fun field => field.map Prod.fst
    else marks.flatMap (Glob.expand s.dialect s.files)

/-- A word as one text. -/
def text (catchOutput : Catch) (w : Word) : Step Bytes := do
  let w := Home.atFront (← get) w
  let ps ← pieces catchOutput (fuelFor w) w
  return Piece.text (joint (← get)) ps

/-- What a variable is set to by a word. -/
def setting (catchOutput : Catch) (w : Word) : Step Bytes := do
  let w := Home.inSetting (← get) w
  let ps ← pieces catchOutput (fuelFor w) w
  return Piece.text (joint (← get)) ps

/-- The text of a document. -/
def document (catchOutput : Catch) (w : Word) : Step Bytes := do
  let ps ← pieces catchOutput (fuelFor w) w
  return Piece.text (joint (← get)) ps

/-- A word as a pattern. -/
def pattern (catchOutput : Catch) (w : Word) : Step (List Pattern.Element) := do
  let w := Home.atFront (← get) w
  let ps ← pieces catchOutput (fuelFor w) w
  return Pattern.ofMarks (Piece.marks (joint (← get)) ps)

end Expand

end Weave.Shell
