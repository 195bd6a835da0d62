import Weave.Edit.Command

/-!
# Scripts for editing lines

A script holds commands. Braces join them, and marks name places to go to. What cannot be read of a script is told with
how much of it is left behind.
-/
namespace Weave.Edit

/-- What is wrong, and how much of the script is left behind it. -/
abbrev Refusal := Fault × Nat

abbrev Reading := Except Refusal

def isSpace (c : Char) : Bool := c = ' ' || c = '\t'

def dropSpaces (t : Bytes) : Bytes := t.dropWhile isSpace

/-!
## Expressions and addresses
-/

/-- The rest of a set up to its closing bracket, and what is behind it, if it is closed.
A bracket at its front does not close it. The number bounds how long it is. -/
def setRest? : Nat → Bool → Bytes → Option (Bytes × Bytes)
  | 0, _, _ => none
  | _, _, [] => none
  | fuel + 1, first, '^' :: rest => more (setRest? fuel first rest) ['^']
  | fuel + 1, first, ']' :: rest =>
    if first then more (setRest? fuel false rest) [']'] else some ([']'], rest)
  | fuel + 1, _, '[' :: ':' :: rest =>
    match Text.cutAt ":]".toList rest with
    | some (name, behind) => more (setRest? fuel false behind) ('[' :: ':' :: name ++ ":]".toList)
    | none => more (setRest? fuel false rest) "[:".toList
  | fuel + 1, _, c :: rest => more (setRest? fuel false rest) [c]
where
  more (found : Option (Bytes × Bytes)) (front : Bytes) : Option (Bytes × Bytes) :=
    found.map fun (t, rest) => (front ++ t, rest)

/-- The expression up to a mark that no backslash protects and that is in no set, and what
is behind it. A backslash before the mark is left out, and one before the letter for a
line end stands for that. The number bounds how long it is. -/
def expressionUpTo (mark : Char) : Nat → Bytes → Option (Bytes × Bytes)
  | 0, _ => none
  | _, [] => none
  | fuel + 1, '\\' :: c :: rest =>
    (expressionUpTo mark fuel rest).map fun (t, more) =>
      (if c = mark then c :: t else if c = 'n' then '\n' :: t else '\\' :: c :: t, more)
  | fuel + 1, '[' :: rest =>
    if mark = '[' then some ([], rest)
    else (setRest? (rest.length + 1) true rest).bind fun (inner, behind) =>
      (expressionUpTo mark fuel behind).map fun (t, more) => ('[' :: inner ++ t, more)
  | fuel + 1, c :: rest =>
    if c = mark then some ([], rest)
    else (expressionUpTo mark fuel rest).map fun (t, more) => (c :: t, more)

def upTo (mark : Char) (t : Bytes) : Option (Bytes × Bytes) :=
  expressionUpTo mark (t.length + 1) t

/-- The text up to a mark, where nothing is left out but backslashes before the mark. -/
def partUpTo (mark : Char) : Bytes → Option (Bytes × Bytes)
  | [] => none
  | '\\' :: c :: rest =>
    (partUpTo mark rest).map fun (t, more) =>
      (if c = mark && mark != '&' then c :: t else '\\' :: c :: t, more)
  | c :: rest =>
    if c = mark then some ([], rest)
    else (partUpTo mark rest).map fun (t, more) => (c :: t, more)

/-- The expression up to a mark; sets keep the mark if it stands in them. -/
def readExpression (style : Expression.Style) (anyCase : Bool) (t : Bytes) (left : Nat) :
    Reading (Option Expression) :=
  if t = [] then .ok none
  else match Expression.read style t with
    | .ok e => .ok (some (if anyCase then e.inAnyCase else e))
    | .error f => .error (.expression f, left)

/-- An address, if there is one, and what is behind it. -/
def readAddress (style : Expression.Style) (t : Bytes) : Reading (Option Address × Bytes) := do
  let delimited := match t with
    | '/' :: rest => some ('/', rest)
    | '\\' :: c :: rest => some (c, rest)
    | _ => none
  match t, delimited with
  | '$' :: rest, _ => return (some .last, rest)
  | _, some (mark, rest) =>
    match upTo mark rest with
    | none => throw (.openAddress, 0)
    | some (inner, rest) =>
      let flags := rest.takeWhile fun c => c = 'I' || c = 'M'
      let behind := rest.drop flags.length
      let e ← readExpression style (flags.contains 'I') inner behind.length
      return (some (.found e), behind)
  | t, none =>
    let digits := t.takeWhile Char.isDigit
    if digits = [] then return (none, t)
    let n := Escape.numberIn 10 digits
    match dropSpaces (t.drop digits.length) with
    | '~' :: rest =>
      let step := rest.takeWhile Char.isDigit
      return (some (.every n (Escape.numberIn 10 step)), rest.drop step.length)
    | rest => return (some (.line n), rest)

/-- Where a range ends, and what is behind that. -/
def readLimit (style : Expression.Style) (t : Bytes) : Reading (Limit × Bytes) := do
  let counted (rest : Bytes) : Nat × Bytes :=
    let digits := rest.takeWhile Char.isDigit
    (Escape.numberIn 10 digits, rest.drop digits.length)
  match t with
  | '+' :: rest => return (.further (counted rest).1, (counted rest).2)
  | '~' :: rest => return (.multipleOf (counted rest).1, (counted rest).2)
  | t =>
    match ← readAddress style t with
    | (some a, rest) => return (.address a, rest)
    | (none, rest) => throw (.comma, rest.length)

/-- Which lines a command is for, and what is behind that. -/
def readSelection (style : Expression.Style) (t : Bytes) : Reading (Selection × Bytes) := do
  if t.head?.any fun c => c = '+' || c = '~' then
    throw (.relative, (t.drop 1).dropWhile Char.isDigit |>.length)
  let (first, t) ← readAddress style t
  let t := dropSpaces t
  let (limit, t) ← match first, t with
    | some _, ',' :: rest =>
      let (limit, rest) ← readLimit style (dropSpaces rest)
      pure (some limit, dropSpaces rest)
    | _, t => pure (none, t)
  let isFound := match limit with
    | some (.address (.found _)) => true
    | _ => false
  if first = some (.line 0) && !isFound then throw (.lineZero, t.length - 1)
  match t with
  | '!' :: rest =>
    let rest := rest.dropWhile fun c => isSpace c || c = '!'
    return (⟨first, limit, true⟩, rest)
  | t => return (⟨first, limit, false⟩, t)

/-!
## Texts
-/

/-- What the character behind a backslash stands for in a text, and what is behind it. -/
def escapeIn (t : Bytes) : Bytes × Bytes :=
  match t with
  | [] => ([], [])
  | 'x' :: rest =>
    let digits := (rest.take 2).takeWhile fun c => Escape.digitOf c < 16
    if digits = [] then (['x'], rest)
    else ([Escape.byte (Escape.numberIn 16 digits)], rest.drop digits.length)
  | 'o' :: rest =>
    let digits := (rest.take 3).takeWhile Escape.isOctal
    if digits = [] then (['o'], rest)
    else ([Escape.byte (Escape.numberIn 8 digits)], rest.drop digits.length)
  | 'd' :: rest =>
    let digits := (rest.take 3).takeWhile Char.isDigit
    if digits = [] then (['d'], rest)
    else ([Escape.byte (Escape.numberIn 10 digits)], rest.drop digits.length)
  | 'c' :: c :: rest => ([Char.ofNat (c.toUpper.toNat ^^^ 64)], rest)
  | c :: rest =>
    match c with
    | 'a' => (['\x07'], rest)
    | 'f' => (['\x0c'], rest)
    | 'n' => (['\n'], rest)
    | 'r' => (['\r'], rest)
    | 't' => (['\t'], rest)
    | 'v' => (['\x0b'], rest)
    | c => ([c], rest)

/-- The text that a command puts in, up to the end of its line, and what is behind it. A
backslash before the end of a line lets the text go on. The number bounds how long it
is. -/
def readLines : Nat → Bytes → Bytes × Bytes
  | 0, t => ([], t)
  | _, [] => ([], [])
  | _, '\n' :: rest => ([], rest)
  | _, ['\\'] => ([], [])
  | fuel + 1, '\\' :: rest =>
    let (meant, behind) := escapeIn rest
    let (t, behind) := readLines fuel behind
    (meant ++ t, behind)
  | fuel + 1, c :: rest =>
    let (t, behind) := readLines fuel rest
    (c :: t, behind)

/-- The text behind the letter of a command that puts it in. -/
def readText (t : Bytes) : Reading (Bytes × Bytes) :=
  match dropSpaces t with
  | [] => .error (.noText, 0)
  | ['\\'] => .ok ([], [])
  | '\\' :: '\n' :: rest => withEnd (readLines (rest.length + 1) rest)
  | '\\' :: '\\' :: rest => withEnd (readLines (rest.length + 2) ('\\' :: rest))
  | '\\' :: rest => withEnd (readLines (rest.length + 1) rest)
  | rest => withEnd (readLines (rest.length + 1) rest)
where
  withEnd : Bytes × Bytes → Reading (Bytes × Bytes)
    | (t, rest) => .ok (t ++ ['\n'], rest)

/-- Puts a character in front of a replacement. -/
def cons (c : Char) : List Part → List Part
  | .text t :: rest => .text (c :: t) :: rest
  | rest => .text [c] :: rest

/-- The parts of a replacement. The number bounds how long it is. -/
def readParts : Nat → Bytes → List Part
  | 0, _ => []
  | _, [] => []
  | fuel + 1, '&' :: rest => .group 0 :: readParts fuel rest
  | fuel + 1, '\\' :: rest =>
    match rest with
    | 'U' :: rest => .casing .upper :: readParts fuel rest
    | 'L' :: rest => .casing .lower :: readParts fuel rest
    | 'u' :: rest => .casing .upperNext :: readParts fuel rest
    | 'l' :: rest => .casing .lowerNext :: readParts fuel rest
    | 'E' :: rest => .casing .plain :: readParts fuel rest
    | c :: more =>
      if c.isDigit then .group (c.toNat - '0'.toNat) :: readParts fuel more
      else
        let (meant, behind) := escapeIn rest
        meant.foldr cons (readParts fuel behind)
    | [] => [.text ['\\']]
  | fuel + 1, c :: rest => cons c (readParts fuel rest)

/-!
## Commands that stand in scripts
-/

/-- The flags of a substitution, and what is behind them. The number bounds how many
there are. -/
def readFlags (style : Expression.Style) : Nat → Bytes → Substitution × Bool →
    Reading (Substitution × Bool × Bytes)
  | 0, t, (s, anyCase) => .ok (s, anyCase, t)
  | fuel + 1, t, (s, anyCase) => do
    match t with
    | 'g' :: rest =>
      if s.all then throw (.doubleFlag 'g', rest.length)
      readFlags style fuel rest ({ s with all := true }, anyCase)
    | 'p' :: rest =>
      if s.prints then throw (.doubleFlag 'p', rest.length)
      readFlags style fuel rest ({ s with prints := true }, anyCase)
    | 'i' :: rest => readFlags style fuel rest (s, true)
    | 'I' :: rest => readFlags style fuel rest (s, true)
    | 'm' :: rest => readFlags style fuel rest (s, anyCase)
    | 'M' :: rest => readFlags style fuel rest (s, anyCase)
    | 'w' :: rest =>
      let name := (dropSpaces rest).takeWhile (· ≠ '\n')
      if name = [] then throw (.noFile, 0)
      return ({ s with file := some name }, anyCase, rest.dropWhile (· ≠ '\n'))
    | t =>
      let digits := t.takeWhile Char.isDigit
      if digits = [] then return (s, anyCase, t)
      let rest := t.drop digits.length
      let n := Escape.numberIn 10 digits
      if n = 0 then throw (.zeroth, rest.length)
      if s.nth != 1 then throw (.doubleFlag 'n', rest.length)
      readFlags style fuel rest ({ s with nth := n }, anyCase)

def groupCount : Expression → Nat
  | .both a b => groupCount a + groupCount b
  | .either a b => groupCount a + groupCount b
  | .many a _ _ => groupCount a
  | .group _ a => groupCount a + 1
  | _ => 0

/-- What stands behind a command, before the next one. -/
def readEnd (fault : Fault) (act : Act) (t : Bytes) : Reading (Act × Bytes) :=
  match dropSpaces t with
  | [] => .ok (act, [])
  | c :: rest =>
    if c = ';' || c = '\n' then .ok (act, rest)
    else if c = '#' || c = '\x7d' then .ok (act, c :: rest)
    else .error (fault, rest.length)

def readSubstitution (style : Expression.Style) (mark : Char) (t : Bytes) :
    Reading (Act × Bytes) := do
  match (upTo mark t).bind fun (e, rest) => (partUpTo mark rest).map fun r => (e, r) with
  | none => throw (.openSubstitution, 0)
  | some (e, inner, rest) =>
    let parts := readParts (inner.length + 1) inner
    let (s, anyCase, behind) ←
      readFlags style (rest.length + 1) rest ({ expression := none, replacement := parts }, false)
    let expression ← readExpression style anyCase e behind.length
    let greatest := (parts.filterMap fun p => match p with
      | .group n => some n
      | _ => none).foldl max 0
    if expression.any fun e => groupCount e < greatest then
      throw (.noReference greatest, behind.length)
    readEnd .unknownFlag (.substitute { s with expression }) behind

/-- The characters of a mapping, where backslashes stand for others. -/
def mapped : Nat → Bytes → Bytes
  | fuel + 1, '\\' :: rest =>
    match rest with
    | '\\' :: rest => '\\' :: mapped fuel rest
    | rest =>
      let (meant, behind) := escapeIn rest
      meant ++ mapped fuel behind
  | fuel + 1, c :: rest => c :: mapped fuel rest
  | _, _ => []

def readMapping (mark : Char) (t : Bytes) : Reading (Act × Bytes) := do
  match (partUpTo mark t).bind fun (old, rest) => (partUpTo mark rest).map fun r => (old, r) with
  | none => throw (.openMapping, 0)
  | some (old, new, rest) =>
    let (old, new) := (mapped (old.length + 1) old, mapped (new.length + 1) new)
    if old.length != new.length then throw (.unequal, rest.length)
    readEnd .surplus (.map (old.zip new)) rest

/-- A label up to a semicolon or the end of its line. -/
def readLabel (t : Bytes) : Bytes × Bytes :=
  let t := dropSpaces t
  let label := t.takeWhile fun c => c != '\n' && c != ';' && c != '\x7d' && !isSpace c
  let rest := dropSpaces (t.drop label.length)
  (label, match rest with
    | ';' :: rest => rest
    | rest => rest)

/-- A number that may stand behind a command. -/
def readNumber (t : Bytes) : Option Nat × Bytes :=
  let t := dropSpaces t
  let digits := t.takeWhile Char.isDigit
  (if digits = [] then none else some (Escape.numberIn 10 digits), t.drop digits.length)

def readName (act : Bytes → Act) (t : Bytes) : Reading (Act × Bytes) :=
  let name := (dropSpaces t).takeWhile (· ≠ '\n')
  if name = [] then .error (.noFile, (t.dropWhile (· ≠ '\n')).length)
  else .ok (act name, (t.dropWhile (· ≠ '\n')).drop 1)

/-- Commands that are one letter. -/
def letters : List (Char × Act) :=
  [('d', .delete), ('D', .deleteFirst), ('g', .takeHeld), ('G', .takeHeldToo), ('h', .hold),
   ('H', .holdToo), ('x', .exchange), ('n', .next), ('N', .nextToo), ('p', .show),
   ('P', .showFirst), ('=', .number), ('F', .fileName), ('z', .empty)]

/-- The command that begins with a letter, and what is behind it. -/
def readAct (style : Expression.Style) (s : Selection) (c : Char) (rest : Bytes) :
    Reading (Act × Bytes) := do
  let texts (act : Bytes → Act) : Reading (Act × Bytes) :=
    (readText rest).map fun (t, rest) => (act t, rest)
  match letters.lookup c with
  | some act => readEnd .surplus act rest
  | none =>
    match c with
    | 'a' => texts .append
    | 'i' => texts .insert
    | 'c' => texts .change
    | 'r' => readName .readFile rest
    | 'R' => readName .readLine rest
    | 'w' => readName .write rest
    | 'W' => readName .writeFirst rest
    | 'b' => return (.jump (readLabel rest).1, (readLabel rest).2)
    | 't' => return (.jumpIf true (readLabel rest).1, (readLabel rest).2)
    | 'T' => return (.jumpIf false (readLabel rest).1, (readLabel rest).2)
    | ':' =>
      if s.first.isSome then throw (.addressed ':', rest.length)
      let label := (dropSpaces rest).takeWhile fun c => c != '\n' && c != ';' && !isSpace c
      if label = [] then throw (.noLabel, rest.length)
      let behind := (dropSpaces rest).drop label.length
      return (.mark label, behind.dropWhile fun c => c != '\n' && c != ';')
    | 'l' => readEnd .surplus (.list (readNumber rest).1) (readNumber rest).2
    | 'q' =>
      if s.limit.isSome then throw (.twoAddresses, rest.length)
      readEnd .surplus (.quit false ((readNumber rest).1.getD 0)) (readNumber rest).2
    | 'Q' =>
      if s.limit.isSome then throw (.twoAddresses, rest.length)
      readEnd .surplus (.quit true ((readNumber rest).1.getD 0)) (readNumber rest).2
    | 'y' =>
      match rest with
      | mark :: rest => readMapping mark rest
      | [] => throw (.openMapping, 0)
    | 's' =>
      match rest with
      | mark :: rest => readSubstitution style mark rest
      | [] => throw (.openSubstitution, 0)
    | c => throw (.unknown c, rest.length)

/-- The commands of a script, behind some that are given, the last one first, with the
numbers of the groups that are open. `whole` is the length of the script, and the number
bounds how many commands there are. -/
def readCommands (style : Expression.Style) (whole : Nat) :
    Nat → Bytes → Array Command → List Nat → Reading (Array Command)
  | 0, _, done, _ => .ok done
  | fuel + 1, t, done, opened => do
    match t.dropWhile fun c => isSpace c || c = ';' || c = '\n' with
    | [] => if opened = [] then return done else throw (.openBrace, whole)
    | '#' :: rest => readCommands style whole fuel (rest.dropWhile (· ≠ '\n')) done opened
    | t =>
      let (s, t) ← readSelection style t
      match dropSpaces t with
      | [] => throw (.missing, 0)
      | '\n' :: rest => throw (.missing, rest.length + 1)
      | ';' :: rest => throw (.missing, rest.length)
      | '#' :: rest => throw (.addressed '#', rest.length)
      | '\x7b' :: rest =>
        readCommands style whole fuel rest (done.push ⟨s, .opening 0⟩) (done.size :: opened)
      | '\x7d' :: rest =>
        match opened with
        | [] => throw (.closedBrace, rest.length)
        | first :: opened =>
          if s.first.isSome then throw (.addressed '\x7d', rest.length)
          let command : Command := { done.getD first ⟨s, .closing⟩ with act := .opening done.size }
          let (_, rest) ← readEnd .surplus .closing rest
          readCommands style whole fuel rest ((done.setIfInBounds first command).push ⟨s, .closing⟩)
            opened
      | c :: rest =>
        let (act, rest) ← readAct style s c rest
        readCommands style whole fuel rest (done.push ⟨s, act⟩) opened

/-- The commands of a script, or what cannot be read of it. -/
def read (style : Expression.Style) (t : Bytes) : Reading (Array Command) :=
  readCommands style t.length (t.length + 1) t #[] []

end Weave.Edit
