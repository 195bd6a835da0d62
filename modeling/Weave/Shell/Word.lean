import Weave.Shell.Nest

/-!
# Words of a shell

A word is a list of parts: characters, parameters, and what is put in place of
a command or a sum. Quotes are not kept, but every part knows whether it was
quoted, because only what was not is split and matched with file names later.
What stands in braces or parentheses is kept as text and read when it is needed.
-/
namespace Weave.Shell

/-- What is made of the value of a parameter. -/
inductive Change where
  | plain
  | length
  /-- A mark of what to do where there is no value, or where it is empty too. -/
  | instead (mark : Char) (orEmpty : Bool) (word : Bytes)
  /-- Takes off what a pattern matches at one side. -/
  | cut (atEnd longest : Bool) (pattern : Bytes)
deriving Repr, DecidableEq

inductive Part where
  | char (c : Char) (quoted : Bool)
  | parameter (name : Bytes) (change : Change) (quoted : Bool)
  /-- What a script prints that begins in a certain line. It stands in parentheses or
  between backquotes. -/
  | output (script : Bytes) (line : Nat) (isBracketed quoted : Bool)
  | sum (expression : Bytes) (quoted : Bool)
  /-- Quotes with nothing between them. -/
  | nothing
deriving Repr, DecidableEq

abbrev Word := List Part

/-- Why a script cannot be read. -/
inductive Fault where
  | openQuote
  | openBackquote
  | openBrace
  | openSum
  /-- A script that no parenthesis closes, and the line it begins in. -/
  | openScript (script : Bytes) (line : Nat)
  /-- What a loop gives values to is no name. -/
  | loopName
  | functionName
  | unexpected (token : Bytes) (expected : Option Bytes)
deriving Repr, DecidableEq

/-- Where the parts of a word are read. -/
inductive Setting where
  /-- Up to a gap or an operator. -/
  | word
  /-- Up to the end. -/
  | braces
  /-- Up to the double quote. -/
  | quotes
  /-- Up to the end, where double quotes stand for themselves. -/
  | document
  /-- Up to the end, between double quotes, where more of them change nothing. -/
  | enclosed
deriving Repr, DecidableEq

namespace Setting

def quoted : Setting → Bool
  | word => false
  | braces => false
  | quotes => true
  | document => true
  | enclosed => true

end Setting

namespace Word

def isGap (c : Char) : Bool := c = ' ' || c = '\t'

/-- Whether an unquoted character ends a word. -/
def endsWord (c : Char) : Bool :=
  isGap c || c = '\n' || ";&|<>()".toList.contains c

def isNameStart (c : Char) : Bool :=
  c.isAlpha || c = '_'

def isNameChar (c : Char) : Bool :=
  c.isAlpha || c.isDigit || c = '_'

def isSpecial (c : Char) : Bool := "@*#?-$!0".toList.contains c

/-- Splits a text at the closing backquote and takes off the backslashes that
protect what is inside. -/
def toBackquote (inQuotes : Bool) : Bytes → Option (Bytes × Bytes)
  | [] => none
  | '\u0060' :: rest => some ([], rest)
  | '\\' :: c :: rest =>
    let free := c = '\u0060' || c = '\\' || c = '$' || (inQuotes && c = '"')
    (toBackquote inQuotes rest).map fun (t, more) => ((if free then [c] else ['\\', c]) ++ t, more)
  | c :: rest => (toBackquote inQuotes rest).map fun (t, more) => (c :: t, more)

/-- The name at the front: a word of letters, a number, or one sign. -/
def nameOf (t : Bytes) : Bytes :=
  match t with
  | [] => []
  | c :: rest =>
    if isNameStart c then c :: rest.takeWhile isNameChar
    else if c.isDigit then c :: rest.takeWhile Char.isDigit
    else if isSpecial c then [c]
    else []

/-- Where counting lines is. -/
inductive Spot where
  | plain
  | dollar
  /-- Directly behind the brace of a parameter. -/
  | brace
  /-- In the name of a parameter in braces. -/
  | name
  /-- Behind the sign that is the name of a parameter in braces, or the colon behind one. -/
  | sign
deriving Repr, DecidableEq

/-- Where counting lines is behind one more character. -/
def Spot.next (spot : Spot) (c : Char) : Spot :=
  match spot with
  | .dollar => if c = '\x7b' then .brace else if c = '$' then .dollar else .plain
  | .brace =>
    if isNameStart c || c.isDigit then .name else if isSpecial c then .sign else .plain
  | .name =>
    if isNameChar c then .name
    else if c = ':' then .sign
    else if c = '$' then .dollar
    else .plain
  | _ => if c = '$' then .dollar else .plain

/-- How many lines end in a text. An end of a line does not count where the name of a
parameter in braces ends by it. -/
def lineEnds (t : Bytes) : Nat :=
  (t.foldl (fun (n, spot) c =>
    let counts := c = '\n' && (spot = .plain || spot = .dollar)
    (if counts then n + 1 else n, Spot.next spot c)) (0, Spot.plain)).1

/-- What stands between braces behind a dollar sign. -/
def readBraces (t : Bytes) : Option (Bytes × Change) :=
  let ofName (t : Bytes) : Option (Bytes × Change) :=
    let name := nameOf t
    let rest := t.drop name.length
    if name = [] then none
    else
      match rest with
      | [] => some (name, .plain)
      | '%' :: '%' :: pattern => some (name, .cut true true pattern)
      | '%' :: pattern => some (name, .cut true false pattern)
      | '#' :: '#' :: pattern => some (name, .cut false true pattern)
      | '#' :: pattern => some (name, .cut false false pattern)
      | ':' :: c :: word =>
        if "-=?+".toList.contains c then some (name, .instead c true word) else none
      | c :: word => if "-=?+".toList.contains c then some (name, .instead c false word) else none
  match t with
  | '#' :: rest =>
    if rest != [] && nameOf rest = rest then some (rest, .length) else ofName t
  | t => ofName t

/-- Whether a backslash between double quotes protects a character. -/
def isProtectable (setting : Setting) (c : Char) : Bool :=
  c = '$' || c = '\u0060' || c = '\\' || (setting != .document && c = '"')
    || (setting = .enclosed && c = '\x7d')

/-- The text of a word that is nothing but unquoted characters. -/
def plain? (w : Word) : Option Bytes :=
  w.mapM fun part => match part with
    | .char c false => some c
    | _ => none

/-- The characters of a word, quoted or not. -/
def chars (w : Word) : Bytes :=
  w.filterMap fun part => match part with
    | .char c _ => some c
    | _ => none

/-- Whether the change of the parameter at the front takes off what a pattern matches. -/
def hasPattern (t : Bytes) : Bool :=
  match t.drop (nameOf t).length with
  | '#' :: _ => true
  | '%' :: _ => true
  | _ => false

mutual

/-- The parts of the word at the front, which begins in a certain line, and what is
behind it. The number bounds how many there are. -/
def read : Nat → Setting → Nat → Bytes → Except Fault (Word × Bytes)
  | 0, _, _, t => .ok ([], t)
  | _ + 1, setting, _, [] => if setting = .quotes then .error .openQuote else .ok ([], [])
  | fuel + 1, setting, line, c :: rest =>
    let q := setting.quoted
    let lineAt (behind : Bytes) : Nat :=
      line + ((c :: rest).take (rest.length + 1 - behind.length)).count '\n'
    let add (part : Part) (line : Nat) (rest : Bytes) : Except Fault (Word × Bytes) := do
      let (parts, rest) ← read fuel setting line rest
      return (part :: parts, rest)
    if setting = .word && endsWord c then .ok ([], c :: rest)
    else if setting = .quotes && c = '"' then .ok ([], rest)
    else if setting = .enclosed && c = '"' then read fuel setting line rest
    else if c = '\\' then
      match rest with
      | [] => add (.char '\\' q) line []
      | '\n' :: rest => read fuel setting (line + 1) rest
      | d :: rest =>
        if !q || isProtectable setting d then add (.char d true) line rest
        else add (.char '\\' q) line (d :: rest)
    else if c = '"' && !q then do
      let (inner, rest) ← read fuel .quotes line rest
      let (parts, rest) ← read fuel setting (lineAt rest) rest
      return ((if inner = [] then [.nothing] else inner) ++ parts, rest)
    else if c = '\'' && !q then
      let inner := rest.takeWhile (· ≠ '\'')
      match rest.drop inner.length with
      | [] => .error .openQuote
      | _ :: rest => do
        let (parts, rest) ← read fuel setting (lineAt rest) rest
        return ((if inner = [] then [.nothing] else inner.map (.char · true)) ++ parts, rest)
    else if c = '$' then do
      let (part, rest) ← readDollar fuel setting line rest
      add part (lineAt rest) rest
    else if c = '\u0060' then
      match toBackquote q rest with
      | none => .error .openBackquote
      | some (script, rest) => add (.output script 1 false q) (lineAt rest) rest
    else add (.char c q) (if c = '\n' then line + 1 else line) rest
termination_by structural x => x

/-- The part behind a dollar sign, which stands in a certain line, and what is
behind it. -/
def readDollar : Nat → Setting → Nat → Bytes → Except Fault (Part × Bytes)
  | 0, setting, _, t => .ok (.char '$' setting.quoted, t)
  | fuel + 1, setting, line, t =>
    let quoted := setting.quoted
    match t with
    | '(' :: '(' :: rest => do
      let (inner, rest) ← toSumEnd fuel line 0 rest
      return (.sum inner quoted, rest)
    | '(' :: rest =>
      match toParenthesis fuel {} rest with
      | .ok behind =>
        let inner := rest.take (rest.length - behind.length - 1)
        .ok (.output inner line true quoted, behind)
      | .error _ => .error (.openScript rest line)
    | '\x7b' :: rest => do
      let isFree := !quoted || hasPattern rest
      let missing := if setting = .quotes then Fault.openQuote else .openBrace
      let (inner, rest) ← toBrace fuel line isFree false missing rest
      match readBraces inner with
      | some (name, change) => return (.parameter name change quoted, rest)
      | none => return (.parameter inner .plain quoted, rest)
    | c :: rest =>
      if c.isDigit || isSpecial c then .ok (.parameter [c] .plain quoted, rest)
      else if isNameStart c then
        let name := nameOf (c :: rest)
        .ok (.parameter name .plain quoted, (c :: rest).drop name.length)
      else .ok (.char '$' quoted, c :: rest)
    | [] => .ok (.char '$' quoted, [])
termination_by structural x => x

/-- What is behind the part at the front of a text, if one begins there that has an end
of its own. -/
def behindPart : Nat → Nat → Bool → Bytes → Except Fault (Option Bytes)
  | 0, _, _, _ => .ok none
  | fuel + 1, line, quoted, t =>
    match t with
    | '\u0060' :: rest =>
      match toBackquote quoted rest with
      | some (_, behind) => .ok (some behind)
      | none => .error .openBackquote
    | '$' :: c :: rest =>
      if c = '(' || c = '\x7b' then do
        let (_, behind) ← readDollar fuel (if quoted then .quotes else .word) line (c :: rest)
        return some behind
      else .ok none
    | _ => .ok none
termination_by structural x => x

/-- Splits a text at the closing brace. Single quotes count only where they are free to,
and it is known whether a double quote is open. -/
def toBrace : Nat → Nat → Bool → Bool → Fault → Bytes → Except Fault (Bytes × Bytes)
  | 0, _, _, _, missing, _ => .error missing
  | fuel + 1, line, isFree, isOpen, missing, t => do
    let keep (n : Nat) (isOpen : Bool) : Except Fault (Bytes × Bytes) := do
      let (inner, rest) ← toBrace fuel line isFree isOpen missing (t.drop n)
      return (t.take n ++ inner, rest)
    match t with
    | [] => throw (if isOpen then .openQuote else missing)
    | '\\' :: _ :: _ => keep 2 isOpen
    | c :: rest =>
      if c = '"' then keep 1 (!isOpen)
      else if c = '\'' && isFree && !isOpen then
        let inner := rest.takeWhile (· ≠ '\'')
        if inner.length = rest.length then throw .openQuote
        keep (inner.length + 2) isOpen
      else if c = '\x7d' && !isOpen then return ([], rest)
      else
        match ← behindPart fuel line (isOpen || !isFree) t with
        | some behind => keep (t.length - behind.length) isOpen
        | none => keep 1 isOpen
termination_by structural x => x

/-- Splits a text at the parentheses that close a sum, inside of which so many others
are open. -/
def toSumEnd : Nat → Nat → Nat → Bytes → Except Fault (Bytes × Bytes)
  | 0, _, _, _ => .error .openSum
  | fuel + 1, line, depth, t => do
    let keep (n depth : Nat) : Except Fault (Bytes × Bytes) := do
      let (inner, rest) ← toSumEnd fuel line depth (t.drop n)
      return (t.take n ++ inner, rest)
    match t, depth with
    | [], _ => throw .openSum
    | '\\' :: _ :: _, depth => keep 2 depth
    | '(' :: _, depth => keep 1 (depth + 1)
    | ')' :: _, depth + 1 => keep 1 depth
    | ')' :: ')' :: rest, 0 => return ([], rest)
    | _, depth =>
      match ← behindPart fuel line true t with
      | some behind => keep (t.length - behind.length) depth
      | none => keep 1 depth
termination_by structural x => x

/-- What is behind the parenthesis that closes a script. -/
def toParenthesis : Nat → Scan → Bytes → Except Fault Bytes
  | 0, _, t => .error (.openScript t 0)
  | fuel + 1, s, t =>
    match t.dropWhile isGap with
    | [] => .error (.openScript [] 0)
    | '\\' :: '\n' :: rest => toParenthesis fuel s rest
    | '\n' :: rest =>
      toParenthesis fuel { s with begins := true, documents := [] }
        (Document.behind s.documents rest)
    | '#' :: rest => toParenthesis fuel s (rest.dropWhile (· ≠ '\n'))
    | t =>
      match operators.find? (Text.beginsWith · t) with
      | some mark =>
        let rest := t.drop mark.length
        if Text.beginsWith "<<".toList mark then do
          let (w, rest) ← read fuel .word 0 (rest.dropWhile isGap)
          let wanted : Document.Wanted := ⟨mark.length = 3, chars w⟩
          toParenthesis fuel { s with documents := s.documents ++ [wanted] } rest
        else
          match s.operator? mark with
          | some s => toParenthesis fuel s rest
          | none => .ok rest
      | none => do
        let (w, rest) ← read fuel .word 0 t
        toParenthesis fuel (s.word (plain? w)) rest

termination_by structural x => x
end

/-- How far reading may go at most in a text. -/
def bound (t : Bytes) : Nat := 4 * t.length + 4

/-- All parts of a text that begins in a certain line. -/
def ofText (setting : Setting) (line : Nat) (t : Bytes) : Except Fault Word :=
  (read (bound t) setting line t).map Prod.fst

/-- Whether any of a word was quoted. -/
def isQuoted (w : Word) : Bool :=
  w.any fun part => match part with
    | .char _ q => q
    | .nothing => true
    | _ => false

example : ((read 20 .word 1 "a\"b c\" d".toList).toOption.map Prod.fst) = some
    [.char 'a' false, .char 'b' true, .char ' ' true, .char 'c' true] := by decide

end Word

end Weave.Shell
