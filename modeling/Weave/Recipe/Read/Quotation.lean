import Weave.Recipe.Read.Basic

/-!
# Reading texts in recipes

A backslash in a text stands for something together with what is behind it, unless the
text is raw. In a text with terms, what stands in braces is a term, which may have a
conversion and a format.
-/
namespace Weave.Recipe.Quotation

/-- What so many digits at the front of a text count, and what is behind them. -/
def coded (base count : Nat) (t : Text) : Option (Char × Text) :=
  let digits := (t.take count).takeWhile fun c => Escape.digitOf c < base
  if digits.isEmpty || (base = 16 && digits.length < count) then none
  else some (Char.ofNat (Escape.numberIn base digits), t.drop digits.length)

/-- What the escapes in a text stand for. -/
def meaning (isBytes : Bool) : Nat → Text → Text
  | 0, _ => []
  | fuel + 1, t =>
    match t with
    | [] => []
    | '\\' :: '\n' :: rest => meaning isBytes fuel rest
    | '\\' :: c :: rest =>
      let code (base count : Nat) (t : Text) : Text :=
        match coded base count t with
        | some (meant, rest) => meant :: meaning isBytes fuel rest
        | none => '\\' :: c :: meaning isBytes fuel rest
      if c = '\'' || c = '"' then c :: meaning isBytes fuel rest
      else if c = 'x' then code 16 2 rest
      else if c = 'u' && !isBytes then code 16 4 rest
      else if c = 'U' && !isBytes then code 16 8 rest
      else if Escape.isOctal c then code 8 3 (c :: rest)
      else
        match (Escape.letters.lookup c).filter fun _ => c ≠ 'e' with
        | some meant => meant :: meaning isBytes fuel rest
        | none => '\\' :: c :: meaning isBytes fuel rest
    | c :: rest => c :: meaning isBytes fuel rest

/-- The first character behind a backslash that stands for itself together with it, and
how many lines are before. -/
def strayEscape? (isBytes : Bool) : Nat → Nat → Text → Option (Nat × Char)
  | 0, _, _ => none
  | fuel + 1, line, t =>
    match t with
    | [] => none
    | '\\' :: c :: rest =>
      let isKnown := c = '\n' || c = '\'' || c = '"' || c = 'x' || Escape.isOctal c
        || (!isBytes && (c = 'u' || c = 'U' || c = 'N'))
        || (c ≠ 'e' && (Escape.letters.lookup c).isSome)
      if isKnown then strayEscape? isBytes fuel (if c = '\n' then line + 1 else line) rest
      else some (line, c)
    | c :: rest => strayEscape? isBytes fuel (if c = '\n' then line + 1 else line) rest

/-- How many characters of a text in braces belong to the term. -/
def partLength : Nat → Nat → Option Char → Text → Nat
  | 0, _, _, _ => 0
  | fuel + 1, depth, inner, t =>
    let go (n depth : Nat) (inner : Option Char) (rest : Text) : Nat :=
      partLength fuel depth inner rest + n
    match t with
    | [] => 0
    | c :: rest =>
      match inner with
      | some quote => go 1 depth (if c = quote then none else some quote) rest
      | none =>
        let next := rest.head?
        if c = '\'' || c = '"' then go 1 depth (some c) rest
        else if c = '(' || c = '[' || c = '\x7b' then go 1 (depth + 1) none rest
        else if depth = 0 then
          if c = '\x7d' || c = ':' then 0
          else if (c = '=' || c = '!' || c = '<' || c = '>') && next = some '=' then
            go 2 0 none (rest.drop 1)
          else if c = '!' then 0
          else if c = '=' then
            match (rest.dropWhile (· = ' ')).head? with
            | some d => if d = '!' || d = ':' || d = '\x7d' then 0 else go 1 0 none rest
            | none => 0
          else go 1 0 none rest
        else if c = ')' || c = ']' || c = '\x7d' then go 1 (depth - 1) none rest
        else go 1 depth none rest

open Reader Token

/-- Reads a term that stands at a place of its own. -/
def readPart (term : Reader Term) (c : Cursor) : Reader Term := do
  let tokens ← ofPart c
  let outside ← get
  set { outside with tokens := tokens }
  let t ← term
  match ← peek with
  | ⟨.ending, _, _⟩ =>
    modify fun r => { outside with yields := r.yields }
    return t
  | _ => fail "f-string: invalid syntax"

/-- The parts of a text with terms. A format ends at a closing brace. -/
def parts (term : Reader Term) (isRaw inFormat : Bool) :
    Nat → Cursor → Reader (List Term × Cursor)
  | 0, c => return ([], c)
  | fuel + 1, c => do
    let plain := (c.rest.takeWhile fun d => d ≠ '\x7b' && d ≠ '\x7d')
    if !plain.isEmpty then
      let (more, after) ← parts term isRaw inFormat fuel (c.skip plain.length)
      let meant := if isRaw then plain else meaning false (plain.length + 1) plain
      return (.text meant :: more, after)
    match c.rest with
    | [] => return ([], c)
    | '\x7d' :: rest =>
      if inFormat then return ([], c)
      else if rest.head? = some '\x7d' then
        let (more, after) ← parts term isRaw inFormat fuel (c.skip 2)
        return (.text ['\x7d'] :: more, after)
      else failAt (c.spanTo (c.skip 1)) "f-string: single '\x7d' is not allowed"
    | _ :: rest =>
      if rest.head? = some '\x7b' && !inFormat then
        let (more, after) ← parts term isRaw inFormat fuel (c.skip 2)
        return (.text ['\x7b'] :: more, after)
      else
        let start := c.skip 1
        let length := partLength (start.rest.length + 1) 0 none start.rest
        let word := start.rest.take length
        if word.all fun d => d = ' ' then
          failAt (start.spanTo (start.skip 1)) "f-string: valid expression required before '\x7d'"
        let blanks := (word.takeWhile (· = ' ')).length
        let inner := start.skip blanks
        let t ← readPart term { inner with rest := inner.rest.take (length - blanks) }
        let after := start.skip length
        let (told, after) := match after.rest with
          | '=' :: more =>
            let wide := '=' :: more.takeWhile (· = ' ')
            (some (word ++ wide), after.skip wide.length)
          | _ => (none, after)
        let (conversion, after) := match after.rest with
          | '!' :: kind :: _ => (some kind, after.skip 2)
          | _ => (none, after)
        let (format, after) ← match after.rest with
          | ':' :: _ => parts term isRaw true fuel (after.skip 1)
          | _ => pure ([], after)
        match after.rest with
        | '\x7d' :: _ =>
          let (more, last) ← parts term isRaw inFormat fuel (after.skip 1)
          let conversion := if told.isSome && format.isEmpty then conversion.or (some 'r')
            else conversion
          let shown := Term.shown (start.spanTo (start.skip length)) t conversion (.joined format)
          let all := match told with
            | some words => [.text words, shown]
            | none => [shown]
          return (all ++ more, last)
        | _ => failAt (c.spanTo start) "f-string: expecting '\x7d'"

/-- One text of those that stand behind one another. -/
def one (term : Reader Term) (letters body : Text) (isTriple : Bool) (span : Span) :
    Reader Term := do
  let isRaw := letters.contains 'r'
  let meant (isBytes : Bool) : Text :=
    if isRaw then body else meaning isBytes (body.length + 1) body
  if !isRaw then
    if let some (n, c) := strayEscape? (letters.contains 'b') (body.length + 1) span.line body then
      modify fun r => { r with warnings := r.warnings ++ [(n, c)] }
  if letters.contains 'b' then return .bytes (meant true)
  if !letters.contains 'f' then return .text (meant false)
  let width := letters.length + (if isTriple then 3 else 1)
  let (ts, _) ← parts term isRaw false (2 * body.length + 2)
    ⟨body, span.line, span.column + width⟩
  return .joined ts

/-- Texts that stand behind one another as one. -/
def together (a b : Term) : Reader Term := do
  match a, b with
  | .text s, .text t => return .text (s ++ t)
  | .bytes s, .bytes t => return .bytes (s ++ t)
  | .text s, .joined t => return .joined (.text s :: t)
  | .joined s, .text t => return .joined (s ++ [.text t])
  | .joined s, .joined t => return .joined (s ++ t)
  | _, _ => fail "cannot mix bytes and nonbytes literals"

/-- Reads the texts that stand here. -/
def read (term : Reader Term) : Nat → Option Term → Reader Term
  | 0, t => return t.getD (.text [])
  | n + 1, before => do
    match ← peek with
    | ⟨.text letters body isTriple, _, span⟩ =>
      take
      let t ← one term letters body isTriple span
      match before with
      | none => read term n (some t)
      | some a => read term n (some (← together a t))
    | _ => return before.getD (.text [])

example : meaning false 20 "a\\n\\x41\\101\\q".toList = "a\nAA\\q".toList := by decide

end Weave.Recipe.Quotation
