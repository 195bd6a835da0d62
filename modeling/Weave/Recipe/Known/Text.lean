import Weave.Recipe.Known.Basic
import Weave.Text.Replacement

/-!
# Methods of texts

Texts and bytes have most of their methods in common. Parts of them are found and replaced,
they are split and filled up, and values are put into formats.
-/
namespace Weave.Recipe.Known

/-- White space of texts. -/
def isSpace (c : Char) : Bool := Text.isBlank c || (28 ≤ c.toNat && c.toNat ≤ 31)

/-- A method of texts, which gives a text of the same nature. -/
def ofText (f : Given → (Text → Value) → Text → Step Value) : Known := fun g => do
  match ← g.self with
  | .text t => f g .text t
  | .bytes t => f g .bytes t
  | v =>
    typeFault ("descriptor requires a 'str' object but received a '" ++ (← get).kindName v ++ "'")

def plain (f : Text → Text) : Known := ofText fun _ wrap t => return wrap (f t)

def asks (f : Text → Bool) : Known := ofText fun _ _ t => return .bool (f t)

/-- The position of a part from another position on. -/
def find? (part : Text) : Nat → Text → Option Nat
  | i, t =>
    if part.isPrefixOf t then some i
    else
      match t with
      | [] => none
      | _ :: rest => find? part (i + 1) rest

/-- The positions of a part that do not overlap, the number bounds how many. -/
def findLast? (part t : Text) : Option Nat :=
  (find? part.reverse 0 t.reverse).map fun i => t.length - i - part.length

/-- The pieces between the first occurrences of a mark. -/
def splitAt (mark : Text) : Nat → Nat → Text → List Text
  | 0, _, t => [t]
  | _, 0, t => [t]
  | fuel + 1, count + 1, t =>
    match find? mark 0 t with
    | none => [t]
    | some i => t.take i :: splitAt mark fuel count (t.drop (i + mark.length))

/-- The words between white space, so many of them alone. -/
def splitBlank : Nat → Nat → Text → List Text
  | 0, _, _ => []
  | fuel + 1, count, t =>
    let t := t.dropWhile isSpace
    if t.isEmpty then []
    else
      match count with
      | 0 => [(t.reverse.dropWhile isSpace).reverse]
      | count + 1 =>
        let w := t.takeWhile fun c => !isSpace c
        w :: splitBlank fuel count (t.drop w.length)

/-- How often a text may be split. -/
def countOf (g : Given) (i : Nat) : Nat :=
  match (g.value? i "maxsplit").bind position? with
  | some n => if n < 0 then maxItems else n.toNat
  | none => maxItems

def split (fromEnd : Bool) : Known := ofText fun g wrap t => do
  let turn (t : Text) : Text := if fromEnd then t.reverse else t
  let count := countOf g 2
  let pieces ← match g.value 1 "sep" with
    | .none => pure (splitBlank (t.length + 1) count (turn t))
    | v => do
      let mark ← match v with
        | .text m => pure m
        | .bytes m => pure m
        | v => typeFault ("must be str or None, not " ++ (← get).kindName v)
      if mark.isEmpty then fail "ValueError" "empty separator"
      pure (splitAt (turn mark) (t.length + 1) count (turn t))
  makeList ((if fromEnd then (pieces.map List.reverse).reverse else pieces).map wrap)

/-- The lines of a text; some more characters than usual end them. -/
def lines (keeps : Bool) : Nat → Text → List Text
  | 0, _ => []
  | fuel + 1, t =>
    if t.isEmpty then []
    else
      let isEnd (c : Char) : Bool :=
        ['\n', '\r', '\x0b', '\x0c', '\x1c', '\x1d', '\x1e', '\u0085', '\u2028',
         '\u2029'].contains c
      let line := t.takeWhile fun c => !isEnd c
      let rest := t.drop line.length
      let width := if Text.beginsWith ['\r', '\n'] rest then 2 else min 1 rest.length
      (if keeps then line ++ rest.take width else line) :: lines keeps fuel (rest.drop width)

def strip (first last : Bool) : Known := ofText fun g wrap t => do
  let isGone : Char → Bool ← match g.value 1 "chars" with
    | .none => pure isSpace
    | .text cs => pure cs.contains
    | .bytes cs => pure cs.contains
    | v => typeFault ("strip arg must be None or str, not " ++ (← get).kindName v)
  let t := if first then t.dropWhile isGone else t
  return wrap (if last then (t.reverse.dropWhile isGone).reverse else t)

/-- Which part of a text is looked at, and how much lies before it. -/
def window (g : Given) (i : Nat) (t : Text) : Step (Nat × Text) := do
  let positions ← slicePositions (g.value i "start") (g.value (i + 1) "end") .none t.length
  return (positions.headD (min t.length
    (((g.value? i "start").bind position?).getD 0).toNat), pick t.toArray positions)

def finding (fromEnd needed : Bool) : Known := ofText fun g _ t => do
  let part ← g.text 1
  let (before, inner) ← window g 2 t
  match if fromEnd then findLast? part inner else find? part 0 inner with
  | some i => return .int (before + i)
  | none => if needed then fail "ValueError" "substring not found" else return .int (-1)

/-- Whether a text begins or ends with one of some parts. -/
def bounded (name : String) (test : Text → Text → Bool) : Known := ofText fun g _ t => do
  let (_, inner) ← window g 2 t
  match ← g.need 1 with
  | .text p => return .bool (test p inner)
  | .bytes p => return .bool (test p inner)
  | .tuple ps =>
    return .bool (ps.any fun p => match p with
      | .text p => test p inner
      | .bytes p => test p inner
      | _ => false)
  | v =>
    typeFault (name ++ " first arg must be str or a tuple of str, not " ++ (← get).kindName v)

def isPart (which : Char → Bool) (t : Text) : Bool := !t.isEmpty && t.all which

def isLetter (c : Char) : Bool :=
  c.isAlpha || (170 ≤ c.toNat && !Text.isBlank c && c ≠ '×' && c ≠ '÷')

/-- The first letter of each word is a great one. -/
def titled : Bool → Text → Text
  | _, [] => []
  | inWord, c :: rest =>
    (if inWord then c.toLower else c.toUpper) :: titled (isLetter c) rest

def capital : Text → Text
  | [] => []
  | c :: rest => c.toUpper :: rest.map Char.toLower

def isCase (has not : Char → Bool) (t : Text) : Bool := t.any has && !t.any not

/-- Fills a text up on its sides. -/
def filled (align : Char) : Known := ofText fun g wrap t => do
  let width := (← g.int 1).toNat
  let fill := match g.value 2 "fillchar" with
    | .text [c] => c
    | .bytes [c] => c
    | _ => ' '
  let missing := width - t.length
  if align = '^' then
    let left := missing / 2 + (if missing % 2 = 1 && width % 2 = 1 then 1 else 0)
    return wrap (List.replicate left fill ++ t ++ List.replicate (missing - left) fill)
  return wrap (Layout.pad { fill := fill, width := width } align [] t)

def replaced : Known := ofText fun g wrap t => do
  let old ← g.text 1
  let new ← g.text 2
  match (g.value? 3 "count").bind position? with
  | some n =>
    if 0 ≤ n then
      let pieces := splitAt old (t.length + 1) n.toNat t
      return wrap (Text.joinWith new pieces)
    return wrap (Text.replaceAll old new t)
  | none => return wrap (Text.replaceAll old new t)

def joined : Known := ofText fun g wrap t => do
  let items ← itemsOf g.again (← g.need 1)
  let isBytes := match wrap [] with
    | .bytes _ => true
    | _ => false
  let parts ← items.zipIdx.mapM fun (v, i) => do
    match v, isBytes with
    | .text p, false => pure p
    | .bytes p, true => pure p
    | v, _ =>
      typeFault ("sequence item " ++ toString i ++ ": expected "
        ++ (if isBytes then "a bytes-like object" else "str instance") ++ ", "
        ++ (← get).kindName v ++ " found")
  return wrap (Text.joinWith t parts)

def parted (fromEnd : Bool) : Known := ofText fun g wrap t => do
  let mark ← g.text 1
  if mark.isEmpty then fail "ValueError" "empty separator"
  match if fromEnd then findLast? mark t else find? mark 0 t with
  | some i => return .tuple [wrap (t.take i), wrap mark, wrap (t.drop (i + mark.length))]
  | none =>
    return .tuple (if fromEnd then [wrap [], wrap [], wrap t] else [wrap t, wrap [], wrap []])

def counted : Known := ofText fun g _ t => do
  let part ← g.text 1
  let (_, inner) ← window g 2 t
  if part.isEmpty then return .int (inner.length + 1)
  return .int ((splitAt part (inner.length + 1) maxItems inner).length - 1)

/-- Fills a number up with zeros behind its sign. -/
def zeroFilled : Known := ofText fun g wrap t => do
  let width := (← g.int 1).toNat
  let (sign, digits) := match t with
    | c :: rest => if c = '-' || c = '+' then ([c], rest) else ([], t)
    | [] => ([], [])
  return wrap (sign ++ List.replicate (width - t.length) '0' ++ digits)

def encoded : Known := fun g => do return .bytes (Bytes.ofText (← g.text 0))

def decodedText : Known := fun g => do
  let t ← g.text 0
  match g.value 2 "errors" with
  | .text e =>
    if e = "replace".toList then return .text (Bytes.toText t)
    if e = "ignore".toList then return .text ((Bytes.toText t).filter (· ≠ Bytes.replacement))
    return .text (← decoded t)
  | _ => return .text (← decoded t)

/-- The value that a field of a format names: a position or a name, with attributes and
indices behind it. -/
def fieldValue (g : Given) (next : Nat) (t : Text) : Step (Value × Nat) := do
  let first := t.takeWhile fun c => c ≠ '.' && c ≠ '['
  let (v, next) ← if first.isEmpty then do
      match g.plain[next]? with
      | some v => pure (v, next + 1)
      | none =>
        fail "IndexError" ("Replacement index " ++ toString (next - 1)
          ++ " out of range for positional args tuple")
    else if first.all Char.isDigit then do
      match g.plain[Decimal.value first + 1]? with
      | some v => pure (v, next)
      | none =>
        fail "IndexError" ("Replacement index " ++ String.ofList first
          ++ " out of range for positional args tuple")
    else do
      match g.named.lookup (String.ofList first) with
      | some v => pure (v, next)
      | none => raise (← makeFault "KeyError" [.text first] [])
  return (← behind (t.length + 1) v (t.drop first.length), next)
where
  behind : Nat → Value → Text → Step Value
    | 0, v, _ => return v
    | fuel + 1, v, t => do
      match t with
      | '.' :: rest =>
        let name := rest.takeWhile fun c => c ≠ '.' && c ≠ '['
        behind fuel (← g.again (.attribute v (String.ofList name))) (rest.drop name.length)
      | '[' :: rest =>
        let key := rest.takeWhile (· ≠ ']')
        let i := if key.all Char.isDigit && !key.isEmpty then Value.int (Decimal.value key)
          else .text key
        behind fuel (← g.again (.index v i)) (rest.drop (key.length + 1))
      | _ => return v

/-- A value after a conversion. -/
def converted (again : Again) (v : Value) (conversion : Option Char) : Step Value := do
  match conversion with
  | some 'r' => return .text (← shownWhole again v)
  | some 'a' => return .text (← shownWhole again v)
  | some 's' => return .text (← textOf again v)
  | _ => return v

/-- Puts values into a format. -/
def format (g : Given) : Nat → Nat → Text → Step Text
  | 0, _, _ => return []
  | fuel + 1, next, t => do
    match t with
    | [] => return []
    | '\x7b' :: '\x7b' :: rest => return '\x7b' :: (← format g fuel next rest)
    | '\x7d' :: '\x7d' :: rest => return '\x7d' :: (← format g fuel next rest)
    | '\x7b' :: rest =>
      let field := rest.takeWhile fun c => c ≠ '\x7d' && c ≠ ':' && c ≠ '!'
      let rest := rest.drop field.length
      let (conversion, rest) := match rest with
        | '!' :: c :: more => (some c, more)
        | more => (none, more)
      let (v, next) ← fieldValue g next field
      let (l, rest) ← match rest with
        | ':' :: more => do
          let l := more.takeWhile fun c => c ≠ '\x7d' && c ≠ '\x7b'
          match more.drop l.length with
          | '\x7b' :: inner =>
            let name := inner.takeWhile (· ≠ '\x7d')
            let (w, _) ← fieldValue g next name
            let behind := inner.drop (name.length + 1)
            let tail := behind.takeWhile (· ≠ '\x7d')
            pure (l ++ (← textOf g.again w) ++ tail, behind.drop tail.length)
          | more => pure (l, more)
        | more => pure ([], more)
      match rest with
      | '\x7d' :: rest =>
        let shown ← laidOut g.again (← converted g.again v conversion) l
        return shown ++ (← format g fuel next rest)
      | _ => fail "ValueError" "expected '\x7d' before end of string"
    | '\x7d' :: _ => fail "ValueError" "Single '\x7d' encountered in format string"
    | c :: rest => return c :: (← format g fuel next rest)

/-- Puts values behind percent signs. -/
def percent (again : Again) : Nat → Text → List Value → Option Nat → Step Text
  | 0, _, _, _ => return []
  | fuel + 1, t, vs, dict => do
    match t with
    | [] =>
      if !vs.isEmpty && dict.isNone then
        typeFault "not all arguments converted during string formatting"
      return []
    | '%' :: '%' :: rest => return '%' :: (← percent again fuel rest vs dict)
    | '%' :: rest =>
      let (key, rest) := match rest with
        | '(' :: more => (some (more.takeWhile (· ≠ ')')), (more.dropWhile (· ≠ ')')).drop 1)
        | more => (none, more)
      let flags := rest.takeWhile fun c => "-+ #0".toList.contains c
      let rest := rest.drop flags.length
      let take (rest : Text) (vs : List Value) : Step (Option Int × Text × List Value) := do
        match rest, vs with
        | '*' :: more, .int n :: vs => return (some n, more, vs)
        | rest, vs =>
          let digits := rest.takeWhile Char.isDigit
          let n : Option Int := if digits.isEmpty then none else some (Decimal.value digits)
          return (n, rest.drop digits.length, vs)
      let (width, rest, vs) ← take rest vs
      let (precision, rest, vs) ← match rest with
        | '.' :: more => do
          let (p, rest, vs) ← take more vs
          pure (some (p.getD 0), rest, vs)
        | rest => pure (none, rest, vs)
      match rest with
      | [] => fail "ValueError" "incomplete format"
      | c :: rest =>
        let (v, vs) ← match key, dict, vs with
          | some key, some d, vs => do
            pure (← again (.index (.object d) (.text key)), vs)
          | _, _, v :: vs => pure (v, vs)
          | _, some d, [] => pure (.object d, [])
          | _, none, [] => typeFault "not enough arguments for format string"
        let isLeft := flags.contains '-' || (width.getD 0) < 0
        let layout : Layout :=
          { fill := if flags.contains '0' && !isLeft && c ≠ 's' && c ≠ 'r' then '0' else ' '
            align := some (if isLeft then '<' else if flags.contains '0' && c ≠ 's' && c ≠ 'r'
              then '=' else '>')
            sign := if flags.contains '+' then '+' else if flags.contains ' ' then ' ' else '-'
            isFull := flags.contains '#'
            width := (width.getD 0).natAbs
            precision := precision.map Int.toNat }
        let number (v : Value) : Step Number := do
          match Number.ofValue? v with
          | some n => pure n
          | none =>
            typeFault ("%" ++ String.ofList [c] ++ " format: a real number is required, not "
              ++ (← get).kindName v)
        let shown ← match c with
          | 's' => pure (layout.text (← textOf again v))
          | 'r' => pure (layout.text (← shownWhole again v))
          | 'a' => pure (layout.text (← shownWhole again v))
          | 'c' =>
            match v with
            | .int n => pure (layout.text [Char.ofNat n.toNat])
            | v => pure (layout.text (← textOf again v))
          | _ =>
            if c = 'd' || c = 'i' || c = 'u' then
              match ← number v with
              | .int n => pure (layout.int n)
              | .float x => pure (layout.int ((Number.truncated? x).getD 0))
            else if c = 'x' || c = 'X' || c = 'o' then
              match ← number v with
              | .int n => pure ({ layout with letter := some c }.int n)
              | .float _ =>
                typeFault ("%" ++ String.ofList [c] ++ " format: an integer is required, not float")
            else if "eEfFgG".toList.contains c then
              pure ({ layout with letter := some c }.float (← number v).toFloat)
            else
              failWith "ValueError" ("unsupported format character '".toList ++ [c]
                ++ "' (0x".toList
                ++ Nat.toDigits 16 c.toNat ++ ") at index ".toList
                ++ Text.ofNat 0)
        return shown ++ (← percent again fuel rest vs dict)
    | c :: rest => return c :: (← percent again fuel rest vs dict)

/-- The methods that texts and bytes share. -/
def sharedMethods : List (String × Known) :=
  [("split", split false), ("rsplit", split true),
   ("splitlines", ofText fun g wrap t => do
     makeList ((lines (← g.isSet 1 "keepends" false) (t.length + 1) t).map wrap)),
   ("strip", strip true true), ("lstrip", strip true false), ("rstrip", strip false true),
   ("find", finding false false), ("rfind", finding true false), ("index", finding false true),
   ("rindex", finding true true), ("startswith", bounded "startswith" Text.beginsWith),
   ("endswith", bounded "endswith" Text.endsWith), ("upper", plain (List.map Char.toUpper)),
   ("lower", plain (List.map Char.toLower)), ("casefold", plain (List.map Char.toLower)),
   ("title", plain (titled false)), ("capitalize", plain capital),
   ("swapcase", plain (List.map fun c => if c.isUpper then c.toLower else c.toUpper)),
   ("isdigit", asks (isPart Char.isDigit)), ("isdecimal", asks (isPart Char.isDigit)),
   ("isnumeric", asks (isPart Char.isDigit)), ("isalpha", asks (isPart isLetter)),
   ("isalnum", asks (isPart fun c => isLetter c || c.isDigit)),
   ("isspace", asks (isPart isSpace)), ("isupper", asks (isCase Char.isUpper Char.isLower)),
   ("islower", asks (isCase Char.isLower Char.isUpper)),
   ("isidentifier", asks fun t => isPart (fun c => isLetter c || c.isDigit || c = '_') t
     && !(t.head?.any Char.isDigit)),
   ("isascii", asks (List.all · fun c => c.toNat < 128)),
   ("ljust", filled '<'), ("rjust", filled '>'), ("center", filled '^'), ("zfill", zeroFilled),
   ("replace", replaced), ("join", joined), ("partition", parted false),
   ("rpartition", parted true), ("count", counted),
   ("removeprefix", ofText fun g wrap t => do
     return wrap ((Text.after? (← g.text 1) t).getD t)),
   ("removesuffix", ofText fun g wrap t => do
     let tail ← g.text 1
     return wrap (if Text.endsWith tail t then t.take (t.length - tail.length) else t)),
   ("hex", ofText fun _ _ t => return .text (t.flatMap fun c => Shown.coded 2 c.toNat))]

def textFunctions : List (String × Known) :=
  sharedMethods.map (fun (n, f) => ("str." ++ n, f))
    ++ sharedMethods.map (fun (n, f) => ("bytes." ++ n, f))
    ++ [("str.encode", encoded), ("bytes.decode", decodedText),
        ("str.format", ofText fun g _ t => do return .text (← format g (t.length + 1) 1 t)),
        ("str", fun g => do
          match g.plain with
          | [] => return .text []
          | [.bytes t] =>
            if g.named.isEmpty then return .text (← shownWhole g.again (.bytes t)) else
              return .text (← decoded t)
          | .bytes t :: _ => return .text (← decoded t)
          | v :: _ => return .text (← textOf g.again v)),
        ("repr", fun g => do return .text (← shownWhole g.again (← g.need 0))),
        ("ascii", fun g => do return .text (← shownWhole g.again (← g.need 0))),
        ("format", fun g => do
          let l := match g.value 1 "format_spec" with
            | .text l => l
            | _ => []
          return .text (← laidOut g.again (← g.need 0) l)),
        ("bytes", fun g => do
          match g.plain with
          | [] => return .bytes []
          | .text t :: _ => return .bytes (Bytes.ofText t)
          | .bytes t :: _ => return .bytes t
          | .int n :: _ => return .bytes (List.replicate n.toNat '\x00')
          | v :: _ =>
            let items ← itemsOf g.again v
            return .bytes (items.filterMap fun x => (position? x).map fun n => Char.ofNat n.toNat)),
        ("ord", fun g => do
          let t ← g.text 0
          match t with
          | [c] => return .int c.toNat
          | t =>
            typeFault ("ord() expected a character, but string of length " ++ toString t.length
              ++ " found")),
        ("chr", fun g => do
          let n ← g.int 0
          if 0 ≤ n && n < 0x110000 then return .text [Char.ofNat n.toNat]
          fail "ValueError" "chr() arg not in range(0x110000)")]

end Weave.Recipe.Known
