import Weave.Number.Decimal
import Weave.Utility.Lines

/-!
# Programs about the order of lines

Sorting lines by parts of them, leaving out repeated ones, and comparing sorted files.
-/
namespace Weave.Utility

open Job

/-!
## Comparing
-/

/-- The order of two texts by their bytes. -/
def byBytes (a b : Bytes) : Ordering :=
  if a = b then .eq else if a < b then .lt else .gt

def isBlankChar (c : Char) : Bool := c = ' ' || c = '\t'

/-- The number at the front of a text, without an exponent. -/
def plainNumber (t : Bytes) : Decimal :=
  let t := t.dropWhile isBlankChar
  let kept := t.takeWhile fun c => c.isDigit || c = '.' || c = '-'
  let zero : Decimal := ⟨false, 0, 0, 0⟩
  if t.head? = some '+' then zero else ((Decimal.read? kept).map Prod.fst).getD zero

def compareDecimals (a b : Decimal) : Ordering :=
  let places := max a.neededPlaces b.neededPlaces
  Ord.compare (a.inSteps places) (b.inSteps places)

/-- The rank of the letter for thousands behind a number. -/
def unitRank (t : Bytes) : Nat :=
  let behind := (t.dropWhile isBlankChar).dropWhile fun c => c.isDigit || c = '.' || c = '-'
  match behind with
  | c :: _ => ((Amount.powers.findIdx? (· = (if c = 'k' then 'K' else c))).map (· + 1)).getD 0
  | [] => 0

/-- The order of two numbers with letters for thousands. -/
def byUnits (a b : Bytes) : Ordering :=
  let (x, y) := (plainNumber a, plainNumber b)
  let sign (d : Decimal) : Int := if d.digits = 0 then 0 else if d.negative then -1 else 1
  let order := (Ord.compare (sign x) (sign y)).then
    (if sign x < 0 then Ord.compare (unitRank b) (unitRank a)
      else Ord.compare (unitRank a) (unitRank b))
  order.then (compareDecimals x y)

/-- The order of two numbers that may have exponents; what is no number comes first. -/
def byReals (a b : Bytes) : Ordering :=
  let value (t : Bytes) : Option Decimal :=
    (Decimal.read? (t.dropWhile isBlankChar)).map Prod.fst
  match value a, value b with
  | some x, some y => compareDecimals x y
  | some _, none => .gt
  | none, some _ => .lt
  | none, none => .eq

/-- The number of the month whose name begins a text. -/
def monthRank (t : Bytes) : Nat :=
  let name := ((t.dropWhile isBlankChar).take 3).map Char.toUpper
  (["JAN", "FEB", "MAR", "APR", "MAY", "JUN", "JUL", "AUG", "SEP", "OCT", "NOV", "DEC"].findIdx?
    fun m => m.toList = name).elim 0 (· + 1)

/-- The order of two texts in which rows of digits count as numbers. The number bounds how
many rows there are. -/
def byVersion : Nat → Bytes → Bytes → Ordering
  | 0, a, b => byBytes a b
  | fuel + 1, a, b =>
    let isText (c : Char) : Bool := !c.isDigit
    let rank (t : Bytes) : List Nat := (t.takeWhile isText).map fun c =>
      if c = '~' then 0 else if c.isAlpha then c.toNat else c.toNat + 256
    let pad (t : List Nat) (n : Nat) : List Nat := t ++ List.replicate (n - t.length) 1
    let (x, y) := (rank a, rank b)
    let n := max x.length y.length
    let order := if pad x n = pad y n then .eq else if pad x n < pad y n then .lt else .gt
    let (a, b) := (a.dropWhile isText, b.dropWhile isText)
    let number (t : Bytes) : Nat := Escape.numberIn 10 (t.takeWhile Char.isDigit)
    if order != .eq then order
    else if a = [] && b = [] then .eq
    else (Ord.compare (number a) (number b)).then
      (byVersion fuel (a.dropWhile Char.isDigit) (b.dropWhile Char.isDigit))

/-- Two texts compared by letters that say how. -/
def compareBy (letters : Bytes) (a b : Bytes) : Ordering :=
  let has (c : Char) : Bool := letters.contains c
  let kept (t : Bytes) : Bytes :=
    let t := if has 'd' then t.filter fun c => isBlankChar c || c.isAlphanum else t
    let t := if has 'i' then t.filter Naming.isVisible else t
    if has 'f' then t.map Char.toUpper else t
  let order := if has 'n' then compareDecimals (plainNumber a) (plainNumber b)
    else if has 'h' then byUnits a b
    else if has 'g' then byReals a b
    else if has 'M' then Ord.compare (monthRank a) (monthRank b)
    else if has 'V' then byVersion (a.length + b.length + 1) a b
    else byBytes (kept a) (kept b)
  if has 'r' then order.swap else order

/-!
## Keys
-/

/-- A place in a line: a field and a character in it, where the blanks before the field
may be passed over. -/
structure KeyEnd where
  field : Nat
  char : Nat
  skips : Bool
deriving Repr, DecidableEq

/-- A part of a line that lines are sorted by. -/
structure SortKey where
  first : KeyEnd
  last : Option KeyEnd
  letters : Bytes
deriving Repr, DecidableEq

def orderLetters : Bytes := "bdfghiMnrRV".toList

/-- Why a key cannot be read. -/
inductive KeyFault where
  | noNumber (place : String) (t : Bytes)
  | zero (t : Bytes)
  | stray (t : Bytes)

def KeyFault.message : KeyFault → Bytes
  | noNumber place t =>
    "invalid number ".toList ++ place.toList ++ ": invalid count at start of ".toList
    ++ shown t
  | zero t => "field number is zero: invalid field specification ".toList ++ shown t
  | stray t => "stray character in field spec: invalid field specification ".toList ++ shown t

/-- Reads one end of a key, and what is behind it. -/
def readKeyEnd (whole : Bytes) (place : String) (usual : Nat) (t : Bytes) :
    Except KeyFault (KeyEnd × Bytes × Bytes) := do
  let digits := t.takeWhile Char.isDigit
  if digits = [] then throw (.noNumber place t)
  let field := Escape.numberIn 10 digits
  if field = 0 then throw (.zero whole)
  let rest := t.drop digits.length
  let (char, rest) ← match rest with
    | '.' :: more =>
      let digits := more.takeWhile Char.isDigit
      if digits = [] then throw (.noNumber "after '.'" more)
      pure (Escape.numberIn 10 digits, more.drop digits.length)
    | rest => pure (usual, rest)
  let letters := rest.takeWhile orderLetters.contains
  return (⟨field, char, letters.contains 'b'⟩, letters, rest.drop letters.length)

def SortKey.read (t : Bytes) : Except KeyFault SortKey := do
  let (first, letters, rest) ← readKeyEnd t "at field start" 1 t
  match rest with
  | [] => return ⟨first, none, letters⟩
  | ',' :: rest =>
    let (last, more, rest) ← readKeyEnd t "after ','" 0 rest
    if rest != [] then throw (.stray t)
    return ⟨first, some last, letters ++ more⟩
  | _ => throw (.stray t)

/-- Where the fields of a line begin and end. Without a mark between them each begins with
the blanks before it. -/
def fieldSpans (mark : Option Char) (line : Bytes) : List (Nat × Nat) :=
  match mark with
  | some c =>
    ((Text.splitOn c line).foldl (fun (spans, start) field =>
      (spans ++ [(start, start + field.length)], start + field.length + 1))
      (([] : List (Nat × Nat)), 0)).1
  | none => go 0 (line.length + 1) line
where
  go (start : Nat) : Nat → Bytes → List (Nat × Nat)
    | 0, _ => []
    | _, [] => []
    | fuel + 1, t =>
      let gap := t.takeWhile isBlankChar
      let word := (t.drop gap.length).takeWhile fun c => !isBlankChar c
      let n := gap.length + word.length
      (start, start + n) :: go (start + n) fuel (t.drop n)

/-- The part of a line that a key names. -/
def SortKey.part (k : SortKey) (mark : Option Char) (line : Bytes) : Bytes :=
  let spans := fieldSpans mark line
  let skipped (start : Nat) (skips : Bool) : Nat :=
    if skips then start + ((line.drop start).takeWhile isBlankChar).length else start
  let start := match spans[k.first.field - 1]? with
    | some (a, _) => min line.length (skipped a k.first.skips + (k.first.char - 1))
    | none => line.length
  let stop := match k.last with
    | none => line.length
    | some z =>
      match spans[z.field - 1]? with
      | some (a, b) => if z.char = 0 then b else min line.length (skipped a z.skips + z.char)
      | none => line.length
  (line.take stop).drop start

/-!
## Sorting
-/

/-- Two lines compared by keys, the first that tells them apart. -/
def compareLines (keys : List SortKey) (mark : Option Char) (own : Bytes) (a b : Bytes) :
    Ordering :=
  let byKey (k : SortKey) : Ordering :=
    if k.letters.filter (· ≠ 'b') = [] then
      let skips := own.contains 'b'
      let k := if skips then { k with first := { k.first with skips := true } } else k
      compareBy own (k.part mark a) (k.part mark b)
    else compareBy k.letters (k.part mark a) (k.part mark b)
  let lead (t : Bytes) : Bytes := if own.contains 'b' then t.dropWhile isBlankChar else t
  if keys = [] then compareBy own (lead a) (lead b)
  else (keys.map byKey).foldl Ordering.then .eq

/-- Removes what equals its predecessor. -/
def withoutRepeats (same : Bytes → Bytes → Bool) : List Bytes → List Bytes
  | a :: b :: rest =>
    if same a b then withoutRepeats same (a :: rest) else a :: withoutRepeats same (b :: rest)
  | rest => rest
termination_by lines => lines.length

/-- The first line that stands behind one it should not, by its number. -/
def disorder? (order : Bytes → Bytes → Ordering) (unique : Bool) :
    Nat → List Bytes → Option (Nat × Bytes)
  | n, a :: b :: rest =>
    if order a b = .gt || (unique && order a b = .eq) then some (n + 1, b)
    else disorder? order unique (n + 1) (b :: rest)
  | _, _ => none

def sortOptions : Options where
  flags := "bcCdfghiMmnrRsuVz"
  valued := "koStT/"
  misuse := 2
  names := [("reverse", 'r'), ("numeric-sort", 'n'), ("unique", 'u'), ("key", 'k'),
    ("field-separator", 't'), ("output", 'o'), ("ignore-case", 'f'), ("stable", 's'),
    ("check", 'c'), ("human-numeric-sort", 'h'), ("general-numeric-sort", 'g'),
    ("version-sort", 'V'), ("month-sort", 'M'), ("ignore-leading-blanks", 'b'),
    ("dictionary-order", 'd'), ("merge", 'm'), ("zero-terminated", 'z'), ("parallel", '/')]

def sort : Utility := fun words =>
  withWords sortOptions words fun w => do
    let fails (message : Bytes) : Task Unit := do
      complain message
      leave 2
    let mut keys := []
    for (option, value) in w.values do
      if option = 'k' then
        match SortKey.read value with
        | .ok key => keys := keys ++ [key]
        | .error f => return (← fails f.message)
    let mark ← match w.value? 't' with
      | none => pure none
      | some [c] => pure (some c)
      | some ['\\', '0'] => pure (some '\x00')
      | some [] => return (← fails "empty tab".toList)
      | some t => return (← fails ("multi-character tab ".toList ++ shown t))
    let ending := if w.has "z" then '\x00' else '\n'
    let mut lines := []
    let names := orInput w.rest
    for name in names do
      match ← read name with
      | .ok t => lines := lines ++ piecesBefore ending t
      | .error f =>
        let what := if f = .isDirectory then "read failed: ".toList else "cannot read: ".toList
        return (← fails (what ++ Naming.bare name ++ ": ".toList ++ f.reason))
    let own := w.flags.filter orderLetters.contains
    let byKeys := compareLines keys mark own
    let whole (a b : Bytes) : Ordering :=
      if w.has "r" then (byBytes a b).swap else byBytes a b
    let order (a b : Bytes) : Ordering :=
      if w.has "us" then byKeys a b else (byKeys a b).then (whole a b)
    if w.has "cC" then
      match disorder? order (w.has "u") 1 lines with
      | none => return ()
      | some (n, line) =>
        leave 1
        if w.has "c" then
          complain (names.headD [] ++ ':' :: Text.ofNat n ++ ": disorder: ".toList ++ line)
        return ()
    let sorted := lines.mergeSort fun a b => (order a b).isLE
    let same (a b : Bytes) : Bool := (byKeys a b).isEq
    let kept := if w.has "u" then withoutRepeats same sorted else sorted
    let text := kept.flatMap (· ++ [ending])
    match w.value? 'o' with
    | none => print text
    | some name =>
      if let some f ← printToFile name .write text then
        fails ("open failed: ".toList ++ Naming.bare name ++ ": ".toList ++ f.reason)

/-!
## Repeated lines
-/

/-- The runs of lines that are the same by a key of theirs. -/
def runsBy (key : Bytes → Bytes) (lines : List Bytes) : List (List Bytes) :=
  lines.foldr (fun line runs => match runs with
    | (next :: more) :: rest =>
      if key line = key next then (line :: next :: more) :: rest
      else [line] :: (next :: more) :: rest
    | runs => [line] :: runs) []

/-- A line without some of its first fields. -/
def dropFields : Nat → Bytes → Bytes
  | 0, t => t
  | n + 1, t => dropFields n ((t.dropWhile isBlankChar).dropWhile fun c => !isBlankChar c)

/-- Prints each run of equal lines once. -/
def uniq : Utility := fun words =>
  let o : Options :=
    { flags := "cdDiuz", valued := "fsw"
      names := [("count", 'c'), ("repeated", 'd'), ("all-repeated", 'D'), ("unique", 'u'),
        ("ignore-case", 'i'), ("skip-fields", 'f'), ("skip-chars", 's'), ("check-chars", 'w')] }
  withWords o words fun w => do
    if w.rest.length > 2 then return (← hasExtra (w.rest[2]?.getD []))
    let number (c : Char) : Option Nat := (w.value? c).map (Escape.numberIn 10)
    let key (line : Bytes) : Bytes :=
      let t := (dropFields ((number 'f').getD 0) line).drop ((number 's').getD 0)
      let t := ((number 'w').map t.take).getD t
      if w.has "i" then t.map Char.toLower else t
    let ending := if w.has "z" then '\x00' else '\n'
    let name := w.rest.headD ['-']
    match ← read name with
    | .error f =>
      if f = .isDirectory then complainOf ("error reading ".toList ++ shown name) f
      else complainOf (Naming.bare name) f
    | .ok t =>
      let runs := runsBy key (piecesBefore ending t)
      let kept := runs.filter fun run =>
        !(w.has "dD" && run.length < 2) && !(w.has "u" && run.length > 1)
      let text := kept.flatMap fun run =>
        let line := run.headD []
        if w.has "D" then run.flatMap (· ++ [ending])
        else if w.has "c" then pad [] 7 (Text.ofNat run.length) ++ ' ' :: line ++ [ending]
        else line ++ [ending]
      match w.rest with
      | [_, target] =>
        if let some f ← printToFile target .write text then complainOf (Naming.bare target) f
      | _ => print text

/-!
## Sorted files
-/

/-- The lines of two sorted files, each with whether it is in the first or the second one
only, or in both. -/
def merged : Nat → List Bytes → List Bytes → List (Nat × Bytes)
  | 0, _, _ => []
  | _, [], [] => []
  | fuel + 1, a :: s, [] => (1, a) :: merged fuel s []
  | fuel + 1, [], b :: t => (2, b) :: merged fuel [] t
  | fuel + 1, a :: s, b :: t =>
    if a = b then (3, a) :: merged fuel s t
    else if a < b then (1, a) :: merged fuel s (b :: t)
    else (2, b) :: merged fuel (a :: s) t

def isSorted : List Bytes → Bool
  | a :: b :: rest => a ≤ b && isSorted (b :: rest)
  | _ => true

/-- Compares two sorted files line by line, in three columns. -/
def comm : Utility := fun words =>
  let o : Options :=
    { flags := "123z/", valued := ":", names := [("output-delimiter", ':'), ("total", '/')] }
  withWords o words fun w => do
    match w.rest with
    | [] => lacksOperand
    | [a] => misuse ("missing operand after ".toList ++ shown a)
    | [a, b] =>
      match ← read a with
      | .error f => complainOf (Naming.bare a) f
      | .ok s =>
        match ← read b with
        | .error f => complainOf (Naming.bare b) f
        | .ok t =>
          let mark := (w.value? ':').getD ['\t']
          let (s, t) := (bareLines s, bareLines t)
          let rows := merged (s.length + t.length + 1) s t
          let hides (n : Nat) : Bool := w.flags.contains (Char.ofNat (48 + n))
          for (column, line) in rows do
            if !hides column then
              let before := ((List.range (column - 1)).filter fun i => !hides (i + 1)).length
              printLine ((List.replicate before mark).flatten ++ line)
          if w.has "/" then
            let total (n : Nat) : Bytes := Text.ofNat (rows.filter fun r => r.1 = n).length
            printLine (Text.joinWith mark [total 1, total 2, total 3, "total".toList])
          if !isSorted s then complain "file 1 is not in sorted order".toList
          if !isSorted t then complain "file 2 is not in sorted order".toList
          if !isSorted s || !isSorted t then complain "input is not in sorted order".toList
    | _ :: _ :: extra :: _ => hasExtra extra

end Weave.Utility
