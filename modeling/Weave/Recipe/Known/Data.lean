import Weave.Recipe.Known.Collection

/-!
# Data in JSON

Objects become dictionaries and arrays become lists. Printing puts all into one line, or
each item into a line of its own.
-/
namespace Weave.Recipe.Known

/-- What reading works on. -/
structure DataSource where
  whole : Text
  again : Again

namespace DataSource

/-- Fails at what is left of a text. -/
def fail {α : Type} (d : DataSource) (message : String) (rest : Text) : Step α := do
  let position := d.whole.length - rest.length
  let before := d.whole.take position
  let line := (before.filter (· = '\n')).length + 1
  let column := (before.reverse.takeWhile (· ≠ '\n')).length + 1
  let text := message ++ ": line " ++ toString line ++ " column " ++ toString column ++ " (char "
    ++ toString position ++ ")"
  raise (← makeFault "json.decoder.JSONDecodeError" [.text text.toList]
    [("msg", .text message.toList), ("doc", .text d.whole), ("pos", .int position),
     ("lineno", .int line), ("colno", .int column)])

def isBlank (c : Char) : Bool := c = ' ' || c = '\t' || c = '\n' || c = '\r'

def skip (t : Text) : Text := t.dropWhile isBlank

/-- Four digits of a code. -/
def code? (t : Text) : Option Nat :=
  let digits := t.take 4
  if digits.length = 4 && digits.all fun c => Escape.digitOf c < 16 then
    some (Escape.numberIn 16 digits)
  else none

/-- A text behind its first quote, and what is behind it. -/
def string (d : DataSource) (start : Text) : Nat → Text → Step (Text × Text)
  | 0, rest => d.fail "Unterminated string starting at" rest
  | fuel + 1, t => do
    match t with
    | [] => d.fail "Unterminated string starting at" start
    | '"' :: rest => return ([], rest)
    | '\\' :: 'u' :: rest =>
      match code? rest with
      | none => d.fail "Invalid \\uXXXX escape" rest
      | some n =>
        let single : Step (Text × Text) := do
          let (t, behind) ← string d start fuel (rest.drop 4)
          return (Char.ofNat n :: t, behind)
        match rest.drop 4 with
        | '\\' :: 'u' :: more =>
          match code? more with
          | some m =>
            if 0xD800 ≤ n && n < 0xDC00 && 0xDC00 ≤ m && m < 0xE000 then
              let (t, behind) ← string d start fuel (more.drop 4)
              return (Char.ofNat (0x10000 + (n - 0xD800) * 0x400 + (m - 0xDC00)) :: t, behind)
            else single
          | none => single
        | _ => single
    | '\\' :: c :: rest =>
      let meant : Option Char := match c with
        | '"' => some '"'
        | '\\' => some '\\'
        | '/' => some '/'
        | 'b' => some '\x08'
        | 'f' => some '\x0c'
        | 'n' => some '\n'
        | 'r' => some '\r'
        | 't' => some '\t'
        | _ => none
      match meant with
      | some m =>
        let (t, behind) ← string d start fuel rest
        return (m :: t, behind)
      | none => d.fail "Invalid \\escape" ('\\' :: c :: rest)
    | c :: rest =>
      if c.toNat < 32 then d.fail "Invalid control character at" t
      let (t, behind) ← string d start fuel rest
      return (c :: t, behind)

/-- A number at the front, and what is behind it. -/
def number? (t : Text) : Option (Value × Text) :=
  let (negative, size) : Bool × Text := match t with
    | '-' :: rest => (true, rest)
    | rest => (false, rest)
  let digits := size.takeWhile Char.isDigit
  let whole := if digits.head? = some '0' then ['0'] else digits
  if whole.isEmpty then none
  else
    let rest := size.drop whole.length
    let fraction := match rest with
      | '.' :: more =>
        if more.head?.any Char.isDigit then '.' :: more.takeWhile Char.isDigit else []
      | _ => []
    let rest := rest.drop fraction.length
    let exponent := match rest with
      | e :: more =>
        let sign := match more with
          | '+' :: _ => ['+']
          | '-' :: _ => ['-']
          | _ => []
        let digits := (more.drop sign.length).takeWhile Char.isDigit
        if (e = 'e' || e = 'E') && !digits.isEmpty then e :: sign ++ digits else []
      | [] => []
    let behind := rest.drop exponent.length
    if fraction.isEmpty && exponent.isEmpty then
      let n : Int := Decimal.value whole
      some (.int (if negative then -n else n), behind)
    else
      match Decimal.read? (whole ++ fraction ++ exponent) with
      | some (d, _) =>
        let x := Float.ofScientific d.digits (d.exponent < 0) d.exponent.natAbs
        some (.float (if negative then -x else x), behind)
      | none => none

/-- Words that stand for values. -/
def words : List (String × Value) :=
  [("null", .none), ("true", .bool true), ("false", .bool false), ("NaN", .float (0 / 0)),
   ("Infinity", .float (1 / 0)), ("-Infinity", .float (-1 / 0))]

mutual

/-- Reads a value, and gives what is behind it. -/
def value (d : DataSource) : Nat → Text → Step (Value × Text)
  | 0, rest => d.fail "Expecting value" rest
  | fuel + 1, t => do
    match t with
    | '"' :: rest =>
      let (s, behind) ← string d t (rest.length + 1) rest
      return (.text s, behind)
    | '[' :: rest =>
      match skip rest with
      | ']' :: behind => return (← makeList [], behind)
      | rest =>
        let (items, behind) ← items d fuel rest
        return (← makeList items, behind)
    | '\x7b' :: rest =>
      match skip rest with
      | '\x7d' :: behind => return (← make (.dict #[]), behind)
      | rest =>
        let (entries, behind) ← members d fuel rest
        let s ← get
        return (← make (.dict (entries.foldl (fun es e => s.withEntry es e.1 e.2) #[])), behind)
    | t =>
      match words.find? fun w => Text.beginsWith w.1.toList t with
      | some (w, v) => return (v, t.drop w.length)
      | none =>
        match number? t with
        | some r => return r
        | none => d.fail "Expecting value" t

def items (d : DataSource) : Nat → Text → Step (List Value × Text)
  | 0, rest => d.fail "Expecting value" rest
  | fuel + 1, t => do
    let (v, rest) ← value d fuel t
    match skip rest with
    | ']' :: behind => return ([v], behind)
    | ',' :: rest =>
      let (more, behind) ← items d fuel (skip rest)
      return (v :: more, behind)
    | rest => d.fail "Expecting ',' delimiter" rest

def members (d : DataSource) : Nat → Text → Step (List (Value × Value) × Text)
  | 0, rest => d.fail "Expecting value" rest
  | fuel + 1, t => do
    match t with
    | '"' :: rest =>
      let (k, rest) ← string d t (rest.length + 1) rest
      match skip rest with
      | ':' :: rest =>
        let (v, rest) ← value d fuel (skip rest)
        match skip rest with
        | '\x7d' :: behind => return ([(.text k, v)], behind)
        | ',' :: rest =>
          let (more, behind) ← members d fuel (skip rest)
          return ((.text k, v) :: more, behind)
        | rest => d.fail "Expecting ',' delimiter" rest
      | rest => d.fail "Expecting ':' delimiter" rest
    | t => d.fail "Expecting property name enclosed in double quotes" t

end

end DataSource

/-- Where data is read and printed outside of recipes. -/
def dataPlace (file : String) (line : Nat) (function source part : String) : List String :=
  foreignPlace ("/usr/lib/python3.12/json/" ++ file ++ ".py") line function source part

/-- The value that a text in JSON stands for. -/
def readData (again : Again) (t : Text) : Step Value :=
  within (dataPlace "__init__" 346 "loads" "return _default_decoder.decode(s)"
    "_default_decoder.decode(s)") do
    if Text.beginsWith ['\ufeff'] t then
      ({ whole := t, again := again } : DataSource).fail
        "Unexpected UTF-8 BOM (decode using utf-8-sig)" t
    let d : DataSource := { whole := t, again := again }
    let inside :=
      dataPlace "decoder" 337 "decode" "obj, end = self.raw_decode(s, idx=_w(s, 0).end())"
      "self.raw_decode(s, idx=_w(s, 0).end())"
    let deeper (lacksValue : Bool) : List String :=
      if lacksValue then dataPlace "decoder" 355 "raw_decode"
        "raise JSONDecodeError(\"Expecting value\", s, err.value) from None" ""
      else dataPlace "decoder" 353 "raw_decode" "obj, end = self.scan_once(s, idx)"
        "self.scan_once(s, idx)"
    let handling := (← get).handling
    let (v, rest) ←
      within inside (tryCatch (d.value (t.length + 2) (DataSource.skip t)) fun stop => do
      match stop with
      | .fault n =>
        let message := (← fieldsOf (.object n)).lookup "msg"
        modify fun s => { s with handling := handling }
        let lacksValue : Bool := match message with
          | some (.text m) => m == "Expecting value".toList
          | _ => false
        within (deeper lacksValue) (throw stop)
      | stop => throw stop)
    match DataSource.skip rest with
    | [] => return v
    | rest =>
      within (dataPlace "decoder" 340 "decode" "raise JSONDecodeError(\"Extra data\", s, end)" "")
        (d.fail "Extra data" rest)

/-- How data is printed. -/
structure DataStyle where
  /-- What the lines of items begin with, once for each level, if they have lines. -/
  indent : Option Text := none
  itemMark : Text
  keyMark : Text
  sorts : Bool := false
  isPlain : Bool := true
  /-- What makes values that can be printed of those that cannot. -/
  standard : Value := .none
  /-- Whether the parts are printed one after the other, which shows by the places that a
  fault comes through. -/
  inParts : Bool := false

/-- A text in JSON. -/
def quotedData (isPlain : Bool) (t : Text) : Text :=
  '"' :: t.flatMap escaped ++ ['"']
where
  coded (n : Nat) : Text := "\\u".toList ++ Shown.coded 4 n
  escaped (c : Char) : Text :=
    let n := c.toNat
    if c = '"' then "\\\"".toList
    else if c = '\\' then "\\\\".toList
    else if c = '\n' then "\\n".toList
    else if c = '\r' then "\\r".toList
    else if c = '\t' then "\\t".toList
    else if c = '\x08' then "\\b".toList
    else if c = '\x0c' then "\\f".toList
    else if n < 32 then coded n
    else if n < 128 || !isPlain then [c]
    else if n < 0x10000 then coded n
    else coded (0xD800 + (n - 0x10000) / 0x400) ++ coded (0xDC00 + (n - 0x10000) % 0x400)

def floatData (x : Float) : Text :=
  if x != x then "NaN".toList
  else if x == 1 / 0 then "Infinity".toList
  else if x == -1 / 0 then "-Infinity".toList
  else Number.floatText x

/-- The text of a key. -/
def keyData (v : Value) : Step Text := do
  match v with
  | .text t => return t
  | .int n => return Number.intText n
  | .float x => return floatData x
  | .bool b => return (if b then "true" else "false").toList
  | .none => return "null".toList
  | v =>
    typeFault ("keys must be str, int, float, bool or None, not " ++ (← get).kindName v)

/-- Parts between brackets, in one line or in lines of their own. -/
def enclosed (style : DataStyle) (depth : Nat) (first last : Char) (parts : List Text) : Text :=
  if parts.isEmpty then [first, last]
  else
    match style.indent with
    | none => first :: Text.joinWith style.itemMark parts ++ [last]
    | some indent =>
      let line (n : Nat) : Text := '\n' :: (List.replicate n indent).flatten
      first :: line (depth + 1) ++ Text.joinWith (style.itemMark ++ line (depth + 1)) parts
        ++ line depth ++ [last]

/-- A value in JSON, so deep inside of others. -/
def printedData (again : Again) (style : DataStyle) : Nat → Nat → Value → Step Text
  | 0, _, _ => fail "ValueError" "Circular reference detected"
  | fuel + 1, depth, v => do
    let s ← get
    let places (line inner : Nat) (function : String) : List String :=
      if !style.inParts then []
      else
        (if depth = 0 then dataPlace "encoder" line "_iterencode"
          ("yield from " ++ function ++ "(o, _current_indent_level)") "" else [])
          ++ (if inner = 0 then [] else dataPlace "encoder" inner function "yield from chunks" "")
    let list (xs : List Value) : Step Text := within (places 430 326 "_iterencode_list") do
      return enclosed style depth '[' ']' (← xs.mapM (printedData again style fuel (depth + 1)))
    let other : Step Text := do
      match style.standard with
      | .none =>
        within (if style.inParts then
            dataPlace "encoder" 439 "_iterencode" "o = _default(o)" "_default(o)" else [])
          (within (dataPlace "encoder" 180 "default"
            "raise TypeError(f'Object of type \x7bo.__class__.__name__\x7d '" "")
            (typeFault ("Object of type " ++ s.kindName v ++ " is not JSON serializable")))
      | f => printedData again style fuel depth (← again (.call f [v] []))
    match v with
    | .none => return "null".toList
    | .bool b => return (if b then "true" else "false").toList
    | .int n => return Number.intText n
    | .float x => return floatData x
    | .text t => return quotedData style.isPlain t
    | .tuple xs => list xs
    | .object n =>
      match s.object? n with
      | some (.list xs) => list xs.toList
      | some (.dict es) =>
        let keyed ← within (places 432 0 "_iterencode_dict" ++ if !style.inParts then [] else
            dataPlace "encoder" 377 "_iterencode_dict"
              "raise TypeError(f'keys must be str, int, float, bool or None, '" "")
          (es.toList.mapM fun (k, v) => do return (Value.text (← keyData k), v))
        let sorted ← if style.sorts then sortedBy again keyed else pure keyed
        let parts ← sorted.mapM fun (k, v) => do
          let shownKey := match k with
            | .text t => quotedData style.isPlain t
            | _ => []
          return shownKey ++ style.keyMark ++ (← within (places 432 406 "_iterencode_dict")
            (printedData again style fuel (depth + 1) v))
        return enclosed style depth '\x7b' '\x7d' parts
      | _ => other
    | _ => other

/-- How data is to be printed, by the names that a function is given. -/
def styleOf (g : Given) : Step DataStyle := do
  let s ← get
  let indent : Option Text := match g.named.lookup "indent" with
    | some (.int n) => some (List.replicate n.toNat ' ')
    | some (.text t) => some t
    | _ => none
  let marks ← match g.named.lookup "separators" with
    | none => pure none
    | some .none => pure none
    | some v => do
      match ← itemsOf g.again v with
      | [.text a, .text b] => pure (some (a, b))
      | _ => fail "ValueError" "not enough values to unpack (expected 2, got 1)"
  let (itemMark, keyMark) := marks.getD
    (if indent.isSome then [','] else ", ".toList, ": ".toList)
  return {
    indent := indent
    itemMark := itemMark
    keyMark := keyMark
    sorts := (g.named.lookup "sort_keys").any s.isTrue
    isPlain := ((g.named.lookup "ensure_ascii").map s.isTrue).getD true
    standard := (g.named.lookup "default").getD .none }

def dataFunctions : List (String × Known) :=
  [("json.loads", fun g => do
     match ← g.need 0 with
     | .text t => readData g.again t
     | .bytes t => readData g.again (← decoded t)
     | v =>
       within (dataPlace "__init__" 339 "loads"
         "raise TypeError(f'the JSON object must be str, bytes or bytearray, '" "")
         (typeFault ("the JSON object must be str, bytes or bytearray, not "
           ++ (← get).kindName v))),
   ("json.load", fun g =>
     within (dataPlace "__init__" 293 "load" "return loads(fp.read()," "loads(fp.read(),") do
       let f ← g.again (.attribute (← g.need 0) "read")
       match ← g.call f [] with
       | .text t => readData g.again t
       | .bytes t => readData g.again (← decoded t)
       | v =>
         typeFault ("the JSON object must be str, bytes or bytearray, not " ++ (← get).kindName v)),
   ("json.dumps", fun g => do
     let style ← styleOf g
     let outer := if g.named.isEmpty then dataPlace "__init__" 231 "dumps"
         "return _default_encoder.encode(obj)" "_default_encoder.encode(obj)"
       else dataPlace "__init__" 238 "dumps" "**kw).encode(obj)" "encode(obj)"
     let inner := if style.indent.isSome then
         dataPlace "encoder" 202 "encode" "chunks = list(chunks)" "list(chunks)"
       else dataPlace "encoder" 200 "encode" "chunks = self.iterencode(o, _one_shot=True)"
           "self.iterencode(o, _one_shot=True)"
         ++ dataPlace "encoder" 258 "iterencode" "return _iterencode(o, 0)" "_iterencode(o, 0)"
     within (outer ++ inner) do
       let style := { style with inParts := style.indent.isSome }
       return .text (← printedData g.again style maxNesting 0
         (← g.need 0))),
   ("json.dump", fun g => do
     let style ← styleOf g
     let t ← within (dataPlace "__init__" 179 "dump" "for chunk in iterable:" "")
       (printedData g.again { style with inParts := true } maxNesting 0 (← g.need 0))
     let f ← g.again (.attribute (← g.need 1) "write")
     let _ ← g.call f [.text t]
     return .none)]

example : String.ofList (quotedData true ['a', '\u00e9', '"']) = "\"a\\u00e9\\\"\"" := by
  decide +kernel

end Weave.Recipe.Known
