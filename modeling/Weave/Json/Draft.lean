import Weave.Json.Scalar

/-!
# A JSON text as far as it can be read

A reader that looks for a certain shape stops at the first thing it cannot
accept, be it a wrong shape or a fault of the text, and what lies behind does
not count. So a text is first laid out as a draft, in which a fault stands at
the place where it was met, and shapes are then read off the draft in the order
of the text: whichever fault comes first on that walk is the answer.

A container whose part is broken ends there. Reading is bounded by a number
that the length of the text supplies.
-/
namespace Weave.Json

/-- A scalar: what reading its value gives, and what stops one who only passes
over it. -/
structure Leaf (α : Type) where
  value : Except Fault α
  blocked : Option Fault
deriving Repr

inductive Draft where
  | leaf (l : Leaf Json)
  | arr (items : List Draft) (stop : Option Fault)
  | obj (members : List (Leaf Text × Draft)) (stop : Option Fault)
deriving Repr

namespace Draft

/-- A place where no value can be read. -/
def broken (f : Fault) : Draft :=
  leaf ⟨.error f, some f⟩

mutual

/-- The first fault for one who passes over the draft. -/
def blocked? : Draft → Option Fault
  | leaf l => l.blocked
  | arr items stop => (blockedItem? items).or stop
  | obj members stop => (blockedMember? members).or stop

def blockedItem? : List Draft → Option Fault
  | [] => none
  | item :: rest => item.blocked?.or (blockedItem? rest)

def blockedMember? : List (Leaf Text × Draft) → Option Fault
  | [] => none
  | (key, value) :: rest => (key.blocked.or value.blocked?).or (blockedMember? rest)

end

def isSpace (c : Char) : Bool :=
  c = ' ' || c = '\n' || c = '\t' || c = '\r'

def skipSpace (t : Text) : Text :=
  t.dropWhile isSpace

/-- What is behind something passed over, and the fault that prevents it. -/
def behind : Except Fault Text → Option Fault × Text
  | .ok rest => (none, rest)
  | .error f => (some f, [])

/-- A leaf of which a value and the text behind it were read. -/
def leafOf (value : Except Fault Json) (rest : Except Fault Text) : Draft × Text :=
  let (blocked, rest) := behind rest
  (leaf ⟨value, blocked⟩, rest)

def wordLeaf (value : Json) (word t : Text) : Draft × Text :=
  let rest := skipWord word t
  leafOf (rest.map fun _ => value) rest

def keyLeaf (t : Text) : Leaf Text × Text :=
  let (blocked, rest) := behind (skipString t)
  (⟨readString t, blocked⟩, rest)

/-- The parts of a container, the fault that ended it early, and the text
behind it. -/
structure Parts (α : Type) where
  parts : List α
  stop : Option Fault
  rest : Text

namespace Parts

def done {α : Type} (rest : Text) : Parts α := ⟨[], none, rest⟩

def fail {α : Type} (f : Fault) : Parts α := ⟨[], some f, []⟩

def cons {α : Type} (part : α) (p : Parts α) : Parts α := { p with parts := part :: p.parts }

end Parts

mutual

/-- Reads the value at the front. -/
def read : Nat → Text → Draft × Text
  | 0, _ => (broken .malformed, [])
  | fuel + 1, t =>
    match skipSpace t with
    | [] => (broken .unfinished, [])
    | '[' :: rest =>
      let p := readItems fuel rest
      (arr p.parts p.stop, p.rest)
    | '\x7b' :: rest =>
      let p := readMembers fuel rest
      (obj p.parts p.stop, p.rest)
    | '"' :: rest => leafOf ((readString rest).map str) (skipString rest)
    | 'n' :: rest => wordLeaf null "ull".toList rest
    | 't' :: rest => wordLeaf (bool true) "rue".toList rest
    | 'f' :: rest => wordLeaf (bool false) "alse".toList rest
    | c :: rest =>
      if c = '-' || c.isDigit then leafOf (readNumber (c :: rest)) (skipNumber (c :: rest))
      else (broken .malformed, [])

/-- Reads one item and those behind it. -/
def readItem : Nat → Text → Parts Draft
  | 0, _ => .fail .malformed
  | fuel + 1, t =>
    let (item, rest) := read fuel t
    match item.blocked? with
    | some f => ⟨[item], some f, []⟩
    | none => .cons item (readMoreItems fuel rest)

def readItems : Nat → Text → Parts Draft
  | 0, _ => .fail .malformed
  | fuel + 1, t =>
    match skipSpace t with
    | [] => .fail .unfinished
    | ']' :: rest => .done rest
    | t => readItem fuel t

def readMoreItems : Nat → Text → Parts Draft
  | 0, _ => .fail .malformed
  | fuel + 1, t =>
    match skipSpace t with
    | [] => .fail .unfinished
    | ']' :: rest => .done rest
    | ',' :: rest => readItem fuel rest
    | _ => .fail .malformed

/-- Reads one member, whose opening quote has been read, and those behind it.
A fault between key and value stands in place of the value. -/
def readMember : Nat → Text → Parts (Leaf Text × Draft)
  | 0, _ => .fail .malformed
  | fuel + 1, t =>
    let (key, rest) := keyLeaf t
    match key.blocked with
    | some f => ⟨[(key, broken f)], some f, []⟩
    | none =>
      match skipSpace rest with
      | [] => ⟨[(key, broken .unfinished)], some .unfinished, []⟩
      | ':' :: rest =>
        let (value, rest) := read fuel rest
        match value.blocked? with
        | some f => ⟨[(key, value)], some f, []⟩
        | none => .cons (key, value) (readMoreMembers fuel rest)
      | _ => ⟨[(key, broken .malformed)], some .malformed, []⟩

def readMembers : Nat → Text → Parts (Leaf Text × Draft)
  | 0, _ => .fail .malformed
  | fuel + 1, t =>
    match skipSpace t with
    | [] => .fail .unfinished
    | '\x7d' :: rest => .done rest
    | '"' :: rest => readMember fuel rest
    | _ => .fail .malformed

def readMoreMembers : Nat → Text → Parts (Leaf Text × Draft)
  | 0, _ => .fail .malformed
  | fuel + 1, t =>
    match skipSpace t with
    | [] => .fail .unfinished
    | '\x7d' :: rest => .done rest
    | ',' :: rest =>
      match skipSpace rest with
      | [] => .fail .unfinished
      | '"' :: rest => readMember fuel rest
      | _ => .fail .malformed
    | _ => .fail .malformed

end

/-- Enough for any text: of any three steps one reads a character. -/
def fuelFor (t : Text) : Nat :=
  3 * t.length + 3

/-- Reads a whole text with a reader of a certain shape. Nothing but space may
follow the value. -/
def decode {α : Type} (shape : Draft → Except Fault α) (t : Text) : Except Fault α :=
  let (draft, rest) := read (fuelFor t) t
  match shape draft with
  | .error f => .error f
  | .ok a => if skipSpace rest = [] then .ok a else .error .malformed

end Draft

end Weave.Json
