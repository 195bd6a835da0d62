import Weave.Json.Draft

/-!
# Reading shapes off a draft

Every reader takes the number of containers that may still be entered; a value
nested deeper is malformed. What is merely passed over is not counted.

A record is an object with fixed members in any order, or an array of its
fields. In an object, members of other names are passed over, a name given
twice is misshapen as soon as it is met again, and a missing name is found at
the end. An array that is too short is misshapen, one that is too long is
malformed.
-/
namespace Weave.Json

/-- How deep containers may be nested. -/
def maxDepth : Nat := 127

/-- Sets a member. Members stay in the order of their keys, and the value set
last stays. -/
def setMember (key : Text) (value : Json) : List (Text × Json) → List (Text × Json)
  | [] => [(key, value)]
  | (k, v) :: rest =>
    if key = k then (key, value) :: rest
    else if key < k then (key, value) :: (k, v) :: rest
    else (k, v) :: setMember key value rest

namespace Draft

/-- What a wrong shape comes to: a scalar is read before it is refused. -/
def mismatch : Draft → Fault
  | leaf ⟨.error f, _⟩ => f
  | _ => .misshapen

mutual

/-- Any value. Objects are kept with sorted keys. -/
def json : Nat → Draft → Except Fault Json
  | _, leaf l => l.value
  | 0, arr _ _ => .error .malformed
  | 0, obj _ _ => .error .malformed
  | depth + 1, arr items stop => do
    let items ← jsonItems depth items
    match stop with
    | some f => .error f
    | none => .ok (.arr items)
  | depth + 1, obj members stop => do
    let members ← jsonMembers depth members []
    match stop with
    | some f => .error f
    | none => .ok (.obj members)

def jsonItems (depth : Nat) : List Draft → Except Fault (List Json)
  | [] => .ok []
  | item :: rest => do
    let item ← json depth item
    let rest ← jsonItems depth rest
    return item :: rest

def jsonMembers (depth : Nat) :
    List (Leaf Text × Draft) → List (Text × Json) → Except Fault (List (Text × Json))
  | [], done => .ok done
  | (key, value) :: rest, done => do
    let key ← key.value
    let value ← json depth value
    jsonMembers depth rest (setMember key value done)

end

def text : Draft → Except Fault Text
  | leaf ⟨.ok (.str value), _⟩ => .ok value
  | d => .error d.mismatch

/-- An integer from zero up to a bound. -/
def natBelow (bound : Nat) : Draft → Except Fault Nat
  | leaf ⟨.ok (.int value), _⟩ =>
    if 0 ≤ value ∧ value < bound then .ok value.toNat else .error .misshapen
  | d => .error d.mismatch

/-- A list of values that one reader accepts. -/
def list {α : Type} (item : Nat → Draft → Except Fault α) :
    Nat → Draft → Except Fault (List α)
  | depth + 1, arr items stop => do
    let items ← items.mapM (item depth)
    match stop with
    | some f => .error f
    | none => .ok items
  | 0, arr _ _ => .error .malformed
  | _, d => .error d.mismatch

/-- A field of a record: its name and the reader of its value. -/
structure NamedField (α : Type) where
  name : Text
  read : Nat → Draft → Except Fault α

/-- Reads the value of one member into the slot of its name. -/
def readField {α : Type} (depth : Nat) (key : Text) (value : Draft) :
    List (NamedField α) → List (Option α) → Except Fault (List (Option α))
  | field :: fields, slot :: slots =>
    if field.name = key then
      match slot with
      | some _ => .error .misshapen
      | none => do
        let a ← field.read depth value
        return some a :: slots
    else do
      let slots ← readField depth key value fields slots
      return slot :: slots
  | _, _ =>
    match value.blocked? with
    | some f => .error f
    | none => .ok []

def readFields {α : Type} (fields : List (NamedField α)) (depth : Nat) :
    List (Leaf Text × Draft) → List (Option α) → Except Fault (List (Option α))
  | [], slots => .ok slots
  | (key, value) :: rest, slots => do
    let key ← key.value
    let slots ← readField depth key value fields slots
    readFields fields depth rest slots

/-- Every slot filled. -/
def filled {α : Type} (slots : List (Option α)) : Except Fault (List α) :=
  slots.mapM fun slot =>
    match slot with
    | some a => .ok a
    | none => .error .misshapen

def readPositional {α : Type} (depth : Nat) :
    List (NamedField α) → List Draft → Option Fault → Except Fault (List α)
  | [], [], none => .ok []
  | [], [], some f => .error f
  | [], _ :: _, _ => .error .malformed
  | _ :: _, [], some f => .error f
  | _ :: _, [], none => .error .misshapen
  | field :: fields, item :: items, stop => do
    let a ← field.read depth item
    let rest ← readPositional depth fields items stop
    return a :: rest

/-- The values of a record's fields, in the order of the fields. -/
def record {α : Type} (fields : List (NamedField α)) : Nat → Draft → Except Fault (List α)
  | depth + 1, obj members stop => do
    let slots ← readFields fields depth members (fields.map fun _ => none)
    match stop with
    | some f => .error f
    | none => filled slots
  | depth + 1, arr items stop => readPositional depth fields items stop
  | 0, obj _ _ => .error .malformed
  | 0, arr _ _ => .error .malformed
  | _, d => .error d.mismatch

end Draft

end Weave.Json
