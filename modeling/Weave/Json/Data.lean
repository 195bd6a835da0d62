import Weave.Json.Basic
import Weave.Path

/-!
# Data that is to be JSON

Data are made JSON values before they are printed. A path stands in JSON as a text, so
nothing is made of data that hold a path which is none. Of all other data a value is made, and
of what is JSON already the same value.
-/
namespace Weave.Json

/-- What is to be a JSON value. -/
inductive Data where
  | null
  | bool (value : Bool)
  | int (value : Int)
  | real (value : Double)
  | str (value : Text)
  | path (value : Path)
  | arr (items : List Data)
  | obj (members : List (Text × Data))

namespace Data

/-- Why nothing is made of a path. -/
def pathNotText : Text := "path contains invalid UTF-8 characters".toList

mutual

/-- The JSON value, or why there is none. -/
def encode : Data → Except Text Json
  | null => .ok .null
  | bool value => .ok (.bool value)
  | int value => .ok (.int value)
  | real value => .ok (.real value)
  | str value => .ok (.str value)
  | path value => if value.isText then .ok (.str value) else .error pathNotText
  | arr items => do return .arr (← encodeItems items)
  | obj members => do return .obj (← encodeMembers members)

def encodeItems : List Data → Except Text (List Json)
  | [] => .ok []
  | item :: rest => do return (← encode item) :: (← encodeItems rest)

def encodeMembers : List (Text × Data) → Except Text (List (Text × Json))
  | [] => .ok []
  | (key, value) :: rest => do return (key, ← encode value) :: (← encodeMembers rest)

end

mutual

def ofJson : Json → Data
  | .null => null
  | .bool value => bool value
  | .int value => int value
  | .real value => real value
  | .str value => str value
  | .arr items => arr (itemsOf items)
  | .obj members => obj (membersOf members)

def itemsOf : List Json → List Data
  | [] => []
  | item :: rest => ofJson item :: itemsOf rest

def membersOf : List (Text × Json) → List (Text × Data)
  | [] => []
  | (key, value) :: rest => (key, ofJson value) :: membersOf rest

end

mutual

/-- What is JSON already has no path in it. -/
theorem encode_ofJson (j : Json) : (ofJson j).encode = .ok j := by
  cases j with
  | arr items => rw [ofJson, encode, encodeItems_itemsOf items]; rfl
  | obj members => rw [ofJson, encode, encodeMembers_membersOf members]; rfl
  | _ => rfl

theorem encodeItems_itemsOf (items : List Json) : encodeItems (itemsOf items) = .ok items := by
  cases items with
  | nil => rfl
  | cons item rest =>
      rw [itemsOf, encodeItems, encode_ofJson item, encodeItems_itemsOf rest]
      rfl

theorem encodeMembers_membersOf (members : List (Text × Json)) :
    encodeMembers (membersOf members) = .ok members := by
  cases members with
  | nil => rfl
  | cons member rest =>
      obtain ⟨key, value⟩ := member
      rw [membersOf, encodeMembers, encode_ofJson value, encodeMembers_membersOf rest]
      rfl

end

/-- An object with its members in the order given. -/
def record (members : List (String × Data)) : Data :=
  obj (members.map fun m => (m.1.toList, m.2))

end Data

end Weave.Json
