import RecordStore.FieldMap
import RecordStore.Number.Double

/-!
# JSON values

`Json` is the tree that requests arrive as and results leave as.  A number is an integer when its
text has neither point nor exponent and it fits 64 bits; every other number is a double.  The fields
of an object are a list: reading a text puts them in increasing order of their names, and writing
keeps whatever order they have.
-/

namespace RecordStore

inductive Json where
  | null
  | bool (value : Bool)
  | int (value : Int)
  | float (value : Double)
  | str (value : String)
  | arr (items : List Json)
  | obj (fields : List (String × Json))
deriving Inhabited

namespace Json

/-- An object with its fields in increasing order; of several fields of one name the last counts. -/
def object (fields : List (String × Json)) : Json :=
  .obj (fields.foldl (fun sorted field => insertEntry field.1 field.2 sorted) [])

/-- The object of a map, each value turned into JSON. -/
def ofMap {α : Type} (toJson : α → Json) (m : FieldMap α) : Json :=
  .obj (m.entries.map fun entry => (entry.1, toJson entry.2))

/-- The field of an object, if the value is an object that has it. -/
def field? (name : String) : Json → Option Json
  | .obj fields => lookupEntry name fields
  | _ => none

/-- The field of an object, or null. -/
def field (name : String) (value : Json) : Json := (value.field? name).getD .null

def isNull : Json → Bool
  | .null => true
  | _ => false

def str? : Json → Option String
  | .str s => some s
  | _ => none

def items? : Json → Option (List Json)
  | .arr items => some items
  | _ => none

def fields? : Json → Option (List (String × Json))
  | .obj fields => some fields
  | _ => none

def strings (names : List String) : Json := .arr (names.map .str)

/-- The number of a double; JSON has no infinities and no NaN. -/
def number (x : Double) : Json := if x.isFinite then .float x else .null

end Json

end RecordStore
