import RecordStore.FieldMap
import RecordStore.Value.Order

/-!
# Records and addresses

A `Record` is one row of an entity: its fields with their values.  A field that a record lacks counts
as null wherever a value is asked for.

An `Address` is the value of a unique key: the fields of the key, none of them null.  It matches a
record that has the same values in those fields.
-/

namespace RecordStore

/-- One row of an entity. -/
abbrev Record := FieldMap Value

/-- The value of a field, null where the record has none. -/
def FieldMap.valueAt (record : FieldMap Value) (field : String) : Value :=
  (record.get? field).getD .null

@[simp] theorem FieldMap.valueAt_empty (field : String) :
    (FieldMap.empty : FieldMap Value).valueAt field = .null := rfl

@[simp] theorem FieldMap.valueAt_insert (record : FieldMap Value) (name : String) (value : Value)
    (field : String) :
    (record.insert name value).valueAt field =
      if field = name then value else record.valueAt field := by
  unfold valueAt
  rw [get?_insert]
  split <;> rfl

/-- The values of fields, in the order of the fields. -/
def FieldMap.project (record : FieldMap Value) (fields : List String) : List Value :=
  fields.map record.valueAt

/-- A record as a JSON object. -/
def FieldMap.recordJson (record : FieldMap Value) : Json := Json.ofMap Value.toJson record

/-- The value of a unique key, which names at most one row. -/
structure Address where
  key : FieldMap Value
deriving DecidableEq

namespace Address

/-- The address of a record under a key, if no field of the key is null in it. -/
def ofRecord? (record : Record) (key : List String) : Option Address :=
  (bindings? key).map fun entries => ⟨FieldMap.ofList entries⟩
where
  bindings? : List String → Option (List (String × Value))
    | [] => some []
    | field :: rest =>
      match record.get? field with
      | none => none
      | some .null => none
      | some value => (bindings? rest).map ((field, value) :: ·)

/-- Whether a record has every value of an address. -/
def isOf (address : Address) (record : Record) : Bool :=
  address.key.entries.all fun entry => (record.valueAt entry.1).same entry.2

/-- The text of an address: `field=value`, with commas between. -/
def text (address : Address) : String :=
  ", ".intercalate (address.key.entries.map fun entry => entry.1 ++ "=" ++ entry.2.text)

end Address

end RecordStore
