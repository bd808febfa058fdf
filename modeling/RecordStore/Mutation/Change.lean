import RecordStore.Error
import RecordStore.Value.Arithmetic

/-!
# Insertions and changes

An `Insertion` holds the fields that a new row is given; the rest is filled in where the row is
stored.  A `Change` is what an update does to one field, and `Changes` what it does to a row.

A relative change has no result where arithmetic has none; a null stays null under it.
-/

namespace RecordStore

/-- The fields that a new row is given. -/
structure Insertion where
  given : Record
deriving DecidableEq

namespace Insertion

/-- The numbered fields that are left to the table. -/
def pendingNumbers (insertion : Insertion) (entity : Entity) : List String :=
  (entity.fields.filter fun field =>
    field.default? = some .autoIncrement && !insertion.given.contains field.name).map (·.name)

/-- The new row, but for the numbers that the table assigns. -/
def withDefaults (insertion : Insertion) (entity : Entity) (now : Readings) : Record :=
  entity.fillDefaults now insertion.given

end Insertion

/-- What an update does to one field. -/
inductive Change where
  | set (value : Value)
  | relative (op : Arithmetic) (operand : Value)
deriving DecidableEq

namespace Change

def operatorName : Arithmetic → String
  | .add => "increment"
  | .subtract => "decrement"
  | .multiply => "multiply"
  | .divide => "divide"

def name : Change → String
  | .set _ => "set"
  | .relative op _ => operatorName op

def operand : Change → Value
  | .set value => value
  | .relative _ operand => operand

/-- The new value of a field. -/
def apply (change : Change) (field : String) (current : Value) : Except StoreError Value :=
  match change with
  | .set value => .ok value
  | .relative op operand =>
    match Value.arithmetic? op current operand with
    | some value => .ok value
    | none => .error (.query (.arithmetic (operatorName op) field operand.text))

end Change

/-- What an update does to a row, by field. -/
structure Changes where
  byField : FieldMap Change
deriving DecidableEq

namespace Changes

def isEmpty (changes : Changes) : Bool := changes.byField.isEmpty

/-- Applies changes to a row in order; each reads the row as it was before all of them. -/
def applyFrom (before : Record) : List (String × Change) → Record → Except StoreError Record
  | [], row => .ok row
  | (field, change) :: rest, row =>
    match change.apply field (before.valueAt field) with
    | .error error => .error error
    | .ok value => applyFrom before rest (row.insert field value)

/-- The row after an update. -/
def apply (changes : Changes) (row : Record) : Except StoreError Record :=
  applyFrom row changes.byField.entries row

end Changes

end RecordStore
