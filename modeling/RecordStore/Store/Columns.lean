import RecordStore.Error
import RecordStore.Sql.Cell

/-!
# Rows and cells

How a record is laid out in the columns of a table, and how it is read back.  A column is read by
the kind of its field and not by what is stored in it, so that a row gives the same values wherever
it has been kept.  Storing does not check the range of a field, and reading does.
-/

namespace RecordStore

/-- The cell that a column of an entity keeps for a value. -/
def Entity.cellOf (entity : Entity) (field : String) (cell : Cell) : Cell :=
  match entity.field? field with
  | some f => f.kind.columnType.keep cell
  | none => cell

/-- The stored row of a record. -/
def Entity.store (entity : Entity) (record : Record) : StoredRow :=
  record.mapValues fun field value => entity.cellOf field value.parameter.cell

/-! ## Reading -/

/-- A cell read as an integer. -/
def Cell.readInteger : Cell → Option Int64
  | .null => none
  | .integer n => some n
  -- A real that is too large is read as the integer at its end of the range.
  | .real x =>
    match x.integer?.bind int64? with
    | some n => some n
    | none => some (if x.negative then Int64.minValue else Int64.maxValue)
  | .text _ => some 0

/-- A cell read as a real. -/
def Cell.readReal : Cell → Option Double
  | .null => none
  | .integer n => some (Double.ofInt n.toInt)
  | .real x => some x
  | .text _ => some .zero

/-- A cell read as a text. -/
def Cell.readText : Cell → Option String
  | .null => none
  | .integer n => some (toString n.toInt)
  | .real x => some (x.text .json)
  | .text s => some s

inductive CellFault where
  | outOfRange (value : Int64)
  | invalidTimestamp (text : String)
  | invalidDecimal (text : String)
deriving DecidableEq

def CellFault.message : CellFault → String
  | .outOfRange value => toString value.toInt ++ " out of range"
  | .invalidTimestamp text => "invalid timestamp '" ++ text ++ "'"
  | .invalidDecimal text => "'" ++ text ++ "': Invalid decimal: unknown character"

/-- The value of a cell that is read as something, null where there is nothing to read. -/
def readWith {α : Type} (toValue : α → Except CellFault Value) : Option α → Except CellFault Value
  | none => .ok .null
  | some content => toValue content

/-- The value of a cell in the column of a kind of field. -/
def FieldKind.readCell (kind : FieldKind) (cell : Cell) : Except CellFault Value :=
  match kind with
  | .string => readWith (fun s => .ok (.string s)) cell.readText
  | .enumeration _ => readWith (fun s => .ok (.enumeration s)) cell.readText
  | .int =>
    readWith (fun n : Int64 =>
      match int32? n.toInt with
      | some n => .ok (.int n)
      | none => .error (.outOfRange n)) cell.readInteger
  | .bigInt => readWith (fun n => .ok (.bigInt n)) cell.readInteger
  | .boolean => readWith (fun n => .ok (.bool (n != 0))) cell.readInteger
  | .float => readWith (fun x => .ok (.float x)) cell.readReal
  | .decimal =>
    readWith (fun s : String =>
      match Decimal.read? s.toList with
      | some x => .ok (.decimal x)
      | none => .error (.invalidDecimal s)) cell.readText
  | .dateTime =>
    readWith (fun s =>
      match Timestamp.read? s with
      | some t => .ok (.dateTime t)
      | none => .error (.invalidTimestamp s)) cell.readText

def readColumns (row : StoredRow) : List Field → Record → Except StoreError Record
  | [], record => .ok record
  | field :: rest, record =>
    match field.kind.readCell (row.cellAt field.name) with
    | .ok value => readColumns row rest (record.insert field.name value)
    | .error fault => .error (.query (.column field.name fault.message))

/-- The record of a stored row. -/
def Entity.load (entity : Entity) (row : StoredRow) : Except StoreError Record :=
  readColumns row entity.fields .empty

/-- The records of stored rows. -/
def Entity.loadAll (entity : Entity) (rows : List StoredRow) : Except StoreError (List Record) :=
  rows.mapM entity.load

end RecordStore
