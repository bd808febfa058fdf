import RecordStore.Record
import RecordStore.Schema.Entity

/-!
# Cells

A `Cell` is what a database stores in one column of a row, and a `Parameter` is what is bound to a
placeholder of a statement.  Truth values are stored as 0 and 1, moments as text of a fixed width in
UTC, and decimals as text, which a database cannot compare as numbers.

* `Cell.compare?` is the order of two cells that are not null, numbers before texts.
* `Cell.sortOrder` extends it to all cells, with null before everything.
-/

namespace RecordStore

/-- What a database stores in a column of a row. -/
inductive Cell where
  | null
  | integer (value : Int64)
  | real (value : Double)
  | text (value : String)
deriving DecidableEq, Inhabited

/-- What is bound to a placeholder of a statement. -/
inductive Parameter where
  | null
  | bool (value : Bool)
  | integer (value : Int64)
  | real (value : Double)
  | text (value : String)
deriving DecidableEq, Inhabited

def Parameter.cell : Parameter → Cell
  | .null => .null
  | .bool b => .integer (if b then 1 else 0)
  | .integer n => .integer n
  | .real x => .real x
  | .text s => .text s

def Value.parameter : Value → Parameter
  | .null => .null
  | .bool b => .bool b
  | .int n => .integer n.toInt64
  | .bigInt n => .integer n
  | .float x => .real x
  | .decimal x => .text x.text
  | .dateTime t => .text t.text
  | .string s => .text s
  | .enumeration s => .text s

namespace Cell

def isNull : Cell → Bool
  | .null => true
  | _ => false

/-! ## Order -/

/-- The order of an integer and a double as numbers, unless the double is a NaN. -/
def compareToReal (n : Int64) (x : Double) : Option Ordering :=
  match x.integer? with
  | some m => some (compare n.toInt m)
  -- A finite double that is not whole is so small that the rounding of the integer does not matter.
  | none => (Double.ofInt n.toInt).compare? x

/-- The order of two cells, unless one of them is null. -/
def compare? : Cell → Cell → Option Ordering
  | .null, _ => none
  | _, .null => none
  | .integer m, .integer n => some (compare m.toInt n.toInt)
  | .integer n, .real x => compareToReal n x
  | .real x, .integer n => (compareToReal n x).map Ordering.swap
  | .real x, .real y => x.compare? y
  | .text s, .text t => some (compare s t)
  | .text _, _ => some .gt
  | _, .text _ => some .lt

/-- The order of two cells in a sorted result: null comes first. -/
def sortOrder (a b : Cell) : Ordering :=
  match a.isNull, b.isNull with
  | true, true => .eq
  | true, false => .lt
  | false, true => .gt
  | false, false => (a.compare? b).getD .eq

end Cell

/-! ## Types of columns -/

/-- The type of a column. -/
inductive ColumnType where
  | text
  | integer
  | real
deriving DecidableEq

def ColumnType.name : ColumnType → String
  | .text => "TEXT"
  | .integer => "INTEGER"
  | .real => "REAL"

/-- The type of the column of a kind of field. -/
def FieldKind.columnType : FieldKind → ColumnType
  | .int => .integer
  | .bigInt => .integer
  | .boolean => .integer
  | .float => .real
  | _ => .text

/-- The cell as a column keeps it. -/
def ColumnType.keep (type : ColumnType) (cell : Cell) : Cell :=
  match type, cell with
  -- A column of reals stores whole numbers as integers, and with that forgets the sign of zero.
  | .real, .real x => .real (if x.isZero then .zero else x)
  | _, cell => cell

/-! ## Stored rows -/

/-- One row as a database stores it. -/
abbrev StoredRow := FieldMap Cell

/-- The cell of a column, null where the row has none. -/
def FieldMap.cellAt (row : FieldMap Cell) (column : String) : Cell :=
  (row.get? column).getD .null

end RecordStore
