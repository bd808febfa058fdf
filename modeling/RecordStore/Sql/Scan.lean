import RecordStore.Query.Plan
import RecordStore.Sql.Narrowing

/-!
# Scans

How a database reads the rows of a plan in order.  A scan goes through an order or through its
reverse; `fromCursor` is the clause of the rows at and behind a given one in the order of the scan,
where null comes first in ascending and last in descending direction.
-/

namespace RecordStore

/-- The order in which a scan reads rows. -/
def ScanDirection.order (direction : ScanDirection) (order : List OrderTerm) : List OrderTerm :=
  match direction with
  | .forward => order
  | .backward => order.map fun term => { term with direction := term.direction.reverse }

def ScanDirection.reverse : ScanDirection → ScanDirection
  | .forward => .backward
  | .backward => .forward

def Entity.canSort (entity : Entity) (order : List OrderTerm) : Bool :=
  order.all fun term => !entity.isDecimal term.field

def Direction.keyword : Direction → String
  | .ascending => "ASC"
  | .descending => "DESC"

def orderText (order : List OrderTerm) : String :=
  ", ".intercalate (order.map fun term => quoteName term.field ++ " " ++ term.direction.keyword)

/-! ## Sorting stored rows -/

/-- How two stored rows compare in one field of an order. -/
def OrderTerm.compareStored (term : OrderTerm) (a b : StoredRow) : Ordering :=
  let order := (a.cellAt term.field).sortOrder (b.cellAt term.field)
  match term.direction with
  | .ascending => order
  | .descending => order.swap

def compareStoredRows : List OrderTerm → StoredRow → StoredRow → Ordering
  | [], _, _ => .eq
  | term :: rest, a, b => (term.compareStored a b).then (compareStoredRows rest a b)

/-- Stored rows in order. -/
def sortStoredRows (order : List OrderTerm) (rows : List StoredRow) : List StoredRow :=
  rows.mergeSort fun a b => compareStoredRows order a b != .gt

/-! ## Starting at a row -/

/-- The rows behind a value in one field of an order. -/
def OrderTerm.behind (term : OrderTerm) (value : Value) (bound : Bound) : Clause × Bound :=
  let column := Scalar.column term.field
  match term.direction, value with
  | .ascending, .null => (.isNotNull column, bound)
  | .descending, .null => (.constant false, bound)
  | .ascending, value => FieldTest.comparisonClause .greater term.field value bound
  -- In descending direction null stands behind every value.
  | .descending, value =>
    let (clause, bound) := FieldTest.comparisonClause .less term.field value bound
    (.group (.any [clause, .isNull column]), bound)

/-- The rows with a value in one field of an order. -/
def OrderTerm.level (term : OrderTerm) (value : Value) (bound : Bound) : Clause × Bound :=
  match value with
  | .null => (.isNull (.column term.field), bound)
  | value => FieldTest.comparisonClause .equal term.field value bound

/-- For each field of an order, the rows that are level with a given one before it and behind in it;
then the rows that are level in every field. -/
def cursorBranches (anchor : Record) :
    List OrderTerm → List Clause → Bound → List Clause × Bound
  | [], levels, bound => ([.group (.all levels)], bound)
  | term :: rest, levels, bound =>
    let value := anchor.valueAt term.field
    -- The levels stand in every later branch, but their parameters are bound once.
    let (behind, bound) := term.behind value bound
    let (level, bound) := term.level value bound
    let (branches, bound) := cursorBranches anchor rest (levels ++ [level]) bound
    (.group (.all (levels ++ [behind])) :: branches, bound)

/-- The clause of the rows at and behind a given one in an order. -/
def fromCursor (order : List OrderTerm) (anchor : Record) (bound : Bound) : Clause × Bound :=
  let (branches, bound) := cursorBranches anchor order [] bound
  (.group (.any branches), bound)

end RecordStore
