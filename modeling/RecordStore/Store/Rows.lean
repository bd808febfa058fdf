import RecordStore.Mutation.Change
import RecordStore.Sql.Clause
import RecordStore.Store.Columns

/-!
# Tables of a database

The statements that change a table of stored rows.  A table is the list of its rows in the order in
which a scan without an order meets them: by the row number, which is the identity where that is a
single integer field, and the order of insertion elsewhere.

Every statement either fails and changes nothing, or takes effect as a whole.  The number of a
numbered field is one more than the greatest in its column, or one where there is none.
-/

namespace RecordStore

/-- The rows of one table of a database. -/
abbrev StoredTable := List StoredRow

namespace StoredTable

/-! ## Keys -/

/-- The field that serves as the row number, if there is one. -/
def rowNumber? (entity : Entity) : Option String :=
  match entity.identity with
  | [name] =>
    if (entity.field? name).any fun f => f.kind.columnType == .integer then some name else none
  | _ => none

/-- The unique keys that have an index, in the order in which the indices are made: those of unique
fields, then that of the identity, unless there is one for the same fields already. -/
def indexedKeys (entity : Entity) : List (List String) :=
  let unique := (entity.fields.filter (·.unique)).map fun field => [field.name]
  -- A row number needs no index.
  if (rowNumber? entity).isSome || unique.contains entity.identity then unique
  else unique ++ [entity.identity]

/-- The unique keys in the order in which they are checked: the row number, then the indices from
the latest to the first. -/
def checkedKeys (entity : Entity) : List (List String) :=
  (rowNumber? entity).toList.map (fun name => [name]) ++ (indexedKeys entity).reverse

/-- The cells of a key, if none of them is null. -/
def keyCells? (key : List String) (row : StoredRow) : Option (List Cell) :=
  let cells := key.map row.cellAt
  if cells.any Cell.isNull then none else some cells

def agreeOn (key : List String) (a b : StoredRow) : Bool :=
  match keyCells? key a, keyCells? key b with
  | some cells, some others =>
    (cells.zip others).all fun (cell, other) => cell.compare? other == some .eq
  | _, _ => false

/-- A key as a message names it. -/
def reportedKey (entity : Entity) (key : List String) : List String :=
  -- The engine lists the columns with the name of the table in front, and a column's name is taken
  -- to be what follows the last point of its part.
  let listed := ", ".intercalate (key.map fun name => entity.name ++ "." ++ name)
  (listed.splitOn ", ").map fun column => (column.splitOn ".").getLastD ""

/-- Refuses a row that agrees with one of other rows on a unique key. -/
def checkKeys (entity : Entity) (others : StoredTable) (row : StoredRow) :
    Except StoreError Unit :=
  match (checkedKeys entity).find? fun key => others.any (agreeOn key row) with
  | none => .ok ()
  | some key => .error (.uniqueViolation (reportedKey entity key))

/-! ## Placing -/

/-- Puts a row among others by its row number. -/
def placeByNumber (name : String) (row : StoredRow) : StoredTable → StoredTable
  | [] => [row]
  | other :: rest =>
    if (row.cellAt name).sortOrder (other.cellAt name) == .lt then row :: other :: rest
    else other :: placeByNumber name row rest

/-- Whether a row's number is one; an engine numbers rows with integers only. -/
def hasUsableNumber (entity : Entity) (row : StoredRow) : Bool :=
  match rowNumber? entity with
  | none => true
  | some name =>
    match row.cellAt name with
    | .integer _ => true
    | _ => false

def mismatchReason : String := "datatype mismatch"

/-- Puts a new or changed row among others, in place of what is between `front` and `back`. -/
def place (entity : Entity) (front : StoredTable) (row : StoredRow) (back : StoredTable) :
    Except StoreError StoredTable :=
  if hasUsableNumber entity row then
    -- The row does not collide with the one whose place it takes.
    match checkKeys entity (front ++ back) row with
    | .error error => .error error
    | .ok () =>
      -- A change of its number moves a row.
      match rowNumber? entity with
      | some name => .ok (placeByNumber name row (front ++ back))
      | none => .ok (front ++ row :: back)
  else .error (.query (.engine mismatchReason))

/-! ## Inserting -/

/-- The greatest cell of a column; null where every cell is null. -/
def greatestCell (column : String) (rows : StoredTable) : Cell :=
  rows.foldl (fun greatest row =>
    if greatest.sortOrder (row.cellAt column) == .lt then row.cellAt column else greatest) .null

/-- One more than a number. -/
def successor : Cell → Cell
  -- Behind the greatest integer the numbers go on as reals.
  | .integer n =>
    match int64? (n.toInt + 1) with
    | some n => .integer n
    | none => .real (Double.ofInt n.toInt + Double.ofInt 1)
  | .real x => .real (x + Double.ofInt 1)
  | _ => .integer 1

/-- The stored row of an insertion, with its times and its numbers. -/
def newRow (entity : Entity) (now : Readings) (insertion : Insertion) (rows : StoredTable) :
    StoredRow :=
  (insertion.pendingNumbers entity).foldl (fun row field =>
    row.insert field (entity.cellOf field (successor (greatestCell field rows))))
    (entity.store (insertion.withDefaults entity now))

/-- Inserts a row, and gives it back. -/
def insert (entity : Entity) (now : Readings) (insertion : Insertion) (rows : StoredTable) :
    Except StoreError (StoredRow × StoredTable) :=
  let row := newRow entity now insertion rows
  match place entity rows row [] with
  | .error error => .error error
  | .ok rows => .ok (row, rows)

/-! ## Updating and deleting -/

/-- Parts a table at the first row that a test accepts. -/
def splitAt? (test : StoredRow → Bool) :
    StoredTable → Option (StoredTable × StoredRow × StoredTable)
  | [] => none
  | row :: rest =>
    if test row then some ([], row, rest)
    else (splitAt? test rest).map fun (front, found, back) => (row :: front, found, back)

/-- The stored row with the fields of changes taken from a record. -/
def assign (entity : Entity) (changes : Changes) (after : Record) (row : StoredRow) : StoredRow :=
  changes.byField.keys.foldl (fun row field =>
    row.insert field (entity.cellOf field (after.valueAt field).parameter.cell)) row

/-- Updates the row that satisfies the clause of a key, if there is one. -/
def updateWhere (entity : Entity) (clause : Clause) (bound : List Parameter) (changes : Changes)
    (after : Record) (rows : StoredTable) : Except StoreError StoredTable :=
  match splitAt? (clause.keeps bound) rows with
  | none => .ok rows
  | some (front, row, back) => place entity front (assign entity changes after row) back

/-- Deletes the rows that satisfy a clause, and gives them back. -/
def deleteWhere (clause : Clause) (bound : List Parameter) (rows : StoredTable) :
    List StoredRow × StoredTable :=
  rows.partition (clause.keeps bound)

end StoredTable

end RecordStore
