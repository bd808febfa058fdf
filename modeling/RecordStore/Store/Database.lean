import RecordStore.Sql.Scan
import RecordStore.Store.Interface
import RecordStore.Store.Rows

/-!
# The store in a database

A store that answers calls with statements on the tables of a database.  Filters, orders, cursors
and pages become parts of statements; changes and aggregates are computed on rows that have been
read back.

A database cannot compare decimals.  A plan that tests or orders by a decimal is narrowed by a
statement, and decided on the rows that the statement keeps.

A call of several statements is a transaction: it takes effect as a whole or not at all.  A call of
one statement takes effect when the statement has run, even if its result cannot be read.
-/

namespace RecordStore

/-- A store that keeps tables in a database.  Once closed it answers no call that needs the
database. -/
structure DatabaseStore where
  tables : FieldMap StoredTable
  isOpen : Bool
deriving DecidableEq

namespace DatabaseStore

/-- A database with empty tables. -/
def empty : DatabaseStore := ⟨.empty, true⟩

instance : Inhabited DatabaseStore := ⟨empty⟩

def rows (store : DatabaseStore) (entity : String) : StoredTable :=
  (store.tables.get? entity).getD []

/-- The store without its connections. -/
def close (store : DatabaseStore) : DatabaseStore := { store with isOpen := false }

def closedReason : String := "attempted to acquire a connection on a closed pool"

/-! ## Calls -/

/-- A call that reads a table. -/
def inspect {α : Type} (entity : Entity) (f : StoredTable → Except StoreError α) :
    Call DatabaseStore α := fun store =>
  if store.isOpen then (f (store.rows entity.name), store)
  else (.error (.unavailable closedReason), store)

/-- A call of one statement on a table, whose effect stays whatever comes of its result. -/
def execute {α : Type} (entity : Entity) (f : StoredTable → Except StoreError α × StoredTable) :
    Call DatabaseStore α := fun store =>
  if store.isOpen then
    let (result, rows) := f (store.rows entity.name)
    (result, { store with tables := store.tables.insert entity.name rows })
  else (.error (.unavailable closedReason), store)

/-- A call whose statements take effect together, if none of them fails. -/
def transact {α : Type} (entity : Entity) (f : StoredTable → Except StoreError (α × StoredTable)) :
    Call DatabaseStore α :=
  execute entity fun rows =>
    match f rows with
    | .ok (result, rows) => (.ok result, rows)
    | .error error => (.error error, rows)

/-! ## Reading -/

/-- The stored row of an address, if there is one. -/
def selectUnique (address : Address) (rows : StoredTable) : Option StoredRow :=
  let (clause, bound) := address.clause []
  rows.find? (clause.keeps bound)

/-- The record of an address, if there is one. -/
def findUnique (entity : Entity) (address : Address) (rows : StoredTable) :
    Except StoreError (Option Record) :=
  (selectUnique address rows).mapM entity.load

/-- The stored rows that a filter's clause keeps; all of them where the filter always holds. -/
def selectMatching (entity : Entity) (filter : Filter) (rows : StoredTable) : StoredTable :=
  if filter.isAlways then rows
  else
    let (clause, bound) := filter.narrowing entity []
    rows.filter (clause.keeps bound)

/-- The records of stored rows, of which those that a filter rejects are left out, unless its clause
has done so. -/
def loadMatching (entity : Entity) (filter : Filter) (rows : StoredTable) :
    Except StoreError (List Record) :=
  match entity.loadAll rows with
  | .error error => .error error
  | .ok records =>
    .ok (if filter.isExact entity then records else records.filter filter.selects)

/-- The records that pass a filter. -/
def matching (entity : Entity) (filter : Filter) (rows : StoredTable) :
    Except StoreError (List Record) :=
  loadMatching entity filter (selectMatching entity filter rows)

/-- Whether a statement alone decides which rows a plan is about, and in which order. -/
def decides (entity : Entity) (plan : Plan) : Bool :=
  plan.filter.isExact entity && entity.canSort plan.order

/-- The record that a cursor addresses, if it is there and passes the filter. -/
def anchor (entity : Entity) (filter : Filter) (cursor : Address) (rows : StoredTable) :
    Except StoreError (Option Record) :=
  let (identity, bound) := cursor.clause []
  -- A row that the filter rejects is no place to start from.
  let kept :=
    if filter.isAlways then rows.find? (identity.keeps bound)
    else
      let (narrowing, bound) := filter.narrowing entity bound
      rows.find? ((Clause.all [identity, narrowing]).keeps bound)
  kept.mapM entity.load

/-- The clauses of a plan's filter, none where the filter always holds. -/
def filterClauses (entity : Entity) (filter : Filter) : List Clause × Bound :=
  if filter.isAlways then ([], [])
  else
    let (clause, bound) := filter.narrowing entity []
    ([clause], bound)

/-- The stored rows of a plan in the order of the scan, before distinct and page; nothing where the
cursor's row is missing. -/
def scan (entity : Entity) (plan : Plan) (rows : StoredTable) :
    Except StoreError (Option StoredTable) :=
  -- A backward scan reads in the reversed order, so that the page is always cut from the front.
  let order := plan.page.direction.order plan.order
  let (clauses, bound) := filterClauses entity plan.filter
  let ordered (clauses : List Clause) (bound : Bound) : StoredTable :=
    sortStoredRows order (rows.filter ((Clause.all clauses).keeps bound))
  match plan.cursor? with
  | none => .ok (some (ordered clauses bound))
  | some cursor =>
    match anchor entity plan.filter cursor rows with
    | .error error => .error error
    | .ok none => .ok none
    | .ok (some anchor) =>
      let (start, bound) := fromCursor order anchor bound
      .ok (some (ordered (clauses ++ [start]) bound))

/-- The greatest number that the size of a page can have in a statement. -/
def maxPageBound : Nat := Nat.pow 2 63 - 1

/-- The page of scanned rows, cut by the statement. -/
def cut (page : Page) (rows : StoredTable) : Except StoreError StoredTable :=
  match page.take? with
  | none => .ok (rows.drop page.skip)
  | some take =>
    if maxPageBound < take then .error (.query (.engine StoredTable.mismatchReason))
    else .ok ((rows.drop page.skip).take take)

/-- The records of a plan, in its order. -/
def window (entity : Entity) (plan : Plan) (rows : StoredTable) :
    Except StoreError (List Record) := do
  -- What a statement cannot decide is decided on the records that it keeps.
  if !decides entity plan then
    return plan.window (sortRows plan.order (← matching entity plan.filter rows))
  match ← scan entity plan rows with
  | none => return []
  | some scanned =>
    -- Rows that are told apart by their values have to be read before the page is cut.
    let page ←
      if plan.distinct.isEmpty then entity.loadAll (← cut plan.page scanned)
      else pure (plan.paginate (← entity.loadAll scanned))
    return match plan.page.direction with
      | .forward => page
      | .backward => page.reverse

def countWindow (entity : Entity) (plan : Plan) (rows : StoredTable) : Except StoreError Nat := do
  if !plan.distinct.isEmpty || !decides entity plan then
    return (← window entity plan rows).length
  match ← scan entity plan rows with
  | none => return 0
  | some scanned => return (← cut plan.page scanned).length

/-- A call that reads the rows of a plan. -/
def read {α : Type} (entity : Entity) (plan : Plan) (nothing : Except StoreError α)
    (f : StoredTable → Except StoreError α) : Call DatabaseStore α :=
  -- A page of no rows is known without the database, even a closed one.
  if plan.isEmptyPage then fun store => (nothing, store) else inspect entity f

/-! ## Inserting -/

/-- Inserts rows one after the other, and counts them. -/
def insertMany (entity : Entity) (clock : Clock) (skipDuplicates : Bool) :
    Nat → List Insertion → StoredTable → Except StoreError (Nat × StoredTable)
  | _, [], rows => .ok (0, rows)
  -- A row has readings of its own, whether or not it is stored.
  | n, insertion :: rest, rows =>
    match StoredTable.insert entity (clock n) insertion rows with
    | .ok (_, rows) =>
      match insertMany entity clock skipDuplicates (n + 1) rest rows with
      | .ok (count, rows) => .ok (count + 1, rows)
      | .error error => .error error
    | .error (.uniqueViolation key) =>
      if skipDuplicates then insertMany entity clock skipDuplicates (n + 1) rest rows
      else .error (.uniqueViolation key)
    | .error error => .error error

/-- Inserts a row and reads it back. -/
def insertAndLoad (entity : Entity) (now : Readings) (insertion : Insertion)
    (rows : StoredTable) : Except StoreError Record × StoredTable :=
  match StoredTable.insert entity now insertion rows with
  | .ok (row, rows) => (entity.load row, rows)
  | .error error => (.error error, rows)

/-! ## Updating -/

/-- Updates the row of a record that has been read, and gives the changed record. -/
def updateRecord (entity : Entity) (changes : Changes) (before : Record) (rows : StoredTable) :
    Except StoreError (Record × StoredTable) :=
  match changes.apply before with
  | .error error => .error error
  | .ok after =>
    match Address.ofRecord? before entity.identity with
    | none => .error (.query (.engine (entity.name ++ " row without identity")))
    | some identity =>
      -- The row is addressed by the identity that it had, behind the parameters of what is assigned.
      let (clause, bound) :=
        Address.clause identity (changes.byField.keys.map fun f => (after.valueAt f).parameter)
      match StoredTable.updateWhere entity clause bound changes after rows with
      | .error error => .error error
      | .ok rows => .ok (after, rows)

/-- Updates the row of an address. -/
def update (entity : Entity) (address : Address) (changes : Changes) (rows : StoredTable) :
    Except StoreError (Record × StoredTable) :=
  match findUnique entity address rows with
  | .error error => .error error
  | .ok none => .error (.notFound entity.name)
  | .ok (some before) => updateRecord entity changes before rows

/-- Updates the rows of records that have been read, one after the other. -/
def updateRecords (entity : Entity) (changes : Changes) :
    List Record → StoredTable → Except StoreError StoredTable
  | [], rows => .ok rows
  | before :: rest, rows =>
    match updateRecord entity changes before rows with
    | .error error => .error error
    | .ok (_, rows) => updateRecords entity changes rest rows

/-- Updates every row that passes a filter. -/
def updateMany (entity : Entity) (filter : Filter) (changes : Changes) (rows : StoredTable) :
    Except StoreError (Nat × StoredTable) := do
  let found ← matching entity filter rows
  let rows ← updateRecords entity changes found rows
  return (found.length, rows)

/-- Updates the row of an address, or inserts a row if there is none. -/
def upsert (entity : Entity) (now : Readings) (address : Address) (insertion : Insertion)
    (changes : Changes) (rows : StoredTable) : Except StoreError (Record × StoredTable) :=
  match findUnique entity address rows with
  | .error error => .error error
  | .ok (some before) =>
    if changes.isEmpty then .ok (before, rows) else updateRecord entity changes before rows
  | .ok none =>
    match insertAndLoad entity now insertion rows with
    | (.ok record, rows) => .ok (record, rows)
    | (.error error, _) => .error error

/-! ## Deleting -/

/-- Deletes the row of an address and reads what it was. -/
def delete (entity : Entity) (address : Address) (rows : StoredTable) :
    Except StoreError Record × StoredTable :=
  let (clause, bound) := address.clause []
  match StoredTable.deleteWhere clause bound rows with
  | ([], rows) => (.error (.notFound entity.name), rows)
  | (row :: _, rows) => (entity.load row, rows)

/-- Deletes the rows of records that have been read, one after the other, and counts them. -/
def deleteRecords (entity : Entity) :
    List Record → StoredTable → Except StoreError (Nat × StoredTable)
  | [], rows => .ok (0, rows)
  | record :: rest, rows =>
    match Address.ofRecord? record entity.identity with
    | none => .error (.query (.engine (entity.name ++ " row without identity")))
    | some identity =>
      -- A row that is no longer there is not counted.
      let (clause, bound) := identity.clause []
      let (deleted, rows) := StoredTable.deleteWhere clause bound rows
      match deleteRecords entity rest rows with
      | .error error => .error error
      | .ok (count, rows) => .ok (if deleted.isEmpty then count else count + 1, rows)

/-- Deletes every row that passes a filter. -/
def deleteMany (entity : Entity) (filter : Filter) (rows : StoredTable) :
    Except StoreError (Nat × StoredTable) :=
  -- The rows of a filter that a statement cannot decide are read first and deleted one by one.
  if filter.isExact entity then
    let (clauses, bound) := filterClauses entity filter
    let (deleted, rows) := StoredTable.deleteWhere (.all clauses) bound rows
    .ok (deleted.length, rows)
  else do
    deleteRecords entity (← matching entity filter rows) rows

/-! ## The calls of the store -/

def interface : StoreInterface DatabaseStore where
  findUnique entity address := inspect entity (findUnique entity address)
  findMany entity plan := read entity plan (.ok []) (window entity plan)
  count entity plan := read entity plan (.ok 0) (countWindow entity plan)
  create entity clock insertion := execute entity (insertAndLoad entity (clock 0) insertion)
  createMany entity clock insertions skipDuplicates :=
    transact entity (insertMany entity clock skipDuplicates 0 insertions)
  update entity address changes := transact entity (update entity address changes)
  updateMany entity filter changes := transact entity (updateMany entity filter changes)
  upsert entity clock address insertion changes :=
    transact entity (upsert entity (clock 0) address insertion changes)
  delete entity address := execute entity (delete entity address)
  deleteMany entity filter := transact entity (deleteMany entity filter)
  aggregate entity query :=
    read entity query.plan (query.selection.evaluate []) fun rows => do
      query.selection.evaluate (← window entity query.plan rows)
  groupBy entity query := inspect entity fun rows => do
    query.group (← matching entity query.filter rows)

end DatabaseStore

end RecordStore
