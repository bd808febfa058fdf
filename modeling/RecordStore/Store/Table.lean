import RecordStore.Store.Interface

/-!
# Tables

A `Table` is the list of the rows of one entity, in the order in which they were stored.  No two rows
agree on a unique key whose values are all present; every operation that stores or changes a row
checks that, and fails where it does not hold.

An operation edits the table it is given: what it leaves is the table from then on, also where it
fails.  An operation on one row writes once, when every check has passed.  An operation on several
rows may fail behind rows that it has written, and is `staged` on a copy for that reason.

The next number of a numbered field is one more than the greatest in the table, or one in a table
without numbers.
-/

namespace RecordStore

/-- The rows of one entity. -/
abbrev Table := List Record

namespace Table

/-! ## Unique keys -/

/-- The first unique key of a row on which it agrees with one of other rows. -/
def collision? (entity : Entity) (others : Table) (row : Record) : Option (List String) :=
  entity.uniqueKeys.find? fun key =>
    match Address.ofRecord? row key with
    | none => false
    | some address => others.any address.isOf

/-- Refuses a row that agrees with one of other rows on a unique key. -/
def checkUnique (entity : Entity) (others : Table) (row : Record) : Except StoreError Unit :=
  match collision? entity others row with
  | none => .ok ()
  | some key => .error (.uniqueViolation key)

/-! ## Numbered fields -/

/-- The greatest integer of a list, if it has one. -/
def greatest? : List Int → Option Int
  | [] => none
  | n :: rest =>
    match greatest? rest with
    | none => some n
    | some m => some (max n m)

/-- The integers in a column. -/
def column (rows : Table) (field : String) : List Int :=
  rows.filterMap fun row => (row.valueAt field).integer?

/-- The next number of a field, as a value of its kind. -/
def nextNumber (entity : Entity) (rows : Table) (field : String) : Except StoreError Value :=
  let next := (greatest? (column rows field)).getD 0 + 1
  let value? :=
    match (entity.field? field).map (·.kind) with
    | some .int => (int32? next).map .int
    | _ => (int64? next).map .bigInt
  match value? with
  | some value => .ok value
  | none => .error (.query (.sequenceExhausted field))

def assignNumbers (entity : Entity) (rows : Table) :
    List String → Record → Except StoreError Record
  | [], row => .ok row
  | field :: rest, row =>
    match nextNumber entity rows field with
    | .error error => .error error
    | .ok value => assignNumbers entity rows rest (row.insert field value)

/-! ## Storing -/

/-- The row of an insertion, with its times and its numbers. -/
def newRow (entity : Entity) (now : Readings) (insertion : Insertion) (rows : Table) :
    Except StoreError Record :=
  assignNumbers entity rows (insertion.pendingNumbers entity) (insertion.withDefaults entity now)

/-- Stores a new row behind the others. -/
def insert (entity : Entity) (now : Readings) (insertion : Insertion) : Call Table Record :=
  fun rows =>
    match newRow entity now insertion rows with
    | .error error => (.error error, rows)
    | .ok row =>
      match checkUnique entity rows row with
      | .error error => (.error error, rows)
      | .ok () => (.ok row, rows ++ [row])

/-- Stores new rows one after the other, and counts them.  Behind a failure the rows before it are in
the table. -/
def insertMany (entity : Entity) (clock : Clock) (skipDuplicates : Bool) :
    Nat → List Insertion → Call Table Nat
  | _, [], rows => (.ok 0, rows)
  -- A row has readings of its own, whether or not it is stored.
  | n, insertion :: rest, rows =>
    match insert entity (clock n) insertion rows with
    | (.ok _, rows) =>
      match insertMany entity clock skipDuplicates (n + 1) rest rows with
      | (.ok count, rows) => (.ok (count + 1), rows)
      | (.error error, rows) => (.error error, rows)
    | (.error (.uniqueViolation key), rows) =>
      if skipDuplicates then insertMany entity clock skipDuplicates (n + 1) rest rows
      else (.error (.uniqueViolation key), rows)
    | (.error error, rows) => (.error error, rows)

/-- Edits a copy of the table, which takes the place of the table if nothing has failed. -/
def staged {α : Type} (edit : Call Table α) : Call Table α := fun rows =>
  match edit rows with
  | (.ok result, copy) => (.ok result, copy)
  | (.error error, _) => (.error error, rows)

/-! ## Changing -/

/-- Parts a table at the first row that a test accepts. -/
def splitAtFirst (test : Record → Bool) : Table → Option (Table × Record × Table)
  | [] => none
  | row :: rest =>
    if test row then some ([], row, rest)
    else (splitAtFirst test rest).map fun (front, found, back) => (row :: front, found, back)

def changeAt (entity : Entity) (changes : Changes) (front : Table) (row : Record) (back : Table) :
    Except StoreError Record × Table :=
  match changes.apply row with
  | .error error => (.error error, front ++ row :: back)
  | .ok changed =>
    match checkUnique entity (front ++ back) changed with
    | .error error => (.error error, front ++ row :: back)
    | .ok () => (.ok changed, front ++ changed :: back)

def update (entity : Entity) (address : Address) (changes : Changes) : Call Table Record :=
  fun rows =>
    match splitAtFirst address.isOf rows with
    | none => (.error (.notFound entity.name), rows)
    | some (front, row, back) => changeAt entity changes front row back

/-- Changes the rows of a table that pass a test, from the first to the last, and counts them; `done`
holds the rows in front.  Behind a failure the rows in front stay changed. -/
def updateFrom (entity : Entity) (changes : Changes) (test : Record → Bool) (done : Table) :
    Call Table Nat
  | [] => (.ok 0, done)
  | row :: rest =>
    -- A row is checked against those in front as they are now, and those behind as they were.
    if test row then
      match changeAt entity changes done row rest with
      | (.error error, rows) => (.error error, rows)
      | (.ok changed, _) =>
        match updateFrom entity changes test (done ++ [changed]) rest with
        | (.ok count, rows) => (.ok (count + 1), rows)
        | (.error error, rows) => (.error error, rows)
    else updateFrom entity changes test (done ++ [row]) rest

/-- Changes every row that passes a filter. -/
def updateMany (entity : Entity) (filter : Filter) (changes : Changes) : Call Table Nat :=
  updateFrom entity changes filter.selects []

/-- Changes the row of an address, or stores a new row. -/
def upsert (entity : Entity) (now : Readings) (address : Address) (insertion : Insertion)
    (changes : Changes) : Call Table Record :=
  fun rows =>
    match splitAtFirst address.isOf rows with
    | none => insert entity now insertion rows
    | some (front, row, back) => changeAt entity changes front row back

/-! ## Removing -/

def delete (entity : Entity) (address : Address) : Call Table Record := fun rows =>
  match splitAtFirst address.isOf rows with
  | none => (.error (.notFound entity.name), rows)
  | some (front, row, back) => (.ok row, front ++ back)

/-- Removes every row that passes a filter, and counts them. -/
def deleteMany (filter : Filter) : Call Table Nat := fun rows =>
  let kept := rows.filter fun row => !filter.selects row
  (.ok (rows.length - kept.length), kept)

end Table

end RecordStore
