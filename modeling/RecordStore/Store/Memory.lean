import RecordStore.Store.Table

/-!
# The store in memory

A table for every entity, and nothing else.  The store can be switched off, and then fails every
call; it counts the calls that it gets, failing ones included.

A call edits the table of its entity in place.  Nothing is undone: a call that fails leaves the table
as the edit left it, so that batches are edited on a copy (`Table.staged`).
-/

namespace RecordStore

/-- A store that keeps tables in memory. -/
structure MemoryStore where
  tables : FieldMap Table
  available : Bool
  calls : Nat
deriving DecidableEq

namespace MemoryStore

/-- A store without rows. -/
def empty : MemoryStore := ⟨.empty, true, 0⟩

instance : Inhabited MemoryStore := ⟨empty⟩

def rows (store : MemoryStore) (entity : String) : Table := (store.tables.get? entity).getD []

/-- The store, switched on or off. -/
def setAvailable (store : MemoryStore) (available : Bool) : MemoryStore :=
  { store with available := available }

def unavailableReason : String := "memory backend switched off"

/-- A call that edits the table of an entity. -/
def change {α : Type} (entity : Entity) (edit : Call Table α) : Call MemoryStore α := fun store =>
  let store := { store with calls := store.calls + 1 }
  if store.available then
    let (result, rows) := edit (store.rows entity.name)
    (result, { store with tables := store.tables.insert entity.name rows })
  else (.error (.unavailable unavailableReason), store)

/-- A call that reads the table of an entity. -/
def inspect {α : Type} (entity : Entity) (f : Table → Except StoreError α) :
    Call MemoryStore α := fun store =>
  let store := { store with calls := store.calls + 1 }
  if store.available then (f (store.rows entity.name), store)
  else (.error (.unavailable unavailableReason), store)

/-- The calls of the store. -/
def interface : StoreInterface MemoryStore where
  findUnique entity address := inspect entity fun rows => .ok (rows.find? address.isOf)
  findMany entity plan := inspect entity fun rows => .ok (plan.run rows)
  count entity plan := inspect entity fun rows => .ok (plan.run rows).length
  create entity clock insertion := change entity (Table.insert entity (clock 0) insertion)
  createMany entity clock insertions skipDuplicates :=
    change entity (Table.staged (Table.insertMany entity clock skipDuplicates 0 insertions))
  update entity address changes := change entity (Table.update entity address changes)
  updateMany entity filter changes :=
    change entity (Table.staged (Table.updateMany entity filter changes))
  upsert entity clock address insertion changes :=
    change entity (Table.upsert entity (clock 0) address insertion changes)
  delete entity address := change entity (Table.delete entity address)
  deleteMany entity filter := change entity (Table.deleteMany filter)
  aggregate entity query := inspect entity query.run
  groupBy entity query := inspect entity query.run

end MemoryStore

end RecordStore
