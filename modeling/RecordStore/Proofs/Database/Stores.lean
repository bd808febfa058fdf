import RecordStore.Proofs.Request.Execution
import RecordStore.Store.Database

/-! # What the calls of the store in a database do

A command writes at most the table of its entity.  `Command.write` is what it leaves there: a call of
one statement leaves what the statement did, and a call of several nothing unless all of them have
succeeded.  `rows_run` says that a run does nothing else to the tables.

`DatabaseStore.Reachable` are the stores that commands can lead to from empty tables.
-/

namespace RecordStore

namespace DatabaseStore

/-- The table behind statements that take effect together. -/
def committed {α : Type} (f : StoredTable → Except StoreError (α × StoredTable))
    (rows : StoredTable) : StoredTable :=
  match f rows with
  | .ok (_, written) => written
  | .error _ => rows

end DatabaseStore

/-- The table of its entity behind a command. -/
def Command.write (entity : Entity) (clock : Clock) : Command → StoredTable → StoredTable
  | .create insertion, rows => (DatabaseStore.insertAndLoad entity (clock 0) insertion rows).2
  | .createMany insertions skipDuplicates, rows =>
    DatabaseStore.committed (DatabaseStore.insertMany entity clock skipDuplicates 0 insertions) rows
  | .update address changes, rows =>
    DatabaseStore.committed (DatabaseStore.update entity address changes) rows
  | .updateMany filter changes, rows =>
    DatabaseStore.committed (DatabaseStore.updateMany entity filter changes) rows
  | .upsert address insertion changes, rows =>
    DatabaseStore.committed (DatabaseStore.upsert entity (clock 0) address insertion changes) rows
  | .delete address, rows => (DatabaseStore.delete entity address rows).2
  | .deleteMany filter, rows =>
    DatabaseStore.committed (DatabaseStore.deleteMany entity filter) rows
  | _, rows => rows

namespace DatabaseStore

/-! ## Calls -/

theorem rows_execute {α : Type} (entity : Entity)
    (f : StoredTable → Except StoreError α × StoredTable) (store : DatabaseStore) (name : String) :
    (execute entity f store).2.rows name =
      if store.isOpen = true ∧ name = entity.name then (f (store.rows name)).2
      else store.rows name := by
  by_cases isOpen : store.isOpen = true
  · have written : (execute entity f store).2.rows name =
        if name = entity.name then (f (store.rows entity.name)).2 else store.rows name := by
      simp only [execute, isOpen, if_true, rows, FieldMap.get?_insert]
      split <;> rfl
    rw [written]
    by_cases same : name = entity.name
    · simp [isOpen, same]
    · simp [same]
  · rw [if_neg fun both => isOpen both.1]
    simp only [execute, isOpen]
    rfl

theorem rows_transact {α : Type} (entity : Entity)
    (f : StoredTable → Except StoreError (α × StoredTable)) (store : DatabaseStore)
    (name : String) :
    (transact entity f store).2.rows name =
      if store.isOpen = true ∧ name = entity.name then committed f (store.rows name)
      else store.rows name := by
  rw [transact, rows_execute]
  congr 1
  unfold committed
  cases f (store.rows name) <;> rfl

theorem store_inspect {α : Type} (entity : Entity) (f : StoredTable → Except StoreError α)
    (store : DatabaseStore) : (inspect entity f store).2 = store := by
  unfold inspect
  split <;> rfl

theorem store_read {α : Type} (entity : Entity) (plan : Plan) (nothing : Except StoreError α)
    (f : StoredTable → Except StoreError α) (store : DatabaseStore) :
    (read entity plan nothing f store).2 = store := by
  unfold read
  split
  · rfl
  · exact store_inspect entity f store

/-- A run writes the table of its entity, if the database is open, and no other table. -/
theorem rows_run (entity : Entity) (clock : Clock) (command : Command) (store : DatabaseStore)
    (name : String) :
    (command.run interface entity clock store).2.rows name =
      if store.isOpen = true ∧ name = entity.name then
        command.write entity clock (store.rows name)
      else store.rows name := by
  cases command <;> simp only [Command.run, Command.write] <;> rw [Call.outcome_store]
  case create => exact rows_execute entity _ store name
  case delete => exact rows_execute entity _ store name
  case createMany | update | updateMany | upsert | deleteMany =>
    exact rows_transact entity _ store name
  -- Reads write nothing.
  case findUnique | groupBy =>
    rw [ite_self]
    exact congrArg (fun store => rows store name) (store_inspect entity _ store)
  case find | count | aggregate =>
    rw [ite_self]
    exact congrArg (fun store => rows store name) (store_read entity _ _ _ store)

/-! ## Reachable stores -/

/-- The stores that checked commands on the entities of a registry lead to. -/
inductive Reachable (registry : Registry) : DatabaseStore → Prop where
  | empty : Reachable registry .empty
  | run {store : DatabaseStore} {name : String} {entity : Entity} {operation : Operation}
      {limits : Limits} {command : Command} (before : Reachable registry store)
      (described : registry.describe name = .ok entity)
      (checked : operation.check entity limits = .ok command) (clock : Clock) :
      Reachable registry (command.run interface entity clock store).2
  | close {store : DatabaseStore} (before : Reachable registry store) :
      Reachable registry store.close

theorem Reachable.execute {registry : Registry} {store : DatabaseStore}
    (before : Reachable registry store) (limits : Limits) (clock : Clock)
    (cancellation : Cancellation) (request : Request) :
    Reachable registry
      (request.execute interface registry limits clock cancellation store).store :=
  Request.execute_store before fun _ _ _ described _ checked => before.run described checked clock

end DatabaseStore

end RecordStore
