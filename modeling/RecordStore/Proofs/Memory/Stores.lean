import RecordStore.Proofs.Memory.Tables
import RecordStore.Proofs.Request.Execution
import RecordStore.Schema.Catalog
import RecordStore.Store.Memory

/-! # What the calls of the store in memory do

A command makes one call, and a call edits at most the table of the command's entity.
`Command.edit` is that edit: `rows_run` says that a run does nothing else to the rows of the store, and
`edit_induction` that an edit is made of insertions, changes of single rows, and removals.
`result_find`, `result_count` and `result_aggregate` say what is read by a plan.

`MemoryStore.Reachable` are the stores that commands can lead to from the empty one.  The commands
are those that the checks of an operation let through, and each of them may succeed or fail.
`Reachable.execute` says that carrying out requests leads to no other stores.
-/

namespace RecordStore

/-- The edit that a command makes of the table of its entity. -/
def Command.edit (entity : Entity) (clock : Clock) : Command → Table → Table
  | .create insertion, rows => (Table.insert entity (clock 0) insertion rows).2
  | .createMany insertions skipDuplicates, rows =>
    (Table.staged (Table.insertMany entity clock skipDuplicates 0 insertions) rows).2
  | .update address changes, rows => (Table.update entity address changes rows).2
  | .updateMany filter changes, rows =>
    (Table.staged (Table.updateMany entity filter changes) rows).2
  | .upsert address insertion changes, rows =>
    (Table.upsert entity (clock 0) address insertion changes rows).2
  | .delete address, rows => (Table.delete entity address rows).2
  | .deleteMany filter, rows => (Table.deleteMany filter rows).2
  | _, rows => rows

open Table in
/-- What every insertion, every change of a row and every removal keeps, an edit keeps. -/
theorem Command.edit_induction {entity : Entity} {clock : Clock} {command : Command}
    (motive : Table → Prop)
    (insert : ∀ insertion ∈ command.insertions, ∀ now rows, motive rows →
      motive (Table.insert entity now insertion rows).2)
    (change : ∀ changes ∈ command.changes, ∀ front row back, motive (front ++ row :: back) →
      motive (changeAt entity changes front row back).2)
    (remove : ∀ rows kept : Table, kept.Sublist rows → motive rows → motive kept) {rows : Table}
    (start : motive rows) : motive (command.edit entity clock rows) := by
  -- A batch that breaks off is dropped, and one that ends is a series of steps.
  have staged : ∀ edit : Call Table Nat, motive (edit rows).2 → motive (staged edit rows).2 := by
    intro edit edited
    unfold Table.staged
    split <;> next run => first | exact start | rwa [run] at edited
  have changeFirst : ∀ changes ∈ command.changes, ∀ address front row back,
      splitAtFirst (Address.isOf address) rows = some (front, row, back) →
      motive (changeAt entity changes front row back).2 := by
    intro changes member address front row back parted
    obtain ⟨rfl, -, -⟩ := splitAtFirst_eq_some parted
    exact change changes member front row back start
  cases command with
  | findUnique | find | count | aggregate | groupBy => exact start
  | create insertion => exact insert insertion List.mem_cons_self (clock 0) rows start
  | createMany insertions skipDuplicates =>
    exact staged _ (insertMany_induction motive
      (fun now insertion member rows => insert insertion member now rows) start)
  | updateMany filter changes =>
    exact staged _ (updateFrom_induction motive (change changes List.mem_cons_self) start)
  | update address changes =>
    simp only [edit, Table.update]
    split
    · exact start
    · next parted => exact changeFirst changes List.mem_cons_self address _ _ _ parted
  | upsert address insertion changes =>
    simp only [edit, Table.upsert]
    split
    · exact insert insertion List.mem_cons_self (clock 0) rows start
    · next parted => exact changeFirst changes List.mem_cons_self address _ _ _ parted
  | delete address =>
    simp only [edit, Table.delete]
    split
    · exact start
    · next parted =>
      obtain ⟨rfl, -, -⟩ := splitAtFirst_eq_some parted
      exact remove _ _ (by simp) start
  | deleteMany filter => exact remove _ _ List.filter_sublist start

namespace MemoryStore

theorem rows_insert (store : MemoryStore) (entity : String) (rows : Table) (available : Bool)
    (calls : Nat) (name : String) :
    (MemoryStore.mk (store.tables.insert entity rows) available calls).rows name =
      if name = entity then rows else store.rows name := by
  unfold MemoryStore.rows
  rw [FieldMap.get?_insert]
  split <;> rfl

theorem change_eq {α : Type} (entity : Entity) (edit : Call Table α) (store : MemoryStore) :
    change entity edit store =
      if store.available = true then
        ((edit (store.rows entity.name)).1,
          ⟨store.tables.insert entity.name (edit (store.rows entity.name)).2, store.available,
            store.calls + 1⟩)
      else
        (.error (.unavailable unavailableReason),
          ⟨store.tables, store.available, store.calls + 1⟩) := rfl

theorem rows_change {α : Type} (entity : Entity) (edit : Call Table α) (store : MemoryStore)
    (name : String) :
    (change entity edit store).2.rows name =
      if store.available = true ∧ name = entity.name then (edit (store.rows name)).2
      else store.rows name := by
  by_cases available : store.available = true
  · by_cases same : name = entity.name
    · simp only [change, available, if_true, and_self, same, rows_insert]
      rfl
    · simp only [change, available, if_true, same, and_false, if_false, rows_insert]
  · rw [if_neg fun both => available both.1]
    simp only [change, available]
    rfl

/-- A change of one table leaves the others as they are. -/
theorem rows_change_of_ne {α : Type} {entity : Entity} (edit : Call Table α) (store : MemoryStore)
    {name : String} (other : name ≠ entity.name) :
    (change entity edit store).2.rows name = store.rows name := by
  rw [rows_change, if_neg fun both => other both.2]

theorem available_change {α : Type} (entity : Entity) (edit : Call Table α) (store : MemoryStore) :
    (change entity edit store).2.available = store.available := by
  rw [change_eq]
  split <;> rfl

theorem result_change {α : Type} (entity : Entity) (edit : Call Table α) (store : MemoryStore) :
    (change entity edit store).1
      = if store.available = true then (edit (store.rows entity.name)).1
        else .error (.unavailable unavailableReason) := by
  rw [change_eq]
  split <;> rfl

theorem change_of_available {α : Type} (entity : Entity) (edit : Call Table α) {store : MemoryStore}
    (available : store.available = true) :
    (change entity edit store).1 = (edit (store.rows entity.name)).1 ∧
    (change entity edit store).2.rows entity.name = (edit (store.rows entity.name)).2 := by
  rw [result_change, rows_change, if_pos available, if_pos ⟨available, rfl⟩]
  exact ⟨rfl, rfl⟩

theorem change_of_off {α : Type} (entity : Entity) (edit : Call Table α) {store : MemoryStore}
    (off : ¬ store.available = true) :
    change entity edit store
      = (.error (.unavailable unavailableReason),
          ⟨store.tables, store.available, store.calls + 1⟩) := by
  rw [change_eq, if_neg off]

theorem available_of_change_eq_ok {α : Type} {entity : Entity} {edit : Call Table α}
    {store : MemoryStore} {result : α} (succeeded : (change entity edit store).1 = .ok result) :
    store.available = true := by
  by_contra off
  rw [change_of_off entity edit off] at succeeded
  contradiction

/-- A change depends on what its edit does to the one table. -/
theorem change_congr {α : Type} {entity : Entity} {edit other : Call Table α} {store : MemoryStore}
    (same : edit (store.rows entity.name) = other (store.rows entity.name)) :
    change entity edit store = change entity other store := by
  rw [change_eq, change_eq, same]

/-- An edit that leaves a table with rows as it is leaves the store as it is. -/
theorem change_of_unchanged {α : Type} {entity : Entity} {edit : Call Table α} {store : MemoryStore}
    (available : store.available = true) {result : α}
    (unchanged : edit (store.rows entity.name) = (.ok result, store.rows entity.name))
    (nonempty : store.rows entity.name ≠ []) :
    change entity edit store = (.ok result, { store with calls := store.calls + 1 }) := by
  have stored : store.tables.get? entity.name = some (store.rows entity.name) := by
    unfold rows at nonempty ⊢
    cases found : store.tables.get? entity.name with
    | none =>
      rw [found] at nonempty
      contradiction
    | some table => rfl
  have same : store.tables.insert entity.name (store.rows entity.name) = store.tables := by
    apply FieldMap.ext
    intro name
    rw [FieldMap.get?_insert]
    split
    · next named => rw [named, stored]
    · rfl
  rw [change_eq, if_pos available, unchanged, same]

theorem tables_inspect {α : Type} (entity : Entity) (f : Table → Except StoreError α)
    (store : MemoryStore) : (inspect entity f store).2.tables = store.tables := by
  unfold inspect
  simp only
  split <;> rfl

theorem rows_inspect {α : Type} (entity : Entity) (f : Table → Except StoreError α)
    (store : MemoryStore) (name : String) :
    (inspect entity f store).2.rows name = store.rows name := by
  rw [rows, rows, tables_inspect]

theorem result_inspect {α : Type} (entity : Entity) (f : Table → Except StoreError α)
    (store : MemoryStore) :
    (inspect entity f store).1
      = if store.available = true then f (store.rows entity.name)
        else .error (.unavailable unavailableReason) := by
  unfold inspect
  simp only
  split <;> rfl

section Reads

variable (entity : Entity) (plan : Plan) (clock : Clock) {store : MemoryStore}
  (available : store.available = true)

include available

theorem result_find : ((Command.find plan false).run interface entity clock store).1
    = .ok (.records ((plan.run (store.rows entity.name)).map entity.complete)) := by
  simp only [Command.run, Call.outcome_result, interface, result_inspect, available, if_true]
  rfl

theorem result_count : ((Command.count plan).run interface entity clock store).1
    = .ok (.count (plan.run (store.rows entity.name)).length) := by
  simp only [Command.run, Call.outcome_result, interface, result_inspect, available, if_true]
  rfl

theorem result_aggregate (selection : Selection) :
    ((Command.aggregate ⟨plan, selection⟩).run interface entity clock store).1
      = (selection.evaluate (plan.run (store.rows entity.name))).map .aggregate := by
  simp only [Command.run, Call.outcome_result, interface, result_inspect, available, if_true,
    AggregateQuery.run]
  cases selection.evaluate (plan.run (store.rows entity.name)) <;> rfl

end Reads

/-- A run edits the table of its entity, if the store is there, and no other table. -/
theorem rows_run (entity : Entity) (clock : Clock) (command : Command) (store : MemoryStore)
    (name : String) :
    (command.run interface entity clock store).2.rows name =
      if store.available = true ∧ name = entity.name then
        command.edit entity clock (store.rows name)
      else store.rows name := by
  cases command with
  -- Reads have no edit; every other command makes one change and then shows its result.
  | findUnique | find | count | aggregate | groupBy =>
    simp only [Command.run, Command.edit, ite_self]
    rw [Call.outcome_store]
    exact rows_inspect entity _ store name
  | create | createMany | update | updateMany | upsert | delete | deleteMany =>
    simp only [Command.run, Command.edit]
    rw [Call.outcome_store]
    exact rows_change entity _ store name

/-! ## Reachable stores -/

/-- The stores that checked commands on the entities of a registry lead to. -/
inductive Reachable (registry : Registry) : MemoryStore → Prop where
  | empty : Reachable registry .empty
  | run {store : MemoryStore} {name : String} {entity : Entity} {operation : Operation}
      {limits : Limits} {command : Command} (before : Reachable registry store)
      (described : registry.describe name = .ok entity)
      (checked : operation.check entity limits = .ok command) (clock : Clock) :
      Reachable registry (command.run interface entity clock store).2
  | setAvailable {store : MemoryStore} (before : Reachable registry store) (available : Bool) :
      Reachable registry (store.setAvailable available)

theorem Reachable.execute {registry : Registry} {store : MemoryStore}
    (before : Reachable registry store) (limits : Limits) (clock : Clock)
    (cancellation : Cancellation) (request : Request) :
    Reachable registry
      (request.execute interface registry limits clock cancellation store).store :=
  Request.execute_store before fun _ _ _ described _ checked => before.run described checked clock

/-! ## A table of the catalogue -/

/-- The manufacturers of the catalogue: numbered, and with a unique name. -/
def manufacturers : Entity :=
  ⟨"Manufacturers",
    [(Field.ofKind .int "Id").numbered, (Field.ofKind .string "Name").asKey], ["Id"]⟩

theorem tableManufacturers_eq : Catalog.tableManufacturers = .ok manufacturers := by decide

theorem manufacturers_declared : ∀ entity ∈ [manufacturers],
    ∃ name fields identity, Entity.declare name fields identity = .ok entity :=
  List.forall_mem_singleton.2 ⟨_, _, _, tableManufacturers_eq⟩

def manufacturerRegistry : Registry := ⟨FieldMap.empty.insert "Manufacturers" manufacturers⟩

theorem manufacturers_registered :
    Registry.ofEntities [manufacturers] = .ok manufacturerRegistry := rfl

/-- Requests for two manufacturers, and for a third one with a name that is taken. -/
def manufacturerRequests : List Request :=
  let named (name : String) : Json := .obj [("Name", .str name)]
  [⟨"Manufacturers", "createMany", .obj [("data", .arr [named "Axis", named "Hikvision"])]⟩,
   ⟨"Manufacturers", "create", .obj [("data", named "Axis")]⟩]

/-- The store behind those requests. -/
def manufacturerStore : MemoryStore :=
  manufacturerRequests.foldl
    (fun store request =>
      (request.execute interface manufacturerRegistry default (fun _ => default) .never store).store)
    .empty

theorem reachable_manufacturerStore : Reachable manufacturerRegistry manufacturerStore := by
  refine List.foldlRecOn (motive := Reachable manufacturerRegistry) _ _ .empty ?_
  intro store before request _
  exact before.execute _ _ _ request

end MemoryStore

end RecordStore
