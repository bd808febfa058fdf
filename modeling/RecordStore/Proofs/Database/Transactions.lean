import RecordStore.Proofs.Database.Writing
import RecordStore.Proofs.Memory.Stores

/-! # What calls that fail have written

A call of several statements has written nothing if it fails.  A call of one statement has: inserting a
row and deleting one both take effect before the row is read for the result.  Such a call can fail
behind its effect, but only at a row that has overflowed.

`run_sound` says what a command leaves, whether it fails or not.  The last number of a table of
manufacturers is the case in which it matters.
-/

namespace RecordStore

namespace DatabaseStore

variable {entity : Entity} {rows : StoredTable}

/-! ## Single calls -/

theorem rows_transact_of_error {α : Type}
    {f : StoredTable → Except StoreError (α × StoredTable)} {store : DatabaseStore}
    {error : StoreError} (failed : (transact entity f store).1 = .error error) (name : String) :
    (transact entity f store).2.rows name = store.rows name := by
  rw [rows_transact]
  split
  · next written =>
    obtain ⟨isOpen, rfl⟩ := written
    simp only [transact, execute, isOpen, if_true] at failed
    unfold committed
    split
    · next run => rw [run] at failed; contradiction
    · rfl
  · rfl

/-- A statement that fails on an open database has failed on the table. -/
theorem rows_execute_of_error {α : Type} {f : StoredTable → Except StoreError α × StoredTable}
    {store : DatabaseStore} {error : StoreError}
    (failed : (execute entity f store).1 = .error error) :
    (∀ name, (execute entity f store).2.rows name = store.rows name) ∨
    (f (store.rows entity.name)).1 = .error error ∧
      (f (store.rows entity.name)).2 ≠ store.rows entity.name ∧
      (execute entity f store).2.rows entity.name = (f (store.rows entity.name)).2 := by
  by_cases isOpen : store.isOpen = true
  · simp only [rows_execute, isOpen, true_and]
    by_cases same : (f (store.rows entity.name)).2 = store.rows entity.name
    · refine .inl fun name => ?_
      split
      · next here => rw [here, same]
      · rfl
    · simp only [execute, isOpen, if_true] at failed
      exact .inr ⟨failed, same, if_pos True.intro⟩
  · refine .inl fun name => ?_
    rw [rows_execute, if_neg fun both => isOpen both.1]

theorem insertAndLoad_of_error {now : Readings} {insertion : Insertion} {error : StoreError}
    (failed : (insertAndLoad entity now insertion rows).1 = .error error) :
    (insertAndLoad entity now insertion rows).2 = rows ∨
      ∃ row ∈ (insertAndLoad entity now insertion rows).2, entity.load row = .error error := by
  unfold insertAndLoad at failed ⊢
  rcases StoredTable.insert_cases entity now insertion rows with
    ⟨written, placed, run⟩ | ⟨_, run⟩
  · rw [run] at failed ⊢
    exact .inr ⟨_, (StoredTable.mem_place placed _).2 (.inl rfl), failed⟩
  · rw [run]
    exact .inl rfl

/-- Deleting at an address takes the rows away that the clause keeps, if there are any. -/
theorem delete_cases (entity : Entity) (address : Address) (rows : StoredTable) :
    delete entity address rows = (.error (.notFound entity.name), rows) ∨
    ∃ row ∈ rows, delete entity address rows
      = (entity.load row,
        rows.filter fun row => !(address.clause []).1.keeps (address.clause []).2 row) := by
  unfold delete StoredTable.deleteWhere
  simp only [List.partition_eq_filter_filter]
  cases kept : rows.filter ((address.clause []).1.keeps (address.clause []).2) with
  | nil =>
    refine .inl ?_
    have all : rows.filter (not ∘ (address.clause []).1.keeps (address.clause []).2) = rows := by
      rw [List.filter_eq_self]
      intro row member
      simpa using List.filter_eq_nil_iff.1 kept row member
    rw [all]
  | cons row rest =>
    have member : row ∈ rows.filter ((address.clause []).1.keeps (address.clause []).2) :=
      kept ▸ List.mem_cons_self
    exact .inr ⟨row, (List.mem_filter.1 member).1, rfl⟩

theorem delete_of_error {address : Address} {error : StoreError}
    (failed : (delete entity address rows).1 = .error error) :
    (delete entity address rows).2 = rows ∨ ∃ row ∈ rows, entity.load row = .error error := by
  rcases delete_cases entity address rows with run | ⟨row, member, run⟩
  · exact .inl (congrArg Prod.snd run)
  · rw [run] at failed
    exact .inr ⟨row, member, failed⟩

theorem outcome_of_error {α : Type} {call : Call DatabaseStore α}
    {toOutcome : α → Except StoreError Outcome}
    (shown : ∀ result, ∃ outcome, toOutcome result = .ok outcome) {store : DatabaseStore}
    {error : StoreError} (failed : (call.outcome toOutcome store).1 = .error error) :
    (call store).1 = .error error := by
  unfold Call.outcome at failed
  split at failed
  · next result _ _ =>
    obtain ⟨outcome, equal⟩ := shown result
    rw [equal] at failed
    contradiction
  · next run =>
    cases failed
    rw [run]

/-! ## Commands -/

/-- How a command that fails can have written: it has inserted or deleted a row, and that row cannot be
read. -/
inductive WrittenUnread (entity : Entity) (before after : StoredTable) : Command → Prop where
  | create (insertion : Insertion) {row : StoredRow} (member : row ∈ after)
      (overflows : entity.Overflows row) : WrittenUnread entity before after (.create insertion)
  | delete (address : Address) {row : StoredRow} (member : row ∈ before)
      (overflows : entity.Overflows row) : WrittenUnread entity before after (.delete address)

theorem rows_of_error (wellFormed : entity.WellFormed) {command : Command} {clock : Clock}
    {store : DatabaseStore}
    (written : StoredTable.Written entity (store.rows entity.name))
    (writtenAfter : StoredTable.Written entity
      ((command.run interface entity clock store).2.rows entity.name)) {error : StoreError}
    (failed : (command.run interface entity clock store).1 = .error error) :
    (∀ name, (command.run interface entity clock store).2.rows name = store.rows name) ∨
    (∃ name reason, error = .query (.column name reason)) ∧
      WrittenUnread entity (store.rows entity.name)
        ((command.run interface entity clock store).2.rows entity.name) command := by
  have shown : ∀ record, ∃ outcome, Command.run.shownRecord entity record = .ok outcome :=
    fun record => ⟨_, rfl⟩
  have counted : ∀ n : Nat, ∃ outcome, (.ok (.batch n) : Except StoreError Outcome) = .ok outcome :=
    fun n => ⟨_, rfl⟩
  cases command with
  | findUnique | find | count | aggregate | groupBy =>
    refine .inl fun name => ?_
    rw [rows_run]
    exact ite_self _
  | createMany | updateMany | deleteMany =>
    refine .inl fun name => ?_
    simp only [Command.run, Call.outcome_store]
    exact rows_transact_of_error (outcome_of_error counted failed) name
  | update | upsert =>
    refine .inl fun name => ?_
    simp only [Command.run, Call.outcome_store]
    exact rows_transact_of_error (outcome_of_error shown failed) name
  | create insertion =>
    have single : (execute entity (insertAndLoad entity (clock 0) insertion) store).1
      = .error error := outcome_of_error shown failed
    simp only [Command.run, Call.outcome_store] at writtenAfter ⊢
    rcases rows_execute_of_error single with
      unchanged | ⟨unread, changed, after⟩
    · exact .inl unchanged
    · rcases insertAndLoad_of_error unread with same | ⟨row, member, unreadable⟩
      · exact absurd same changed
      · have inTable := after ▸ member
        obtain ⟨overflows, named⟩ :=
          (writtenAfter row inTable).overflows_of_error wellFormed unreadable
        exact .inr ⟨named, .create insertion inTable overflows⟩
  | delete address =>
    have single : (execute entity (delete entity address) store).1 = .error error :=
      outcome_of_error shown failed
    simp only [Command.run, Call.outcome_store]
    rcases rows_execute_of_error single with
      unchanged | ⟨unread, changed, -⟩
    · exact .inl unchanged
    · rcases delete_of_error unread with same | ⟨row, member, unreadable⟩
      · exact absurd same changed
      · obtain ⟨overflows, named⟩ := (written row member).overflows_of_error wellFormed unreadable
        exact .inr ⟨named, .delete address member overflows⟩

/-- A command that fails has written nothing, unless it has inserted or deleted a row that cannot be
read.  Whether it fails or not, every row of the table behind it can be read, with values of the kinds
of its fields, unless the row has overflowed. -/
theorem run_sound {entities : List Entity} {registry : Registry}
    (registered : Registry.ofEntities entities = .ok registry)
    (declared : ∀ entity ∈ entities,
      ∃ name fields identity, Entity.declare name fields identity = .ok entity)
    {store : DatabaseStore} (reachable : Reachable registry store) (member : entity ∈ entities)
    {operation : Operation} {limits : Limits} {command : Command}
    (checked : operation.check entity limits = .ok command) (clock : Clock) :
    (∀ error, (command.run interface entity clock store).1 = .error error →
      (∀ name, (command.run interface entity clock store).2.rows name = store.rows name) ∨
      (∃ name reason, error = .query (.column name reason)) ∧
        WrittenUnread entity (store.rows entity.name)
          ((command.run interface entity clock store).2.rows entity.name) command) ∧
    ∀ row ∈ (command.run interface entity clock store).2.rows entity.name,
      (∃ record, entity.load row = .ok record ∧ entity.Fits record) ↔ ¬ entity.Overflows row := by
  have wellFormed : ∀ entity ∈ entities, entity.WellFormed := by
    intro entity member
    obtain ⟨name, fields, identity, accepted⟩ := declared entity member
    exact Entity.declare_wellFormed accepted
  have described : registry.describe entity.name = .ok entity :=
    (Registry.describe_eq_ok_iff registered).2 ⟨member, rfl⟩
  have before := reachable.written registered wellFormed member
  have after := (reachable.run described checked clock).written registered wellFormed member
  refine ⟨fun error failed => ?_, fun row inTable => ?_⟩
  · exact rows_of_error (wellFormed entity member) before after failed
  · exact (after row inTable).readable_iff (wellFormed entity member)

/-! ## The last number -/

open MemoryStore (manufacturers manufacturerRegistry tableManufacturers_eq)

/-- The store behind a request for a manufacturer with the greatest number of its field. -/
def fullStore : DatabaseStore :=
  let data : Json := .obj [("Id", .int 2147483647), ("Name", .str "Axis")]
  let request : Request := ⟨"Manufacturers", "create", .obj [("data", data)]⟩
  (request.execute interface manufacturerRegistry default (fun _ => default) .never .empty).store

theorem reachable_fullStore : Reachable manufacturerRegistry fullStore :=
  Reachable.empty.execute _ _ _ _

/-- A second manufacturer, which is left to be numbered. -/
def secondManufacturer : Insertion := ⟨FieldMap.empty.insert "Name" (.string "Bosch")⟩

/-- The run of a command on the full store. -/
def runFull (command : Command) : Except StoreError Outcome × DatabaseStore :=
  command.run interface manufacturers (fun _ => default) fullStore

/-- Behind the last number a manufacturer is stored, and the call fails. -/
theorem manufacturers_unread :
    (runFull (.create secondManufacturer)).1
      = .error (.query (.column "Id" "2147483648 out of range")) ∧
    WrittenUnread manufacturers (fullStore.rows "Manufacturers")
      ((runFull (.create secondManufacturer)).2.rows "Manufacturers")
      (.create secondManufacturer) := by
  have registered : Registry.ofEntities [manufacturers] = .ok manufacturerRegistry := rfl
  have declared : ∀ entity ∈ [manufacturers],
      ∃ name fields identity, Entity.declare name fields identity = .ok entity := by
    intro entity member
    rw [List.mem_singleton.1 member]
    exact ⟨_, _, _, tableManufacturers_eq⟩
  have checked : (Operation.mk .create
      (FieldMap.empty.insert "data" (.obj [("Name", .str "Bosch")]))).check manufacturers default
      = .ok (.create secondManufacturer) := rfl
  have failed : (runFull (.create secondManufacturer)).1
      = .error (.query (.column "Id" "2147483648 out of range")) := by
    decide +kernel
  refine ⟨failed, ?_⟩
  have sound := run_sound registered declared reachable_fullStore List.mem_cons_self checked
    fun _ => default
  rcases sound.1 _ failed with unchanged | ⟨-, unread⟩
  · have longer : ((runFull (.create secondManufacturer)).2.rows "Manufacturers").length
        = (fullStore.rows "Manufacturers").length :=
      congrArg List.length (unchanged "Manufacturers")
    exact absurd longer (by decide +kernel)
  · exact unread

/-- So a call that fails can change a table, and one that succeeds can store a row that cannot be read:
creating several rows does not read them. -/
theorem manufacturers_overflow :
    Reachable manufacturerRegistry fullStore ∧
    (runFull (.create secondManufacturer)).1
      = .error (.query (.column "Id" "2147483648 out of range")) ∧
    (runFull (.create secondManufacturer)).2.rows "Manufacturers"
      ≠ fullStore.rows "Manufacturers" ∧
    (runFull (.createMany [secondManufacturer] false)).1 = .ok (.batch 1) ∧
    ∃ row ∈ (runFull (.createMany [secondManufacturer] false)).2.rows "Manufacturers",
      manufacturers.load row = .error (.query (.column "Id" "2147483648 out of range")) :=
  ⟨reachable_fullStore, by decide +kernel, by decide +kernel, by decide +kernel, by decide +kernel⟩

end DatabaseStore

end RecordStore
