import RecordStore.Proofs.Memory.Stores

/-! # Calls that fail change nothing

An edit is `Atomic` if it leaves the table as it is where it fails.  Edits of one row are, because they
write behind their last check.  Batches are not: they write row by row, and what was written before
the row that fails is in the table.  They are made atomic by being `staged`.
-/

namespace RecordStore

namespace Table

/-- Whether an edit leaves the table as it is where it fails. -/
def Atomic {α : Type} (edit : Call Table α) : Prop :=
  ∀ rows error, (edit rows).1 = .error error → (edit rows).2 = rows

theorem staged_atomic {α : Type} (edit : Call Table α) : Atomic (staged edit) := by
  intro rows error failed
  unfold staged at failed ⊢
  split at failed
  · contradiction
  · rfl

theorem staged_result {α : Type} (edit : Call Table α) (rows : Table) :
    (staged edit rows).1 = (edit rows).1 := by
  unfold staged
  split <;> next run => rw [run]

variable (entity : Entity)

theorem insert_atomic (now : Readings) (insertion : Insertion) :
    Atomic (insert entity now insertion) := by
  intro rows error failed
  rcases insert_cases entity now insertion rows with ⟨row, -, -, run⟩ | ⟨_, -, run⟩
  · rw [run] at failed
    contradiction
  · rw [run]

theorem changeAt_of_error {changes : Changes} {front : Table} {row : Record} {back : Table}
    {error : StoreError} (failed : (changeAt entity changes front row back).1 = .error error) :
    (changeAt entity changes front row back).2 = front ++ row :: back := by
  rcases changeAt_cases entity changes front row back with ⟨changed, -, -, run⟩ | ⟨_, -, run⟩
  · rw [run] at failed
    contradiction
  · rw [run]

theorem update_atomic (address : Address) (changes : Changes) :
    Atomic (update entity address changes) := by
  intro rows error failed
  unfold update at failed ⊢
  split
  · rfl
  · next parted =>
    obtain ⟨rfl, -, -⟩ := splitAtFirst_eq_some parted
    rw [parted] at failed
    exact changeAt_of_error entity failed

theorem upsert_atomic (now : Readings) (address : Address) (insertion : Insertion)
    (changes : Changes) : Atomic (upsert entity now address insertion changes) := by
  intro rows error failed
  unfold upsert at failed ⊢
  split
  · next absent =>
    rw [absent] at failed
    exact insert_atomic entity now insertion rows error failed
  · next parted =>
    obtain ⟨rfl, -, -⟩ := splitAtFirst_eq_some parted
    rw [parted] at failed
    exact changeAt_of_error entity failed

theorem delete_atomic (address : Address) : Atomic (delete entity address) := by
  intro rows error failed
  unfold delete at failed ⊢
  split at failed
  · rfl
  · contradiction

theorem deleteMany_atomic (filter : Filter) : Atomic (deleteMany filter) := by
  intro rows error failed
  contradiction

end Table

namespace MemoryStore

theorem rows_change_of_error {α : Type} {entity : Entity} {edit : Call Table α}
    (atomic : Table.Atomic edit) {store : MemoryStore} {error : StoreError}
    (failed : (change entity edit store).1 = .error error) (name : String) :
    (change entity edit store).2.rows name = store.rows name := by
  rw [rows_change]
  split
  · next edited =>
    obtain ⟨available, rfl⟩ := edited
    refine atomic _ error ?_
    simp only [change, available, if_true] at failed
    exact failed
  · rfl

theorem rows_outcome_of_error {α : Type} {entity : Entity} {edit : Call Table α}
    (atomic : Table.Atomic edit) {toOutcome : α → Except StoreError Outcome}
    (shown : ∀ result, ∃ outcome, toOutcome result = .ok outcome) {store : MemoryStore}
    {error : StoreError} (failed : ((change entity edit).outcome toOutcome store).1 = .error error)
    (name : String) :
    ((change entity edit).outcome toOutcome store).2.rows name = store.rows name := by
  rw [Call.outcome_store]
  unfold Call.outcome at failed
  split at failed
  · next result _ _ =>
    -- An edit that has succeeded has a result that can be shown, so the failure is not this one.
    obtain ⟨outcome, equal⟩ := shown result
    rw [equal] at failed
    contradiction
  · next run => exact rows_change_of_error atomic (congrArg Prod.fst run) name

/-- A command that fails leaves every table as it was, whatever it had begun to write. -/
theorem rows_run_of_error {entity : Entity} {clock : Clock} {command : Command}
    {store : MemoryStore} {error : StoreError}
    (failed : (command.run interface entity clock store).1 = .error error) (name : String) :
    (command.run interface entity clock store).2.rows name = store.rows name := by
  have shown : ∀ record, ∃ outcome, Command.run.shownRecord entity record = .ok outcome :=
    fun record => ⟨_, rfl⟩
  have counted : ∀ n : Nat, ∃ outcome, (.ok (.batch n) : Except StoreError Outcome) = .ok outcome :=
    fun n => ⟨_, rfl⟩
  -- Single rows write behind their last check, and batches are staged.
  cases command with
  | findUnique | find | count | aggregate | groupBy =>
    rw [rows_run]
    exact ite_self _
  | create insertion =>
    exact rows_outcome_of_error (Table.insert_atomic entity _ insertion) shown failed name
  | createMany insertions skipDuplicates =>
    exact rows_outcome_of_error (Table.staged_atomic _) counted failed name
  | update address changes =>
    exact rows_outcome_of_error (Table.update_atomic entity address changes) shown failed name
  | updateMany filter changes =>
    exact rows_outcome_of_error (Table.staged_atomic _) counted failed name
  | upsert address insertion changes =>
    exact rows_outcome_of_error (Table.upsert_atomic entity _ address insertion changes) shown
      failed name
  | delete address =>
    exact rows_outcome_of_error (Table.delete_atomic entity address) shown failed name
  | deleteMany filter =>
    exact rows_outcome_of_error (Table.deleteMany_atomic filter) counted failed name

/-- The second of two insertions fails, when the first has been stored in the copy: the name is
taken. -/
theorem manufacturers_batch_refused :
    let insertion (name : String) : Insertion := ⟨FieldMap.empty.insert "Name" (.string name)⟩
    let batch : Command := .createMany [insertion "Bosch", insertion "Axis"] false
    (batch.run interface manufacturers (fun _ => default) manufacturerStore).1
      = .error (.uniqueViolation ["Name"]) ∧
    ∀ name, (batch.run interface manufacturers (fun _ => default) manufacturerStore).2.rows name
      = manufacturerStore.rows name := by
  refine ⟨by decide +kernel, ?_⟩
  exact rows_run_of_error
    (show _ = Except.error (.uniqueViolation ["Name"]) from by decide +kernel)

/-- The same batch on the table itself leaves the first row behind. -/
example :
    let insertion (name : String) : Insertion := ⟨FieldMap.empty.insert "Name" (.string name)⟩
    let rows := manufacturerStore.rows "Manufacturers"
    (Table.insertMany manufacturers (fun _ => default) false 0
      [insertion "Bosch", insertion "Axis"] rows).2.length = rows.length + 1 := by
  decide +kernel

end MemoryStore

end RecordStore
