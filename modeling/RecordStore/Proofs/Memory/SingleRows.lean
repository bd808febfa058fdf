import RecordStore.Proofs.Memory.Effects
import RecordStore.Proofs.Memory.Paging

/-! # Mutations of single rows

On the stores that requests lead to, an address matches at most one row, so that the first row that it
matches is the only one.  A mutation of the row of an address changes it where it stands or takes it
out, and leaves every other row, the order of these rows and every other table alone.

* `parts_or_rejects` says that a table has the row of such a test between the others, or no such row.
* `update_cases`, `delete_cases` say what a mutation does in either case.
-/

namespace RecordStore

/-! ## Tables -/

namespace Table

variable {entity : Entity} {rows : Table} {test : Record → Bool} {address : Address}

/-- Whether a table has one row of a test, and other rows in front of it and behind it. -/
structure PartsAt (test : Record → Bool) (rows front : Table) (row : Record) (back : Table) : Prop where
  whole : rows = front ++ row :: back
  accepted : test row = true
  rejected : ∀ other ∈ front ++ back, test other = false

/-- The row of an address is there, or it is not and the mutation has found nothing. -/
theorem PartsAt.not_rejects {front back : Table} {row : Record}
    (parts : PartsAt test rows front row back) : ¬ ∀ row ∈ rows, test row = false := by
  intro rejects
  have stored : row ∈ rows := by
    rw [parts.whole]
    simp
  have accepted := parts.accepted
  rw [rejects row stored] at accepted
  contradiction

theorem parts_or_rejects (single : (rows.filter test).length ≤ 1) :
    (∃ front row back, splitAtFirst test rows = some (front, row, back) ∧
      PartsAt test rows front row back) ∨
    splitAtFirst test rows = none ∧ ∀ row ∈ rows, test row = false := by
  cases split : splitAtFirst test rows with
  | none =>
    right
    exact ⟨rfl, splitAtFirst_eq_none_iff.1 split⟩
  | some parts =>
    left
    obtain ⟨front, row, back⟩ := parts
    obtain ⟨rfl, accepted, -⟩ := splitAtFirst_eq_some split
    exact ⟨front, row, back, rfl, rfl, accepted, rejected_of_parted single accepted⟩

/-- Changes of a row are refused for what they compute or for a key that is taken. -/
theorem changeAt_ne_notFound {changes : Changes} {front back : Table} {row : Record}
    (name : String) : (changeAt entity changes front row back).1 ≠ .error (.notFound name) := by
  intro failed
  cases changeAt_cases entity changes front row back with
  | inl succeeds =>
    obtain ⟨changed, -, -, run⟩ := succeeds
    rw [run] at failed
    contradiction
  | inr fails =>
    obtain ⟨error, reason, run⟩ := fails
    rw [run] at failed
    cases failed
    cases reason with
    | inl refused =>
      obtain ⟨_, _, _, -, -, equal⟩ := Changes.apply_eq_error refused
      contradiction
    | inr taken =>
      obtain ⟨changed, -, refused⟩ := taken
      obtain ⟨_, -, equal⟩ := checkUnique_eq_error refused
      contradiction

/-- An update changes the row of an address where it stands, or refuses to, or finds none. -/
theorem update_cases (entity : Entity) (single : (rows.filter address.isOf).length ≤ 1)
    (changes : Changes) :
    (∃ front row back, PartsAt address.isOf rows front row back ∧
      update entity address changes rows = changeAt entity changes front row back) ∨
    (∀ row ∈ rows, address.isOf row = false) ∧
      update entity address changes rows = (.error (.notFound entity.name), rows) := by
  cases parts_or_rejects single with
  | inl found =>
    obtain ⟨front, row, back, split, parts⟩ := found
    left
    exact ⟨front, row, back, parts, by rw [update, split]⟩
  | inr absent =>
    obtain ⟨split, rejects⟩ := absent
    right
    exact ⟨rejects, by rw [update, split]⟩

theorem delete_of_rejects (rejects : ∀ row ∈ rows, address.isOf row = false) :
    delete entity address rows = (.error (.notFound entity.name), rows) := by
  unfold delete
  rw [splitAtFirst_eq_none_iff.2 rejects]

/-- A deletion takes the row of an address out, or finds none. -/
theorem delete_cases (entity : Entity) (single : (rows.filter address.isOf).length ≤ 1) :
    (∃ front row back, PartsAt address.isOf rows front row back ∧
      delete entity address rows = (.ok row, front ++ back)) ∨
    (∀ row ∈ rows, address.isOf row = false) ∧
      delete entity address rows = (.error (.notFound entity.name), rows) := by
  cases parts_or_rejects single with
  | inl found =>
    obtain ⟨front, row, back, split, parts⟩ := found
    left
    exact ⟨front, row, back, parts, by rw [delete, split]⟩
  | inr absent =>
    right
    exact ⟨absent.2, delete_of_rejects absent.2⟩

theorem deleteMany_count (filter : Filter) (rows : Table) :
    (deleteMany filter rows).1 = .ok (rows.filter filter.selects).length := by
  have parted : rows.length = _ := List.length_eq_length_filter_add filter.selects
  show Except.ok (rows.length - (rows.filter fun row => !filter.selects row).length) = _
  rw [parted, Nat.add_sub_cancel]

end Table

/-! ## Stores -/

namespace MemoryStore

variable {entities : List Entity} {registry : Registry} {store : MemoryStore} {entity : Entity}
  {address : Address}

/-- Whether one store has other rows in the place of the only row of an address in another store, and is
otherwise the same. -/
def ReplacesAt (entity : Entity) (address : Address) (row : Record) (new : Table)
    (store after : MemoryStore) : Prop :=
  (∃ front back, Table.PartsAt address.isOf (store.rows entity.name) front row back ∧
    after.rows entity.name = front ++ new ++ back) ∧
  ∀ name ≠ entity.name, after.rows name = store.rows name

theorem update_of_single (available : store.available = true)
    (single : ((store.rows entity.name).filter address.isOf).length ≤ 1) (changes : Changes) :
    let answer := interface.update entity address changes store
    (answer.1 = .error (.notFound entity.name) ↔
      ∀ row ∈ store.rows entity.name, address.isOf row = false) ∧
    (∀ error, answer.1 = .error error → ∀ name, answer.2.rows name = store.rows name) ∧
    ∀ changed, answer.1 = .ok changed →
      ∃ row, changes.Makes row changed ∧ ReplacesAt entity address row [changed] store answer.2 := by
  intro answer
  have atomic := Table.update_atomic entity address changes
  obtain ⟨result, after⟩ := change_of_available entity (Table.update entity address changes) available
  change answer.1 = _ at result
  change answer.2.rows entity.name = _ at after
  cases Table.update_cases entity single changes with
  | inl found =>
    obtain ⟨front, row, back, parts, run⟩ := found
    rw [run] at result after
    refine ⟨?_, fun error failed => rows_change_of_error atomic failed, ?_⟩
    · rw [result]
      constructor
      · intro failed
        exact absurd failed (Table.changeAt_ne_notFound _)
      · intro absent
        exact absurd absent parts.not_rejects
    · intro changed succeeded
      rw [result] at succeeded
      obtain ⟨applied, placed⟩ := Table.changeAt_of_ok succeeded
      refine ⟨row, Changes.apply_makes applied, ⟨front, back, parts, ?_⟩, ?_⟩
      · rw [after, placed]
        simp
      · intro name other
        exact rows_change_of_ne _ store other
  | inr absent =>
    obtain ⟨rejects, run⟩ := absent
    rw [run] at result
    rw [result]
    refine ⟨by simpa using rejects, fun error _ => ?_, nofun⟩
    exact rows_change_of_error atomic result

theorem delete_of_single (available : store.available = true)
    (single : ((store.rows entity.name).filter address.isOf).length ≤ 1) :
    let answer := interface.delete entity address store
    (answer.1 = .error (.notFound entity.name) ↔
      ∀ row ∈ store.rows entity.name, address.isOf row = false) ∧
    (∀ error, answer.1 = .error error →
      error = .notFound entity.name ∧ ∀ name, answer.2.rows name = store.rows name) ∧
    ∀ row, answer.1 = .ok row → ReplacesAt entity address row [] store answer.2 ∧
      (interface.delete entity address answer.2).1 = .error (.notFound entity.name) := by
  intro answer
  have atomic := Table.delete_atomic entity address
  obtain ⟨result, after⟩ := change_of_available entity (Table.delete entity address) available
  change answer.1 = _ at result
  change answer.2.rows entity.name = _ at after
  cases Table.delete_cases entity single with
  | inl found =>
    obtain ⟨front, row, back, parts, run⟩ := found
    rw [run] at result after
    rw [result]
    refine ⟨⟨nofun, fun absent => absurd absent parts.not_rejects⟩, nofun, ?_⟩
    intro deleted same
    cases same
    refine ⟨⟨⟨front, back, parts, ?_⟩, fun name other => rows_change_of_ne _ store other⟩, ?_⟩
    · rw [after]
      simp
    · -- What is left are the rows around the one that was deleted, and none of them is the row.
      have stillThere : answer.2.available = true := (available_change _ _ _).trans available
      obtain ⟨again, -⟩ := change_of_available entity (Table.delete entity address) stillThere
      rw [after, Table.delete_of_rejects parts.rejected] at again
      exact again
  | inr absent =>
    obtain ⟨rejects, run⟩ := absent
    rw [run] at result
    refine ⟨?_, ?_, ?_⟩
    · rw [result]
      simpa using rejects
    · intro error failed
      refine ⟨?_, rows_change_of_error atomic failed⟩
      rw [result] at failed
      cases failed
      rfl
    · intro row succeeded
      rw [result] at succeeded
      contradiction

theorem deleteMany_of_available (available : store.available = true) (filter : Filter) :
    let rows := store.rows entity.name
    let answer := interface.deleteMany entity filter store
    answer.1 = .ok (rows.filter filter.selects).length ∧
    answer.2.rows entity.name = (rows.filter fun row => !filter.selects row) ∧
    ∀ name ≠ entity.name, answer.2.rows name = store.rows name := by
  intro rows answer
  obtain ⟨result, after⟩ := change_of_available entity (Table.deleteMany filter) available
  refine ⟨result.trans (Table.deleteMany_count filter rows), after, ?_⟩
  intro name other
  exact rows_change_of_ne _ store other

/-- A mutation at an address touches the one row that the address matches, and no other.

An update or a deletion finds nothing exactly where no row matches.  An update that succeeds leaves a
row in the place of the one that it found, with new values where it names a field, each made of the old
value of that field; a deletion gives the row back and takes it out, so that a second one finds nothing.
`deleteMany` takes out what its filter selects and counts it.  Other rows keep their order, and other
tables stay as they are. -/
theorem single_rows_touched (registered : Registry.ofEntities entities = .ok registry)
    (declared : ∀ entity ∈ entities,
      ∃ name fields identity, Entity.declare name fields identity = .ok entity)
    (reachable : Reachable registry store) (available : store.available = true)
    (member : entity ∈ entities) {raw : Json} (read : Address.read entity raw = .ok address) :
    let rows := store.rows entity.name
    let update (changes : Changes) := interface.update entity address changes store
    let delete := interface.delete entity address store
    let deleteMany (filter : Filter) := interface.deleteMany entity filter store
    (∀ changes,
      ((update changes).1 = .error (.notFound entity.name) ↔
        ∀ row ∈ rows, address.isOf row = false) ∧
      (∀ error, (update changes).1 = .error error →
        ∀ name, (update changes).2.rows name = store.rows name) ∧
      ∀ changed, (update changes).1 = .ok changed →
        ∃ row, changes.Makes row changed ∧
          ReplacesAt entity address row [changed] store (update changes).2) ∧
    ((delete.1 = .error (.notFound entity.name) ↔ ∀ row ∈ rows, address.isOf row = false) ∧
      (∀ error, delete.1 = .error error →
        error = .notFound entity.name ∧ ∀ name, delete.2.rows name = store.rows name) ∧
      ∀ row, delete.1 = .ok row → ReplacesAt entity address row [] store delete.2 ∧
        (interface.delete entity address delete.2).1 = .error (.notFound entity.name)) ∧
    ∀ filter,
      (deleteMany filter).1 = .ok (rows.filter filter.selects).length ∧
      (deleteMany filter).2.rows entity.name = (rows.filter fun row => !filter.selects row) ∧
      ∀ name ≠ entity.name, (deleteMany filter).2.rows name = store.rows name := by
  intro rows update delete deleteMany
  have valid := rows_valid registered (Entity.forall_wellFormed declared) reachable member
  have single := valid.length_filter_isOf_le_one (Address.read_fits read)
  exact ⟨update_of_single available single, delete_of_single available single,
    deleteMany_of_available available⟩

/-- A manufacturer is found by its name and given another one; deleted under its old name, it is not
found a second time. -/
theorem axis_touched :
    let axis : Address := ⟨FieldMap.empty.insert "Name" (.string "Axis")⟩
    let changes : Changes := ⟨FieldMap.empty.insert "Name" (.set (.string "Bosch"))⟩
    (interface.update manufacturers axis changes manufacturerStore).1
      = .ok (manufacturer 1 "Bosch") ∧
    (∃ row, changes.Makes row (manufacturer 1 "Bosch") ∧
      ReplacesAt manufacturers axis row [manufacturer 1 "Bosch"] manufacturerStore
        (interface.update manufacturers axis changes manufacturerStore).2) ∧
    ReplacesAt manufacturers axis (manufacturer 1 "Axis") [] manufacturerStore
      (interface.delete manufacturers axis manufacturerStore).2 ∧
    (interface.delete manufacturers axis
      (interface.delete manufacturers axis manufacturerStore).2).1
        = .error (.notFound "Manufacturers") := by
  intro axis changes
  have read : Address.read manufacturers (.obj [("Name", .str "Axis")]) = .ok axis := rfl
  obtain ⟨updates, ⟨-, -, deletes⟩, -⟩ := single_rows_touched manufacturers_registered
    manufacturers_declared reachable_manufacturerStore (by decide +kernel) List.mem_cons_self read
  obtain ⟨-, -, succeeds⟩ := updates changes
  have renamed : (interface.update manufacturers axis changes manufacturerStore).1
      = .ok (manufacturer 1 "Bosch") := by decide +kernel
  have deleted : (interface.delete manufacturers axis manufacturerStore).1
      = .ok (manufacturer 1 "Axis") := by decide +kernel
  exact ⟨renamed, succeeds _ renamed, deletes _ deleted⟩

end MemoryStore

end RecordStore
