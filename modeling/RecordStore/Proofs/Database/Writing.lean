import RecordStore.Proofs.Database.Columns
import RecordStore.Proofs.Database.Stores
import RecordStore.Proofs.Typing.Mutations
import RecordStore.Store.Memory

/-! # What is written can be read, unless it overflows

Every column of a row is written with a cell that `Field.Writes` allows: that of a value which has been
checked, or a number which the statement has counted.  The invariant goes row by row, because a
statement puts at most one new or changed row between rows that it leaves as they are.

* `Entity.Writes.readable_iff` says which of the rows that are written can be read.
* `write_written` carries the invariant through every command, `Reachable.written` through every run.
-/

namespace RecordStore

theorem FieldMap.cellAt_insert (row : FieldMap Cell) (name : String) (cell : Cell)
    (column : String) :
    (row.insert name cell).cellAt column = if column = name then cell else row.cellAt column := by
  unfold cellAt
  rw [get?_insert]
  split <;> rfl

/-! ## Rows -/

namespace Entity

/-- Whether every column of a row has a cell that the store writes. -/
def Writes (entity : Entity) (row : StoredRow) : Prop :=
  ∀ field ∈ entity.fields, field.Writes (row.cellAt field.name)

variable {entity : Entity}

theorem Writes.insert {row : StoredRow} (writes : entity.Writes row) {name : String} {cell : Cell}
    (cellWrites : ∀ field ∈ entity.fields, field.name = name → field.Writes cell) :
    entity.Writes (row.insert name cell) := by
  intro field member
  rw [FieldMap.cellAt_insert]
  split
  · next same => exact cellWrites field member same
  · exact writes field member

theorem writes_store (wellFormed : entity.WellFormed) {record : Record}
    (fits : entity.Fits record) : entity.Writes (entity.store record) := by
  intro field member
  have found := wellFormed.field?_of_mem member
  exact .inl ⟨_, fits field.name field found, cellAt_store record found⟩

/-- Whether a column of a row is beyond what is read for its field. -/
def Overflows (entity : Entity) (row : StoredRow) : Prop :=
  ∃ field ∈ entity.fields, field.Overflows (row.cellAt field.name)

/-- A row that cannot be read has overflowed in a column, which the error names. -/
theorem Writes.overflows_of_error (wellFormed : entity.WellFormed) {row : StoredRow}
    (writes : entity.Writes row) {error : StoreError} (failed : entity.load row = .error error) :
    entity.Overflows row ∧ ∃ name reason, error = .query (.column name reason) := by
  rcases entity.load_cases row with ⟨record, loads, -⟩ | ⟨field, member, fault, unread, fails⟩
  · rw [loads] at failed
    contradiction
  · rw [fails, Except.error.injEq] at failed
    refine ⟨⟨field, member, ?_⟩, _, _, failed.symm⟩
    by_contra fitting
    obtain ⟨value, read⟩ := ((writes field member).readable_iff
      (wellFormed.defaults_fit field member)).2 fitting
    rw [read] at unread
    contradiction

theorem Writes.readable_iff (wellFormed : entity.WellFormed) {row : StoredRow}
    (writes : entity.Writes row) :
    (∃ record, entity.load row = .ok record ∧ entity.Fits record) ↔ ¬ entity.Overflows row := by
  constructor
  · rintro ⟨record, loads, -⟩ ⟨field, member, overflows⟩
    have read := readCell_of_load wellFormed loads (wellFormed.field?_of_mem member)
    exact ((writes field member).readable_iff (wellFormed.defaults_fit field member)).1
      ⟨_, read⟩ overflows
  · intro fitting
    cases loaded : entity.load row with
    | ok record => exact ⟨record, rfl, load_fits wellFormed loaded⟩
    | error error => exact absurd (writes.overflows_of_error wellFormed loaded).1 fitting

theorem cellOf_of_mem (wellFormed : entity.WellFormed) {field : Field}
    (member : field ∈ entity.fields) (cell : Cell) :
    entity.cellOf field.name cell = field.kind.columnType.keep cell := by
  rw [cellOf, wellFormed.field?_of_mem member]

end Entity

/-! ## Statements -/

namespace StoredTable

variable {entity : Entity}

/-- Whether every row of a table is one that the store writes. -/
def Written (entity : Entity) (rows : StoredTable) : Prop := ∀ row ∈ rows, entity.Writes row

theorem mem_placeByNumber {name : String} {row other : StoredRow} {rows : StoredTable} :
    other ∈ placeByNumber name row rows ↔ other = row ∨ other ∈ rows := by
  induction rows with
  | nil => simp [placeByNumber]
  | cons first rest ih =>
    unfold placeByNumber
    split
    · exact List.mem_cons
    · rw [List.mem_cons, ih, List.mem_cons]
      tauto

/-- A table in which a row has been placed has this row and the others. -/
theorem mem_place {front back rows : StoredTable} {row : StoredRow}
    (placed : place entity front row back = .ok rows) (other : StoredRow) :
    other ∈ rows ↔ other = row ∨ other ∈ front ++ back := by
  unfold place at placed
  split at placed
  · split at placed
    · contradiction
    · split at placed <;> cases placed
      · exact mem_placeByNumber
      · simp only [List.mem_append, List.mem_cons]
        tauto
  · contradiction

theorem Written.place {front back rows : StoredTable} {row : StoredRow}
    (written : Written entity (front ++ back)) (writes : entity.Writes row)
    (placed : place entity front row back = .ok rows) : Written entity rows := by
  intro other member
  rcases (mem_place placed other).1 member with rfl | before
  · exact writes
  · exact written other before

/-- The next number is a number, whatever is in the column. -/
theorem exists_readInteger_successor (type : ColumnType) (cell : Cell) :
    ∃ n, (type.keep (successor cell)).readInteger = some n := by
  have real : ∀ x, ∃ n, (Cell.real x).readInteger = some n := by
    intro x
    simp only [Cell.readInteger]
    split <;> exact ⟨_, rfl⟩
  have kept : ∀ cell, (∃ n, cell = .integer n) ∨ (∃ x, cell = .real x) →
      ∃ n, (type.keep cell).readInteger = some n := by
    rintro _ (⟨n, rfl⟩ | ⟨x, rfl⟩)
    · cases type <;> exact ⟨n, rfl⟩
    · cases type <;> exact real _
  apply kept
  cases cell with
  | integer n =>
    simp only [successor]
    split
    · exact .inl ⟨_, rfl⟩
    · exact .inr ⟨_, rfl⟩
  | real => exact .inr ⟨_, rfl⟩
  | null | text => exact .inl ⟨_, rfl⟩

theorem newRow_writes (wellFormed : entity.WellFormed) {insertion : Insertion}
    (fits : entity.Fits insertion.given) (now : Readings) (rows : StoredTable) :
    entity.Writes (newRow entity now insertion rows) := by
  unfold newRow
  have defaults := Entity.fillDefaults_fits wellFormed now fits
  refine List.foldlRecOn (motive := entity.Writes) _ _ (Entity.writes_store wellFormed defaults) ?_
  intro row writes name pending
  refine writes.insert ?_
  rintro field member rfl
  have found := wellFormed.field?_of_mem member
  rw [Entity.cellOf_of_mem wellFormed member]
  exact .inr ⟨Insertion.numbered_of_pending wellFormed pending found,
    exists_readInteger_successor _ _⟩

/-- An insertion puts the new row between the others, or fails. -/
theorem insert_cases (entity : Entity) (now : Readings) (insertion : Insertion)
    (rows : StoredTable) :
    (∃ written, place entity rows (newRow entity now insertion rows) [] = .ok written ∧
      insert entity now insertion rows = .ok (newRow entity now insertion rows, written)) ∨
    (∃ error, insert entity now insertion rows = .error error) := by
  simp only [insert]
  cases place entity rows (newRow entity now insertion rows) [] with
  | error error => exact .inr ⟨error, rfl⟩
  | ok written => exact .inl ⟨written, rfl, rfl⟩

theorem insert_written (wellFormed : entity.WellFormed) {insertion : Insertion}
    (fits : entity.Fits insertion.given) (now : Readings) {rows result : StoredTable}
    {row : StoredRow} (written : Written entity rows)
    (inserted : insert entity now insertion rows = .ok (row, result)) : Written entity result := by
  rcases insert_cases entity now insertion rows with ⟨table, placed, run⟩ | ⟨error, run⟩
  · rw [run] at inserted
    cases inserted
    exact Written.place (by simpa using written) (newRow_writes wellFormed fits now rows) placed
  · rw [run] at inserted
    contradiction

theorem assign_writes (wellFormed : entity.WellFormed) {after : Record} (fits : entity.Fits after)
    (changes : Changes) {row : StoredRow} (writes : entity.Writes row) :
    entity.Writes (assign entity changes after row) := by
  unfold assign
  refine List.foldlRecOn (motive := entity.Writes) _ _ writes ?_
  intro row writes name _
  refine writes.insert ?_
  rintro field member rfl
  have found := wellFormed.field?_of_mem member
  rw [Entity.cellOf_of_mem wellFormed member]
  exact .inl ⟨_, fits field.name field found, rfl⟩

theorem splitAt?_eq_some {test : StoredRow → Bool} {rows front back : StoredTable}
    {row : StoredRow} (split : splitAt? test rows = some (front, row, back)) :
    rows = front ++ row :: back := by
  induction rows generalizing front with
  | nil => contradiction
  | cons first rest ih =>
    unfold splitAt? at split
    split at split
    · cases split
      rfl
    · obtain ⟨⟨restFront, found, restBack⟩, restSplit, equal⟩ := Option.map_eq_some_iff.1 split
      simp only [Prod.mk.injEq] at equal
      obtain ⟨rfl, rfl, rfl⟩ := equal
      rw [ih restSplit]
      rfl

theorem updateWhere_written (wellFormed : entity.WellFormed) {clause : Clause}
    {bound : List Parameter} {changes : Changes} {after : Record} (fits : entity.Fits after)
    {rows result : StoredTable} (written : Written entity rows)
    (updated : updateWhere entity clause bound changes after rows = .ok result) :
    Written entity result := by
  unfold updateWhere at updated
  split at updated
  · cases updated
    exact written
  · next front row back parted =>
    obtain rfl := splitAt?_eq_some parted
    refine Written.place ?_ (assign_writes wellFormed fits changes (written row (by simp))) updated
    exact fun other member => written other (by simp at member ⊢; tauto)

theorem deleteWhere_written {clause : Clause} {bound : List Parameter} {rows : StoredTable}
    (written : Written entity rows) : Written entity (deleteWhere clause bound rows).2 := by
  intro row member
  rw [deleteWhere, List.partition_eq_filter_filter] at member
  exact written row (List.mem_filter.1 member).1

end StoredTable

/-! ## Calls -/

namespace DatabaseStore

open StoredTable (Written)

variable {entity : Entity} {rows result : StoredTable}

theorem insertMany_written (wellFormed : entity.WellFormed) {insertions : List Insertion}
    (fit : ∀ insertion ∈ insertions, entity.Fits insertion.given) {clock : Clock}
    {skipDuplicates : Bool} {n count : Nat} (written : Written entity rows)
    (inserted : insertMany entity clock skipDuplicates n insertions rows = .ok (count, result)) :
    Written entity result := by
  induction insertions generalizing n rows count with
  | nil => cases inserted; exact written
  | cons insertion rest ih =>
    obtain ⟨fits, restFit⟩ := List.forall_mem_cons.1 fit
    unfold insertMany at inserted
    split at inserted
    · next first =>
      have between := StoredTable.insert_written wellFormed fits (clock n) written first
      split at inserted
      · next others =>
        cases inserted
        exact ih restFit between others
      · contradiction
    · split at inserted
      · exact ih restFit written inserted
      · contradiction
    · contradiction

theorem updateRecord_written (wellFormed : entity.WellFormed) {changes : Changes}
    (changesFit : changes.Fits entity) {before after : Record} (fits : entity.Fits before)
    (written : Written entity rows)
    (updated : updateRecord entity changes before rows = .ok (after, result)) :
    Written entity result := by
  unfold updateRecord at updated
  split at updated
  · contradiction
  · next applied =>
    split at updated
    · contradiction
    · simp only at updated
      split at updated
      · contradiction
      · next changed =>
        cases updated
        exact StoredTable.updateWhere_written wellFormed
          (Changes.apply_fits changesFit fits applied) written changed

theorem updateRecords_written (wellFormed : entity.WellFormed) {changes : Changes}
    (changesFit : changes.Fits entity) {records : List Record}
    (fit : ∀ record ∈ records, entity.Fits record) (written : Written entity rows)
    (updated : updateRecords entity changes records rows = .ok result) :
    Written entity result := by
  induction records generalizing rows with
  | nil => cases updated; exact written
  | cons before rest ih =>
    obtain ⟨fits, restFit⟩ := List.forall_mem_cons.1 fit
    unfold updateRecords at updated
    split at updated
    · contradiction
    · next first =>
      exact ih restFit (updateRecord_written wellFormed changesFit fits written first) updated

theorem deleteRecords_written {records : List Record} {count : Nat} (written : Written entity rows)
    (deleted : deleteRecords entity records rows = .ok (count, result)) :
    Written entity result := by
  induction records generalizing rows count with
  | nil => cases deleted; exact written
  | cons record rest ih =>
    unfold deleteRecords at deleted
    split at deleted
    · contradiction
    · simp only at deleted
      split at deleted
      · contradiction
      · next others =>
        cases deleted
        exact ih (StoredTable.deleteWhere_written written) others

/-! ## Records that have been read -/

theorem findUnique_fits (wellFormed : entity.WellFormed) {address : Address} {record : Record}
    (found : findUnique entity address rows = .ok (some record)) : entity.Fits record := by
  obtain ⟨row, -, loads⟩ := optionMapM_eq_ok found
  exact Entity.load_fits wellFormed loads

theorem matching_fits (wellFormed : entity.WellFormed) {filter : Filter} {records : List Record}
    (found : matching entity filter rows = .ok records) : ∀ record ∈ records, entity.Fits record := by
  unfold matching loadMatching at found
  split at found
  · contradiction
  · next loaded all =>
    have fits : ∀ record ∈ loaded, entity.Fits record := by
      intro record member
      obtain ⟨row, -, loads⟩ := exists_of_mem_mapM all member
      exact Entity.load_fits wellFormed loads
    cases found
    split
    · exact fits
    · exact fun record member => fits record (List.mem_filter.1 member).1

/-! ## Commands -/

theorem committed_written {α : Type} {f : StoredTable → Except StoreError (α × StoredTable)}
    (written : Written entity rows)
    (succeeded : ∀ value result, f rows = .ok (value, result) → Written entity result) :
    Written entity (committed f rows) := by
  unfold committed
  split
  · next run => exact succeeded _ _ run
  · exact written

theorem insertAndLoad_written (wellFormed : entity.WellFormed) {insertion : Insertion}
    (fits : entity.Fits insertion.given) (now : Readings) (written : Written entity rows) :
    Written entity (insertAndLoad entity now insertion rows).2 := by
  unfold insertAndLoad
  split
  · next inserted => exact StoredTable.insert_written wellFormed fits now written inserted
  · exact written

theorem update_written (wellFormed : entity.WellFormed) {address : Address} {changes : Changes}
    (changesFit : changes.Fits entity) {after : Record} (written : Written entity rows)
    (updated : update entity address changes rows = .ok (after, result)) :
    Written entity result := by
  unfold update at updated
  split at updated
  · contradiction
  · contradiction
  · next found =>
    exact updateRecord_written wellFormed changesFit (findUnique_fits wellFormed found) written
      updated

theorem updateMany_written (wellFormed : entity.WellFormed) {filter : Filter} {changes : Changes}
    (changesFit : changes.Fits entity) {count : Nat} (written : Written entity rows)
    (updated : updateMany entity filter changes rows = .ok (count, result)) :
    Written entity result := by
  simp only [updateMany, bind_eq_ok, pure_eq_ok, Prod.mk.injEq] at updated
  obtain ⟨records, found, table, changed, -, rfl⟩ := updated
  exact updateRecords_written wellFormed changesFit (matching_fits wellFormed found) written changed

theorem upsert_written (wellFormed : entity.WellFormed) {now : Readings} {address : Address}
    {insertion : Insertion} {changes : Changes} (fits : entity.Fits insertion.given)
    (changesFit : changes.Fits entity) {after : Record} (written : Written entity rows)
    (stored : upsert entity now address insertion changes rows = .ok (after, result)) :
    Written entity result := by
  unfold upsert at stored
  split at stored
  · contradiction
  · next found =>
    split at stored
    · cases stored
      exact written
    · exact updateRecord_written wellFormed changesFit (findUnique_fits wellFormed found) written
        stored
  · have inserted := insertAndLoad_written wellFormed fits now written
    split at stored
    · next run =>
      cases stored
      rwa [run] at inserted
    · contradiction

theorem delete_written {address : Address} (written : Written entity rows) :
    Written entity (delete entity address rows).2 := by
  have kept : Written entity
      (StoredTable.deleteWhere (address.clause []).1 (address.clause []).2 rows).2 :=
    StoredTable.deleteWhere_written written
  unfold delete
  simp only
  split <;> next deleted => rwa [deleted] at kept

theorem deleteMany_written {filter : Filter} {count : Nat} (written : Written entity rows)
    (deleted : deleteMany entity filter rows = .ok (count, result)) : Written entity result := by
  unfold deleteMany at deleted
  split at deleted
  · cases deleted
    exact StoredTable.deleteWhere_written written
  · obtain ⟨records, -, one⟩ := bind_eq_ok.1 deleted
    exact deleteRecords_written written one

theorem write_written (wellFormed : entity.WellFormed) {command : Command}
    (commandFits : command.Fits entity) (clock : Clock) (written : Written entity rows) :
    Written entity (command.write entity clock rows) := by
  cases command with
  | findUnique | find | count | aggregate | groupBy => exact written
  | create insertion => exact insertAndLoad_written wellFormed commandFits (clock 0) written
  | createMany insertions skipDuplicates =>
    exact committed_written written fun _ _ => insertMany_written wellFormed commandFits written
  | update address changes =>
    exact committed_written written fun _ _ => update_written wellFormed commandFits written
  | updateMany filter changes =>
    exact committed_written written fun _ _ => updateMany_written wellFormed commandFits written
  | upsert address insertion changes =>
    exact committed_written written fun _ _ =>
      upsert_written wellFormed commandFits.1 commandFits.2 written
  | delete address => exact delete_written written
  | deleteMany filter => exact committed_written written fun _ _ => deleteMany_written written

/-! ## Stores -/

theorem Reachable.written {entities : List Entity} {registry : Registry}
    (registered : Registry.ofEntities entities = .ok registry)
    (wellFormed : ∀ entity ∈ entities, entity.WellFormed) {store : DatabaseStore}
    (reachable : Reachable registry store) (member : entity ∈ entities) :
    Written entity (store.rows entity.name) := by
  induction reachable with
  | empty => exact fun row member => absurd member List.not_mem_nil
  | close _ before => exact before
  | run _ described checked clock before =>
    rw [rows_run]
    split
    · next edited =>
      obtain rfl := Registry.describe_unique registered member described edited.2
      exact write_written (wellFormed _ member) (Operation.check_fits checked) clock before
    · exact before

end DatabaseStore

end RecordStore
