import RecordStore.Proofs.Database.Keys
import RecordStore.Proofs.Database.Scan
import RecordStore.Proofs.Memory.Effects
import RecordStore.Proofs.RoundTrip.FixedWidth

/-! # Changing and deleting many stored rows

The rows that pass a filter are read first, and then written one after the other, each at the
identity that it had when it was read.  Meanwhile other rows may have taken identities.  They cannot
have taken one that is still to be written: every statement checks the keys of the table as it is
then.  So a statement finds the row that was read, and this row has not been written before.

* `updateRecords_of_ok` and `deleteRecords_eq` are the inductions on the rows that are still to
  come.
* `batches_sound` says what is changed and what is deleted.
-/

namespace RecordStore

/-! ## A changed row as it is stored -/

namespace StoredTable

variable {entity : Entity} {changes : Changes}

/-- Assigning the changed fields to the row of a record gives the row of the changed record. -/
theorem assign_store {before after : Record} (applied : changes.apply before = .ok after) :
    assign entity changes after (entity.store before) = entity.store after := by
  have assigned : ∀ name, (assign entity changes after (entity.store before)).get? name =
      if name ∈ changes.byField.keys then
        some (entity.cellOf name (after.valueAt name).parameter.cell)
      else (entity.store before).get? name := by
    intro name
    rw [← FieldMap.get?_foldl_insert
        (fun name => entity.cellOf name (after.valueAt name).parameter.cell),
      List.foldl_map]
    rfl
  refine FieldMap.ext fun name => ?_
  have makes := Changes.apply_makes applied
  rw [assigned, Entity.store, Entity.store, FieldMap.get?_mapValues, FieldMap.get?_mapValues]
  cases bound : changes.byField.get? name with
  | some change =>
    obtain ⟨value, -, found⟩ := makes.named name change bound
    rw [if_pos (FieldMap.mem_keys.2 ⟨change, bound⟩), FieldMap.valueAt, found]
    rfl
  | none =>
    have unnamed : name ∉ changes.byField.keys := by
      rw [FieldMap.mem_keys, bound]
      simp
    rw [if_neg unnamed, makes.others name bound]

/-! ## The row of an identity -/

/-- Whether rows are rows of records that fit, and none has the identity of a given record. -/
def Others (entity : Entity) (record : Record) (rows : StoredTable) : Prop :=
  ∀ row ∈ rows, agreeOn entity.identity row (entity.store record) = false ∧
    ∃ other, entity.Fits other ∧ row = entity.store other

variable {record : Record} {front back : StoredTable}

/-- Among other rows, the clause of its identity keeps the row of a record alone. -/
theorem exists_identity_alone (wellFormed : entity.WellFormed) (fits : entity.Fits record)
    (present : agreeOn entity.identity (entity.store record) (entity.store record) = true)
    (others : Others entity record (front ++ back)) :
    ∃ address, Address.ofRecord? record entity.identity = some address ∧ ∀ bound,
      (address.clause bound).1.keeps (address.clause bound).2 (entity.store record) = true ∧
      ∀ row ∈ front ++ back,
        (address.clause bound).1.keeps (address.clause bound).2 row = false := by
  obtain ⟨address, identified⟩ := exists_identity wellFormed present
  refine ⟨address, identified, fun bound => ?_⟩
  constructor
  · exact (keeps_identity_iff wellFormed fits fits identified bound).2 present
  · intro row member
    obtain ⟨apart, other, otherFits, rfl⟩ := others row member
    rw [Bool.eq_false_iff] at apart ⊢
    exact fun kept =>
      apart ((keeps_identity_iff wellFormed fits otherFits identified bound).1 kept)

/-- Deleting at the identity of a record takes its row away and no other. -/
theorem deleteWhere_identity (wellFormed : entity.WellFormed) (fits : entity.Fits record)
    (present : agreeOn entity.identity (entity.store record) (entity.store record) = true)
    (others : Others entity record (front ++ back)) :
    ∃ address, Address.ofRecord? record entity.identity = some address ∧
      deleteWhere (address.clause []).1 (address.clause []).2
        (front ++ entity.store record :: back) = ([entity.store record], front ++ back) := by
  obtain ⟨address, identified, alone⟩ := exists_identity_alone wellFormed fits present others
  obtain ⟨kept, rejected⟩ := alone []
  obtain ⟨frontRejected, backRejected⟩ := List.forall_mem_append.1 rejected
  refine ⟨address, identified, ?_⟩
  have noneOf : ∀ {part : StoredTable},
      (∀ row ∈ part, (address.clause []).1.keeps (address.clause []).2 row = false) →
        part.filter ((address.clause []).1.keeps (address.clause []).2) = [] ∧
        part.filter (not ∘ (address.clause []).1.keeps (address.clause []).2) = part := by
    intro part outside
    rw [List.filter_eq_nil_iff, List.filter_eq_self]
    exact ⟨fun row member => by simp [outside row member],
      fun row member => by simp [outside row member]⟩
  obtain ⟨frontNone, frontAll⟩ := noneOf frontRejected
  obtain ⟨backNone, backAll⟩ := noneOf backRejected
  rw [deleteWhere, List.partition_eq_filter_filter, List.filter_append, List.filter_append,
    List.filter_cons_of_pos kept, List.filter_cons_of_neg (by simp [kept]), frontNone, frontAll,
    backNone, backAll]
  rfl

/-! ## Rows of records -/

/-- Whether a table has the rows of records, in their order unless rows are ordered by number. -/
structure Lists (entity : Entity) (rows : StoredTable) (records : List Record) : Prop where
  perm : rows.Perm (records.map entity.store)
  inOrder : rowNumber? entity = none → rows = records.map entity.store

variable {done rest : List Record} {rows : StoredTable}

/-- The rows around the row of a record have other identities. -/
theorem KeysApart.others (apart : KeysApart entity (front ++ entity.store record :: back))
    (listed : (front ++ back).Perm ((done ++ rest).map entity.store))
    (fits : ∀ record ∈ done ++ rest, entity.Fits record) :
    Others entity record (front ++ back) := by
  have first := (apart.perm List.perm_middle) _ (identity_mem_checkedKeys entity)
  intro row member
  obtain ⟨other, among, rfl⟩ := List.mem_map.1 (listed.mem_iff.1 member)
  refine ⟨?_, other, fits other among, rfl⟩
  rw [agreeOn_comm]
  exact (List.pairwise_cons.1 first).1 _ member

/-- A table parts at the row of one of its records. -/
theorem Lists.part (lists : Lists entity rows (done ++ record :: rest)) :
    ∃ front back, rows = front ++ entity.store record :: back ∧
      (front ++ back).Perm ((done ++ rest).map entity.store) ∧
      (rowNumber? entity = none →
        front = done.map entity.store ∧ back = rest.map entity.store) := by
  cases number : rowNumber? entity with
  | none =>
    refine ⟨_, _, ?_, ?_, fun _ => ⟨rfl, rfl⟩⟩
    · rw [lists.inOrder number, List.map_append, List.map_cons]
    · rw [List.map_append]
  | some name =>
    have member : entity.store record ∈ rows := lists.perm.mem_iff.2 (by simp)
    obtain ⟨front, back, rfl⟩ := List.append_of_mem member
    refine ⟨front, back, rfl, ?_, nofun⟩
    have perm := lists.perm
    rw [List.map_append, List.map_cons] at perm
    rw [List.map_append]
    exact (List.perm_middle.symm.trans (perm.trans List.perm_middle)).cons_inv

/-- Where a row has been placed, the table lists its record as well. -/
theorem lists_of_place {result : StoredTable} {after : Record}
    (listed : (front ++ back).Perm ((done ++ rest).map entity.store))
    (inOrder : rowNumber? entity = none →
      front = done.map entity.store ∧ back = rest.map entity.store)
    (placed : place entity front (entity.store after) back = .ok result) :
    Lists entity result (done ++ after :: rest) := by
  obtain ⟨-, perm, inPlace⟩ := place_of_ok placed
  constructor
  · rw [List.map_append, List.map_cons]
    refine (perm.trans (listed.cons _)).trans ?_
    rw [List.map_append]
    exact List.perm_middle.symm
  · intro number
    obtain ⟨rfl, rfl⟩ := inOrder number
    rw [inPlace number, List.map_append, List.map_cons]

end StoredTable

namespace DatabaseStore

open StoredTable

variable {entity : Entity} {changes : Changes} {record : Record} {front back rows : StoredTable}
  {done rest : List Record}

/-! ## One record after the other -/

/-- Updating a record that has been read puts its changed row in place of its row. -/
theorem updateRecord_of_ok (wellFormed : entity.WellFormed) (fits : entity.Fits record)
    (present : agreeOn entity.identity (entity.store record) (entity.store record) = true)
    (others : Others entity record (front ++ back)) {after : Record} {result : StoredTable}
    (updated : updateRecord entity changes record (front ++ entity.store record :: back)
      = .ok (after, result)) :
    changes.apply record = .ok after ∧
      place entity front (entity.store after) back = .ok result := by
  obtain ⟨address, identified, alone⟩ := exists_identity_alone wellFormed fits present others
  unfold updateRecord at updated
  split at updated
  · contradiction
  · next applied =>
    rw [identified] at updated
    simp only [updateWhere] at updated
    rw [splitAt?_append (alone _).1 fun row member =>
      (alone _).2 row (List.mem_append_left _ member)] at updated
    simp only [assign_store applied] at updated
    split at updated
    · contradiction
    · next placed =>
      cases updated
      exact ⟨applied, placed⟩

theorem updateRecords_of_ok (wellFormed : entity.WellFormed) (changesFit : changes.Fits entity)
    {test : Record → Bool} (fits : ∀ record ∈ done ++ rest, entity.Fits record)
    (present : ∀ record ∈ rest,
      agreeOn entity.identity (entity.store record) (entity.store record) = true)
    (lists : Lists entity rows (done ++ rest)) (apart : KeysApart entity rows)
    {result : StoredTable}
    (updated : updateRecords entity changes (rest.filter test) rows = .ok result) :
    ∃ changed, rest.mapM (changes.applyWhere test) = .ok changed ∧
      Lists entity result (done ++ changed) := by
  induction rest generalizing done rows with
  | nil =>
    cases updated
    exact ⟨[], rfl, lists⟩
  | cons record rest ih =>
    rw [List.forall_mem_cons] at present
    have around : ∀ other ∈ done ++ rest, entity.Fits other := fun other member => fits other (by
      simp only [List.mem_append, List.mem_cons] at member ⊢
      tauto)
    cases accepted : test record with
    | false =>
      rw [List.filter_cons_of_neg (by simp [accepted])] at updated
      have fitsNext : ∀ other ∈ (done ++ [record]) ++ rest, entity.Fits other := by simpa using fits
      obtain ⟨changed, applied, after⟩ :=
        ih fitsNext present.2 (by simpa using lists) apart updated
      refine ⟨record :: changed, ?_, by simpa using after⟩
      exact mapM_cons_eq_ok.2 ⟨_, _, Changes.applyWhere_of_false accepted, applied, rfl⟩
    | true =>
      rw [List.filter_cons_of_pos accepted, updateRecords] at updated
      split at updated
      · contradiction
      · next next table first =>
        have recordFits := fits record (by simp)
        obtain ⟨front, back, rfl, listed, inOrder⟩ := lists.part
        obtain ⟨applied, placed⟩ := updateRecord_of_ok wellFormed recordFits present.1
          (apart.others listed around) first
        have nextFits := Changes.apply_fits changesFit recordFits applied
        have nextApart : KeysApart entity table :=
          KeysApart.place (fun key isKey => (apart key isKey).sublist (by simp)) placed
        -- The changed record joins those that are done, and the rest is as it was read.
        have fitsNext : ∀ other ∈ (done ++ [next]) ++ rest, entity.Fits other := by
          intro other member
          simp only [List.mem_append, List.mem_singleton, or_assoc] at member
          rcases member with inDone | rfl | inRest
          · exact around other (List.mem_append_left _ inDone)
          · exact nextFits
          · exact around other (List.mem_append_right _ inRest)
        obtain ⟨changed, restApplied, after⟩ := ih fitsNext present.2
          (by simpa using lists_of_place listed inOrder placed) nextApart updated
        refine ⟨next :: changed, ?_, by simpa using after⟩
        refine mapM_cons_eq_ok.2 ⟨_, _, ?_, restApplied, rfl⟩
        rwa [Changes.applyWhere, if_pos accepted]

theorem deleteRecords_eq (wellFormed : entity.WellFormed) {test : Record → Bool}
    (fits : ∀ record ∈ done ++ rest, entity.Fits record)
    (present : ∀ record ∈ rest,
      agreeOn entity.identity (entity.store record) (entity.store record) = true)
    (apart : KeysApart entity ((done ++ rest).map entity.store)) :
    deleteRecords entity (rest.filter test) ((done ++ rest).map entity.store)
      = .ok ((rest.filter test).length,
        (done ++ rest.filter fun record => !test record).map entity.store) := by
  induction rest generalizing done with
  | nil => rfl
  | cons record rest ih =>
    rw [List.forall_mem_cons] at present
    cases accepted : test record with
    | false =>
      rw [List.filter_cons_of_neg (by simp [accepted]),
        List.filter_cons_of_pos (by simp [accepted])]
      have fitsNext : ∀ other ∈ (done ++ [record]) ++ rest, entity.Fits other := by simpa using fits
      simpa using ih fitsNext present.2 (by simpa using apart)
    | true =>
      rw [List.filter_cons_of_pos accepted, List.filter_cons_of_neg (by simp [accepted]),
        deleteRecords]
      have around : ∀ other ∈ done ++ rest, entity.Fits other := fun other member => fits other (by
        simp only [List.mem_append, List.mem_cons] at member ⊢
        tauto)
      rw [List.map_append, List.map_cons] at apart ⊢
      have others := apart.others (by rw [List.map_append]) around
      obtain ⟨address, identified, deleted⟩ :=
        deleteWhere_identity wellFormed (fits record (by simp)) present.1 others
      have restApart : KeysApart entity ((done ++ rest).map entity.store) := by
        rw [List.map_append]
        exact fun key isKey => (apart key isKey).sublist (by simp)
      simp only [identified, deleted]
      rw [← List.map_append, ih around present.2 restApart]
      rfl

/-! ## Calls -/

section Calls

variable {filter : Filter} {records : List Record} {store : DatabaseStore}

theorem filterClauses_keeps (suits : ∀ condition ∈ filter.leaves, condition.Suits entity)
    (exact : filter.isExact entity = true) (fits : entity.Fits record)
    (faithful : filter.Faithful entity record) :
    (Clause.all (filterClauses entity filter).1).keeps (filterClauses entity filter).2
      (entity.store record) = filter.selects record := by
  rw [Bool.eq_iff_iff, keeps_iff, Clause.eval, filterClauses]
  split
  · next always => simp [Clause.evalAll, selects_of_isAlways always]
  · have stands := Predicate.narrowing_eval suits fits (entity.stores_store record) faithful
      (List.prefix_refl (filter.narrowing entity []).2)
    rw [Clause.evalAll_singleton, stands.eq_some exact, Option.some.injEq]

theorem matching_stored (wellFormed : entity.WellFormed)
    (suits : ∀ condition ∈ filter.leaves, condition.Suits entity)
    (loads : ∀ record ∈ records, entity.load (entity.store record) = .ok record)
    (faithful : ∀ record ∈ records, filter.Faithful entity record) :
    matching entity filter (records.map entity.store) = .ok (records.filter filter.selects) := by
  have represent : ∀ pair ∈ records.map fun record => (entity.store record, record),
      entity.Represents pair.1 pair.2 ∧ filter.Faithful entity pair.2 := by
    simp only [List.forall_mem_map]
    exact fun record member =>
      ⟨⟨loads record member, entity.stores_store record⟩, faithful record member⟩
  simpa only [List.map_map, Function.comp_def, List.map_id'] using
    matching_pairs wellFormed suits represent

theorem deleteMany_eq (wellFormed : entity.WellFormed)
    (suits : ∀ condition ∈ filter.leaves, condition.Suits entity)
    (loads : ∀ record ∈ records, entity.load (entity.store record) = .ok record)
    (faithful : ∀ record ∈ records, filter.Faithful entity record)
    (keys : KeysHold entity (records.map entity.store)) :
    deleteMany entity filter (records.map entity.store)
      = .ok ((records.filter filter.selects).length,
        (records.filter fun record => !filter.selects record).map entity.store) := by
  -- No record is done, and all are still to come.
  have fits : ∀ record ∈ [] ++ records, entity.Fits record :=
    fun record member => Entity.load_fits wellFormed (loads record member)
  unfold deleteMany
  split
  · next exact =>
    have kept : ∀ record ∈ records, (Clause.all (filterClauses entity filter).1).keeps
        (filterClauses entity filter).2 (entity.store record) = filter.selects record :=
      fun record member =>
        filterClauses_keeps suits exact (fits record member) (faithful record member)
    simp only [deleteWhere, List.partition_eq_filter_filter, List.filter_map, List.length_map,
      Except.ok.injEq, Prod.mk.injEq]
    constructor
    · exact congrArg List.length (List.filter_congr kept)
    · refine congrArg _ (List.filter_congr fun record member => ?_)
      simp only [Function.comp_apply, kept record member]
  · rw [matching_stored wellFormed suits loads faithful]
    refine deleteRecords_eq wellFormed fits (fun record member => ?_) keys.apart
    exact keys.present _ (List.mem_map_of_mem member)

theorem updateMany_of_ok (wellFormed : entity.WellFormed) (changesFit : changes.Fits entity)
    (suits : ∀ condition ∈ filter.leaves, condition.Suits entity)
    (loads : ∀ record ∈ records, entity.load (entity.store record) = .ok record)
    (faithful : ∀ record ∈ records, filter.Faithful entity record)
    (keys : KeysHold entity (records.map entity.store)) {count : Nat} {result : StoredTable}
    (updated : updateMany entity filter changes (records.map entity.store) = .ok (count, result)) :
    count = (records.filter filter.selects).length ∧
    ∃ changed, records.mapM (changes.applyWhere filter.selects) = .ok changed ∧
      Lists entity result changed := by
  simp only [updateMany, matching_stored wellFormed suits loads faithful, bind_eq_ok,
    Except.ok.injEq, exists_eq_left', pure_eq_ok, Prod.mk.injEq] at updated
  obtain ⟨table, written, rfl, rfl⟩ := updated
  have fits : ∀ record ∈ [] ++ records, entity.Fits record :=
    fun record member => Entity.load_fits wellFormed (loads record member)
  refine ⟨rfl, ?_⟩
  exact updateRecords_of_ok wellFormed changesFit fits
    (fun record member => keys.present _ (List.mem_map_of_mem member))
    ⟨.refl _, fun _ => rfl⟩ keys.apart written

theorem transact_eq_ok {α : Type} {f : StoredTable → Except StoreError (α × StoredTable)}
    (isOpen : store.isOpen = true) {result : α} :
    (transact entity f store).1 = .ok result ↔
      ∃ rows, f (store.rows entity.name) = .ok (result, rows) := by
  simp only [transact, execute, isOpen, if_true]
  cases f (store.rows entity.name) <;> simp [Prod.ext_iff]

theorem rows_transact_of_ok {α : Type} {f : StoredTable → Except StoreError (α × StoredTable)}
    (isOpen : store.isOpen = true) {result : α} {rows : StoredTable}
    (written : f (store.rows entity.name) = .ok (result, rows)) (name : String) :
    (transact entity f store).2.rows name
      = if name = entity.name then rows else store.rows name := by
  simp only [rows_transact, isOpen, true_and, committed]
  split
  · next same => rw [same, written]
  · rfl

/-- In a table that meets its constraints, whose rows are read as the records that they are rows of,
and with a filter that can be left to the database: a batch of updates that succeeds has changed the
rows that passed the filter, and a batch of deletions succeeds and takes these rows away. -/
theorem batches_sound {name : String} {fields : List Field} {identity : List String}
    {maxDepth : Nat} {raw : Json} (declared : Entity.declare name fields identity = .ok entity)
    (read : Filter.read entity maxDepth raw = .ok filter) (isOpen : store.isOpen = true)
    (stored : store.rows entity.name = records.map entity.store)
    (keys : KeysHold entity (store.rows entity.name))
    (loads : ∀ record ∈ records, entity.load (entity.store record) = .ok record)
    (faithful : ∀ record ∈ records, filter.Faithful entity record) :
    (∀ rawChanges changes, Changes.read entity rawChanges = .ok changes →
      let answer := interface.updateMany entity filter changes store
      ∀ count, answer.1 = .ok count →
        count = (records.filter filter.selects).length ∧
        (∀ other, other ≠ entity.name → answer.2.rows other = store.rows other) ∧
        ∃ changed, records.mapM (changes.applyWhere filter.selects) = .ok changed ∧
          Lists entity (answer.2.rows entity.name) changed) ∧
    let answer := interface.deleteMany entity filter store
    answer.1 = .ok (records.filter filter.selects).length ∧
    (∀ other, other ≠ entity.name → answer.2.rows other = store.rows other) ∧
    answer.2.rows entity.name
      = (records.filter fun record => !filter.selects record).map entity.store := by
  have wellFormed := Entity.declare_wellFormed declared
  have suits := Filter.read_suits read
  rw [stored] at keys
  constructor
  · intro rawChanges changes changesRead answer count succeeded
    have changesFit := Changes.readAny_fits (Changes.readAny_of_read changesRead)
    obtain ⟨table, written⟩ := (transact_eq_ok isOpen).1 succeeded
    have rows := rows_transact_of_ok isOpen written
    rw [stored] at written
    obtain ⟨number, changed, applied, lists⟩ :=
      updateMany_of_ok wellFormed changesFit suits loads faithful keys written
    refine ⟨number, fun other elsewhere => (rows other).trans (if_neg elsewhere), changed, applied,
      ?_⟩
    rwa [← (rows entity.name).trans (if_pos rfl)] at lists
  · have written := deleteMany_eq wellFormed suits loads faithful keys
    rw [← stored] at written
    have rows := rows_transact_of_ok isOpen written
    exact ⟨(transact_eq_ok isOpen).2 ⟨_, written⟩,
      fun other elsewhere => (rows other).trans (if_neg elsewhere),
      (rows entity.name).trans (if_pos rfl)⟩

end Calls

/-! ## Frames that are renumbered, and a visit that is overlooked -/

/-- A store with rows of records of an entity. -/
def ofRecords (entity : Entity) (records : List Record) : DatabaseStore :=
  ⟨FieldMap.empty.insert entity.name (records.map entity.store), true⟩

instance (entity : Entity) (rows : StoredTable) : Decidable (KeysHold entity rows) :=
  decidable_of_iff ((∀ row ∈ rows, agreeOn entity.identity row row = true) ∧
      ∀ key ∈ checkedKeys entity, rows.Pairwise fun a b => agreeOn key a b = false)
    ⟨fun both => ⟨both.1, both.2⟩, fun keys => ⟨keys.present, keys.apart⟩⟩

/-- Two frames, the second of which takes the number of the first when numbers go down by one. -/
def twoFrames : List Record := [frame 1 .null, frame 2 (.string "dark")]

/-- The frames with a delta of at most one. -/
def shortFrames : Filter := .leaf ⟨"Delta", .lte (.decimal (.ofInt64 1))⟩

def moveDown : Changes := ⟨FieldMap.empty.insert "Id" (.relative .subtract (.int 1))⟩

/-- Both frames are renumbered, and both can be deleted. -/
theorem frames_renumbered :
    (interface.updateMany frames shortFrames moveDown (ofRecords frames twoFrames)).1 = .ok 2 ∧
    Lists frames
      ((interface.updateMany frames shortFrames moveDown
        (ofRecords frames twoFrames)).2.rows "Frames")
      [frame 0 .null, frame 1 (.string "dark")] ∧
    (interface.deleteMany frames shortFrames (ofRecords frames twoFrames)).1 = .ok 2 := by
  have declared : Entity.declare "Frames" frames.fields ["Id"] = .ok frames := by decide
  have read : Filter.read frames 8 (.obj [("Delta", .obj [("lte", .int 1)])])
      = .ok shortFrames := rfl
  have changesRead : Changes.read frames (.obj [("Id", .obj [("decrement", .int 1)])])
      = .ok moveDown := by
    decide +kernel
  have faithful : ∀ record ∈ twoFrames, shortFrames.Faithful frames record := by
    intro record _ condition member notDecimal
    obtain rfl := List.mem_singleton.1 member
    exact absurd notDecimal (by decide)
  have isOpen : (ofRecords frames twoFrames).isOpen = true := rfl
  have stored : (ofRecords frames twoFrames).rows frames.name = twoFrames.map frames.store := rfl
  have sound := batches_sound declared read isOpen stored (by decide +kernel) (by decide +kernel)
    faithful
  have renumbered : (interface.updateMany frames shortFrames moveDown
      (ofRecords frames twoFrames)).1 = .ok 2 := by
    decide +kernel
  obtain ⟨-, -, changed, applied, lists⟩ := sound.1 _ _ changesRead 2 renumbered
  have moved : twoFrames.mapM (moveDown.applyWhere shortFrames.selects)
      = .ok [frame 0 .null, frame 1 (.string "dark")] := by
    decide +kernel
  cases moved.symm.trans applied
  exact ⟨renumbered, lists, sound.2.1⟩

/-- Visits, each at a moment. -/
def visits : Entity := ⟨"Visits", [.ofKind .int "Id", .ofKind .dateTime "At"], ["Id"]⟩

def visit : Record :=
  .ofList [("Id", .int 1), ("At", .dateTime (.midnight ⟨2024, 1, 1, by decide⟩))]

/-- The visits before the year 10000. -/
def earlyVisits : Filter := .leaf ⟨"At", .lt (.dateTime .farDay)⟩

/-- A visit of this century is before the year 10000, and the text of its moment is not before that
of the year: it is not deleted. -/
theorem visits_overlooked :
    Entity.declare "Visits" visits.fields ["Id"] = .ok visits ∧
    Filter.read visits 8 (.obj [("At", .obj [("lt", .str "+10000-01-01")])]) = .ok earlyVisits ∧
    KeysHold visits ((ofRecords visits [visit]).rows "Visits") ∧
    visits.load (visits.store visit) = .ok visit ∧ earlyVisits.selects visit = true ∧
    (interface.deleteMany visits earlyVisits (ofRecords visits [visit])).1 = .ok 0 ∧
    (interface.deleteMany visits earlyVisits (ofRecords visits [visit])).2.rows "Visits"
      = [visits.store visit] := by
  exact ⟨by decide, rfl, by decide +kernel, by decide +kernel, by decide +kernel,
    by decide +kernel, by decide +kernel⟩

end DatabaseStore

end RecordStore
