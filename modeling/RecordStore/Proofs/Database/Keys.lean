import RecordStore.Proofs.Database.Addressing
import RecordStore.Proofs.Database.Writing

/-! # The keys of a stored table

A database keeps two constraints on a table: the columns of its primary key are not null, and no two
rows agree on a unique key.  They are checked where a row is placed, and they make the identity of a
row name this row alone.

* `place_of_ok` says what a table has become where a row has been placed.
* `keeps_identity_iff` says that the clause of a row's identity keeps the rows that agree with it
  there.
-/

namespace RecordStore

theorem Cell.compare?_swap (a b : Cell) : b.compare? a = (a.compare? b).map Ordering.swap := by
  cases a <;> cases b <;>
    simp [compare?, ← Double.compare?_swap, ← Std.OrientedOrd.eq_swap, Function.comp_def]

/-- Cells that compare are not null. -/
theorem Cell.isNull_of_compare? {a b : Cell} {order : Ordering}
    (compares : a.compare? b = some order) :
    a.isNull = false ∧ b.isNull = false := by
  cases a <;> cases b <;> first | contradiction | exact ⟨rfl, rfl⟩

namespace StoredTable

variable {entity : Entity} {rows front back : StoredTable} {row : StoredRow}

/-! ## Agreement -/

theorem keyCells?_eq (key : List String) (row : StoredRow) :
    keyCells? key row =
      if ∀ name ∈ key, (row.cellAt name).isNull = false then some (key.map row.cellAt)
      else none := by
  have null : ((key.map row.cellAt).any Cell.isNull = true) ↔
      ¬ ∀ name ∈ key, (row.cellAt name).isNull = false := by
    simp
  simp only [keyCells?, null, ite_not]

theorem agreeOn_iff {key : List String} {a b : StoredRow} :
    agreeOn key a b = true ↔
      ∀ name ∈ key, (a.cellAt name).compare? (b.cellAt name) = some .eq := by
  simp only [agreeOn, keyCells?_eq]
  by_cases presentA : ∀ name ∈ key, (a.cellAt name).isNull = false
  · by_cases presentB : ∀ name ∈ key, (b.cellAt name).isNull = false
    · simp only [if_pos presentA, if_pos presentB, List.zip_map', List.all_map, List.all_eq_true,
        Function.comp_apply, beq_iff_eq]
    · simp only [if_pos presentA, if_neg presentB, Bool.false_eq_true, false_iff]
      exact fun agree => presentB fun name member => (Cell.isNull_of_compare? (agree name member)).2
  · simp only [if_neg presentA, Bool.false_eq_true, false_iff]
    exact fun agree => presentA fun name member => (Cell.isNull_of_compare? (agree name member)).1

theorem agreeOn_comm (key : List String) (a b : StoredRow) : agreeOn key a b = agreeOn key b a := by
  rw [Bool.eq_iff_iff, agreeOn_iff, agreeOn_iff]
  refine forall₂_congr fun name _ => ?_
  rw [Cell.compare?_swap (a.cellAt name)]
  cases (a.cellAt name).compare? (b.cellAt name) with
  | none => simp
  | some order => cases order <;> simp

theorem identity_mem_checkedKeys (entity : Entity) : entity.identity ∈ checkedKeys entity := by
  cases number : rowNumber? entity with
  | some name =>
    -- The row number is the only field of the identity.
    have single : entity.identity = [name] := by
      unfold rowNumber? at number
      split at number
      · next identity =>
        rw [identity, Option.some.inj (Option.ite_none_right_eq_some.1 number).2]
      · contradiction
    simp [checkedKeys, number, single]
  | none =>
    refine List.mem_append_right _ (List.mem_reverse.2 ?_)
    simp only [indexedKeys, number, Option.isSome_none, Bool.false_or]
    split
    · next indexed => simpa using indexed
    · exact List.mem_append_right _ List.mem_cons_self

/-- Whether no two rows of a table agree on a unique key. -/
def KeysApart (entity : Entity) (rows : StoredTable) : Prop :=
  ∀ key ∈ checkedKeys entity, rows.Pairwise fun a b => agreeOn key a b = false

/-- Whether a table meets the constraints on its keys: its unique keys are unique, and the columns
of the identity are not null. -/
structure KeysHold (entity : Entity) (rows : StoredTable) : Prop where
  present : ∀ row ∈ rows, agreeOn entity.identity row row = true
  apart : KeysApart entity rows

theorem KeysApart.perm {rows rows' : StoredTable} (apart : KeysApart entity rows)
    (perm : rows.Perm rows') : KeysApart entity rows' := by
  intro key isKey
  refine (perm.pairwise_iff ?_).1 (apart key isKey)
  intro a b disagree
  rwa [agreeOn_comm]

/-! ## Placing -/

theorem placeByNumber_perm (name : String) (row : StoredRow) (rows : StoredTable) :
    (placeByNumber name row rows).Perm (row :: rows) := by
  induction rows with
  | nil => exact .refl _
  | cons other rest ih =>
    unfold placeByNumber
    split
    · exact .refl _
    · exact (ih.cons other).trans (.swap row other rest)

/-- Where a row has been placed it agrees with no other row on a unique key, and it stands where
there was room for it, unless the rows are in the order of their numbers. -/
theorem place_of_ok {result : StoredTable} (placed : place entity front row back = .ok result) :
    (∀ key ∈ checkedKeys entity, ∀ other ∈ front ++ back, agreeOn key row other = false) ∧
    result.Perm (row :: (front ++ back)) ∧
    (rowNumber? entity = none → result = front ++ row :: back) := by
  unfold place at placed
  split at placed
  · split at placed
    · contradiction
    · next checked =>
      constructor
      · intro key isKey other member
        unfold checkKeys at checked
        split at checked
        · next free =>
          have apart := List.find?_eq_none.1 free key isKey
          rw [List.any_eq_true] at apart
          by_contra agree
          exact apart ⟨other, member, by simpa using agree⟩
        · contradiction
      · split at placed
        · next name number =>
          cases placed
          exact ⟨placeByNumber_perm _ _ _, fun none => by rw [none] at number; contradiction⟩
        · cases placed
          exact ⟨List.perm_middle, fun _ => rfl⟩
  · contradiction

theorem KeysApart.place {result : StoredTable} (apart : KeysApart entity (front ++ back))
    (placed : place entity front row back = .ok result) : KeysApart entity result := by
  obtain ⟨free, perm, -⟩ := place_of_ok placed
  refine KeysApart.perm (fun key isKey => ?_) perm.symm
  exact List.pairwise_cons.2 ⟨free key isKey, apart key isKey⟩

/-- A table parts at a row that passes a test when those in front of it do not. -/
theorem splitAt?_append {test : StoredRow → Bool} (accepted : test row = true)
    (rejected : ∀ other ∈ front, test other = false) :
    splitAt? test (front ++ row :: back) = some (front, row, back) := by
  induction front with
  | nil => rw [List.nil_append, splitAt?, if_pos accepted]
  | cons first rest ih =>
    obtain ⟨firstRejected, restRejected⟩ := List.forall_mem_cons.1 rejected
    rw [List.cons_append, splitAt?, if_neg (by simp [firstRejected]), ih restRejected]
    rfl

/-! ## Identities -/

/-- The clause of the identity of a record keeps the rows that agree with the record's row on it. -/
theorem keeps_identity_iff (wellFormed : entity.WellFormed) {record other : Record}
    (recordFits : entity.Fits record) (otherFits : entity.Fits other) {address : Address}
    (identified : Address.ofRecord? record entity.identity = some address) (bound : Bound) :
    (address.clause bound).1.keeps (address.clause bound).2 (entity.store other) = true ↔
      agreeOn entity.identity (entity.store other) (entity.store record) = true := by
  rw [Address.ofRecord?_eq, Option.ite_none_right_eq_some] at identified
  obtain ⟨present, equal⟩ := identified
  cases equal
  have cells : ∀ name ∈ entity.identity,
      ((entity.store other).cellAt name).compare? (record.valueAt name).parameter.cell
        = ((entity.store other).cellAt name).compare? ((entity.store record).cellAt name) := by
    intro name member
    obtain ⟨field, found, -⟩ := wellFormed.identity_fields name member
    rw [Entity.cellAt_store other found, Entity.cellAt_store record found]
    have recordHolds := (recordFits name field found).holds (present name member)
    rcases otherFits name field found with null | otherHolds
    · rw [null]
      cases field.kind.columnType <;> simp [Value.parameter, Parameter.cell, ColumnType.keep,
        Cell.compare?_null_left]
    · exact (FieldKind.compare?_keep_right otherHolds recordHolds).symm
  rw [agreeOn_iff, Clause.keeps, beq_iff_eq]
  refine (Address.keyClauses_eval List.prefix_rfl).trans ?_
  simp only [Prod.forall, ← FieldMap.get?_eq_some, Address.ofValues, FieldMap.get?_ofList_map,
    Option.ite_none_right_eq_some, Option.some.injEq]
  constructor
  · intro equal name member
    rw [← cells name member]
    exact equal name _ ⟨member, rfl⟩
  · rintro agree name _ ⟨member, rfl⟩
    rw [cells name member]
    exact agree name member

/-- A row that has its identity is addressed by it. -/
theorem exists_identity (wellFormed : entity.WellFormed) {record : Record}
    (present : agreeOn entity.identity (entity.store record) (entity.store record) = true) :
    ∃ address, Address.ofRecord? record entity.identity = some address := by
  rw [Address.ofRecord?_eq, if_pos]
  · exact ⟨_, rfl⟩
  · intro name member
    obtain ⟨field, found, -⟩ := wellFormed.identity_fields name member
    have stored := (Cell.isNull_of_compare? (agreeOn_iff.1 present name member)).1
    rwa [Entity.cellAt_store record found, ColumnType.isNull_keep, Value.isNull_parameter_cell]
      at stored

end StoredTable

end RecordStore
