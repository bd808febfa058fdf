import RecordStore.Proofs.Database.Cells
import RecordStore.Proofs.RoundTrip.Decimals
import RecordStore.Proofs.RoundTrip.Moments

/-! # Stored rows are read column by column

A row is read field by field, and the first column that cannot be read decides the error.

* `load_cases` says what reading a row comes to.
* `readCell_of_load` says which cell a value of the record was read from.
* `Writes.readable_iff` says which of the cells that the store writes can be read back: all but those
  that have overflowed.
-/

namespace RecordStore

namespace Entity

variable {entity : Entity} {row : StoredRow}

/-! ## Rows -/

theorem readColumns_cases (row : StoredRow) (fields : List Field) (record : Record) :
    (∃ result, readColumns row fields record = .ok result ∧
      ∀ field ∈ fields, ∃ value, field.kind.readCell (row.cellAt field.name) = .ok value) ∨
    (∃ field ∈ fields, ∃ fault, field.kind.readCell (row.cellAt field.name) = .error fault ∧
      readColumns row fields record = .error (.query (.column field.name fault.message))) := by
  induction fields generalizing record with
  | nil => exact .inl ⟨record, rfl, by simp⟩
  | cons field rest ih =>
    unfold readColumns
    cases read : field.kind.readCell (row.cellAt field.name) with
    | error fault => exact .inr ⟨field, List.mem_cons_self, fault, read, rfl⟩
    | ok value =>
      rcases ih (record.insert field.name value) with
        ⟨result, loads, each⟩ | ⟨other, member, fault, unread, fails⟩
      · exact .inl ⟨result, loads, List.forall_mem_cons.2 ⟨⟨value, read⟩, each⟩⟩
      · exact .inr ⟨other, List.mem_cons_of_mem _ member, fault, unread, fails⟩

/-- A row is read if every column is; otherwise the error names a column that is not. -/
theorem load_cases (entity : Entity) (row : StoredRow) :
    (∃ record, entity.load row = .ok record ∧
      ∀ field ∈ entity.fields, ∃ value, field.kind.readCell (row.cellAt field.name) = .ok value) ∨
    (∃ field ∈ entity.fields, ∃ fault, field.kind.readCell (row.cellAt field.name) = .error fault ∧
      entity.load row = .error (.query (.column field.name fault.message))) :=
  readColumns_cases row entity.fields .empty

theorem readColumns_valueAt {fields : List Field} (distinct : (fields.map (·.name)).Nodup)
    {record result : Record} (read : readColumns row fields record = .ok result) :
    (∀ field ∈ fields,
      field.kind.readCell (row.cellAt field.name) = .ok (result.valueAt field.name)) ∧
    ∀ name ∉ fields.map (·.name), result.valueAt name = record.valueAt name := by
  induction fields generalizing record with
  | nil => cases read; simp
  | cons field rest ih =>
    rw [List.map_cons, List.nodup_cons] at distinct
    unfold readColumns at read
    split at read
    · next value valueRead =>
      obtain ⟨each, others⟩ := ih distinct.2 read
      constructor
      · rw [List.forall_mem_cons]
        -- The field is not read a second time, so the record keeps its value.
        rw [others field.name distinct.1, FieldMap.valueAt_insert, if_pos rfl]
        exact ⟨valueRead, each⟩
      · intro name outside
        rw [List.map_cons, List.mem_cons, not_or] at outside
        rw [others name outside.2, FieldMap.valueAt_insert, if_neg outside.1]
    · contradiction

theorem readCell_of_load (wellFormed : entity.WellFormed) {record : Record}
    (loads : entity.load row = .ok record) {name : String} {field : Field}
    (found : entity.field? name = some field) :
    field.kind.readCell (row.cellAt name) = .ok (record.valueAt name) := by
  obtain ⟨member, rfl⟩ := mem_of_field? found
  exact (readColumns_valueAt wellFormed.names_nodup loads).1 field member

end Entity

/-! ## Texts -/

namespace FieldKind

theorem readCell_null (kind : FieldKind) : kind.readCell .null = .ok .null := by
  cases kind <;> rfl

theorem readCell_decimal_text (x : Decimal) :
    FieldKind.decimal.readCell (.text x.text) = .ok (.decimal x.unsignedZero) := by
  have read : Decimal.read? x.text.toList = some x.unsignedZero := by
    rw [Decimal.text, String.toList_ofList, Decimal.read?_render]
  simp only [readCell, Cell.readText, readWith, read]

theorem readCell_moment_text (t : Timestamp) :
    (∃ value, FieldKind.dateTime.readCell (.text t.text) = .ok value) ↔ t.HasPlainYear := by
  simp only [readCell, Cell.readText, readWith]
  cases found : Timestamp.read? t.text with
  | none =>
    have signed : ¬ t.HasPlainYear := by
      intro plain
      rw [Timestamp.read?_text_eq_some_iff.2 ⟨plain, rfl⟩] at found
      contradiction
    simp [signed]
  | some s =>
    have plain := (Timestamp.read?_text_eq_some_iff.1 found).1
    simp [plain]

end FieldKind

/-! ## Cells that the store writes -/

namespace Field

/-- Whether a cell is one that the store writes for a field: that of a value of the field's kind, or
the number of a numbered field. -/
def Writes (field : Field) (cell : Cell) : Prop :=
  (∃ value, field.kind.Fits value ∧ cell = field.kind.columnType.keep value.parameter.cell) ∨
  (field.default? = some .autoIncrement ∧ ∃ n, cell.readInteger = some n)

/-- Whether a cell is beyond what is read for a field: the number of a numbered field is out of its
range, or a moment is in a year with a sign. -/
def Overflows (field : Field) (cell : Cell) : Prop :=
  (field.kind = .int ∧ field.default? = some .autoIncrement ∧
    ∃ n, cell.readInteger = some n ∧ int32? n.toInt = none) ∨
  (field.kind = .dateTime ∧ ∃ t : Timestamp, cell = .text t.text ∧ ¬ t.HasPlainYear)

/-- The cells of values are read, but for moments in years with a sign. -/
theorem readable_of_fits {field : Field} {value : Value} (fits : field.kind.Fits value) :
    (∃ result, field.kind.readCell (field.kind.columnType.keep value.parameter.cell) = .ok result) ↔
      ¬ field.Overflows (field.kind.columnType.keep value.parameter.cell) := by
  unfold Overflows
  rcases fits with rfl | held
  · have null : field.kind.columnType.keep Value.null.parameter.cell = .null := by
      cases field.kind.columnType <;> rfl
    simp [null, FieldKind.readCell_null, Cell.readInteger]
  · generalize field.kind = kind at held ⊢
    cases held with
    | dateTime t =>
      refine (FieldKind.readCell_moment_text t).trans ?_
      simp only [reduceCtorEq, false_and, true_and, false_or, not_exists, not_and, not_not]
      constructor
      · intro plain s same
        -- The text is read as a moment, so it is the text of no moment that is not plain.
        have read := Timestamp.read?_text_eq_some_iff.2 ⟨plain, rfl⟩
        rw [Cell.text.inj same] at read
        exact (Timestamp.read?_text_eq_some_iff.1 read).1
      · exact fun all => all t rfl
    | int n =>
      have fitting : int32? n.toInt = some n := int32?_eq_some.2 rfl
      simp [FieldKind.readCell, Value.parameter, Parameter.cell, FieldKind.columnType,
        ColumnType.keep, Cell.readInteger, readWith, fitting]
    | decimal x =>
      simp [FieldKind.columnType, Value.parameter, Parameter.cell, ColumnType.keep,
        FieldKind.readCell_decimal_text]
    | _ =>
      simp [FieldKind.readCell, Value.parameter, Parameter.cell, FieldKind.columnType,
        ColumnType.keep, Cell.readInteger, Cell.readReal, Cell.readText, readWith]

/-- A cell that the store has written can be read unless it has overflowed. -/
theorem Writes.readable_iff {field : Field} {cell : Cell} (writes : field.Writes cell)
    (defaultFits : field.DefaultFits) :
    (∃ value, field.kind.readCell cell = .ok value) ↔ ¬ field.Overflows cell := by
  rcases writes with ⟨value, fits, rfl⟩ | ⟨numbered, n, read⟩
  · exact readable_of_fits fits
  · unfold DefaultFits at defaultFits
    rw [numbered] at defaultFits
    unfold Overflows
    rcases defaultFits with kind | kind
    · simp only [kind, FieldKind.readCell, read, readWith, numbered, Option.some.injEq,
        exists_eq_left', reduceCtorEq, false_and, or_false, true_and]
      cases int32? n.toInt <;> simp
    · simp [kind, FieldKind.readCell, read, readWith]

end Field

end RecordStore
