import RecordStore.Proofs.Comparison.Moments
import RecordStore.Proofs.Typing.Rows
import RecordStore.Store.Rows

/-! # Cells compare as the values do

A database compares cells and the library compares values.  For the values of one kind, decimals
excepted, both orders are the same: `compare?_cell` says so of two values that are stored or bound,
`sortOrder_cell` adds null.

Two things stand in the way.  A NaN compares with nothing.  A moment is stored as text, and the texts
of years with a sign do not sort by time; so the order of the two texts is an assumption on two
moments.  `Value.IsPlain.comparesAsStored` says that years of four digits meet it.
-/

namespace RecordStore

/-! ## Null -/

@[simp] theorem Value.isNull_parameter_cell (value : Value) :
    value.parameter.cell.isNull = value.isNull := by
  cases value <;> rfl

@[simp] theorem ColumnType.isNull_keep (type : ColumnType) (cell : Cell) :
    (type.keep cell).isNull = cell.isNull := by
  cases type <;> cases cell <;> rfl

theorem Cell.compare?_null_left (cell : Cell) : Cell.null.compare? cell = none := by
  cases cell <;> rfl

/-! ## Moments -/

/-- Whether the texts of two moments are in the order of the moments. -/
def Timestamp.SortsAsText (s t : Timestamp) : Prop := Ord.compare s.text t.text = s.compare t

/-! ## Values that are not null -/

/-- Whether the cells of two values of one kind can be compared in their place. -/
def Value.ComparesAsStored : Value → Value → Prop
  | .float x, .float y => x.isNaN = false ∧ y.isNaN = false
  | .dateTime s, .dateTime t => s.SortsAsText t
  | _, _ => True

/-- Whether a value is neither a NaN nor a moment in a year with a sign. -/
def Value.IsPlain : Value → Prop
  | .float x => x.isNaN = false
  | .dateTime t => t.HasPlainYear
  | _ => True

instance (value : Value) : Decidable value.IsPlain :=
  match value with
  | .float x => inferInstanceAs (Decidable (x.isNaN = false))
  | .dateTime t => inferInstanceAs (Decidable (0 ≤ t.date.year ∧ t.date.year ≤ 9999))
  | .null | .bool _ | .int _ | .bigInt _ | .decimal _ | .string _ | .enumeration _ =>
    isTrue True.intro

theorem Value.IsPlain.comparesAsStored {a b : Value} (plainA : a.IsPlain) (plainB : b.IsPlain) :
    a.ComparesAsStored b := by
  cases a with
  | float x =>
    cases b with
    | float y => exact ⟨plainA, plainB⟩
    | _ => exact True.intro
  | dateTime s =>
    cases b with
    | dateTime t => exact Timestamp.compare_text plainA plainB
    | _ => exact True.intro
  | _ => cases b <;> exact True.intro

theorem Double.magnitude_zero : Double.zero.magnitude = 0 := by decide

/-- A column of reals forgets the sign of zero, which the order does not see. -/
theorem Double.key_keep (x : Double) : (if x.isZero then Double.zero else x).key = x.key := by
  by_cases zero : x.isZero = true
  · have magnitude : x.magnitude = 0 := by simpa [isZero] using zero
    simp [key, zero, magnitude, magnitude_zero]
  · rw [if_neg zero]

theorem Double.isNaN_keep (x : Double) :
    (if x.isZero then Double.zero else x).isNaN = x.isNaN := by
  by_cases zero : x.isZero = true
  · have magnitude : x.magnitude = 0 := by simpa [isZero] using zero
    simp [isNaN, zero, magnitude, magnitude_zero]
  · rw [if_neg zero]

theorem Double.compare?_keep_left (x y : Double) :
    (if x.isZero then Double.zero else x).compare? y = x.compare? y := by
  rw [compare?, compare?, key_keep, isNaN_keep]

theorem Double.compare?_keep_right (x y : Double) :
    x.compare? (if y.isZero then Double.zero else y) = x.compare? y := by
  rw [compare?, compare?, key_keep, isNaN_keep]

namespace FieldKind

variable {kind : FieldKind} {a b : Value}

theorem compare?_cell (notDecimal : kind ≠ .decimal) (ha : kind.Holds a) (hb : kind.Holds b)
    (compares : a.ComparesAsStored b) :
    (kind.columnType.keep a.parameter.cell).compare? b.parameter.cell = a.compare? b := by
  cases ha <;> cases hb
  case decimal => contradiction
  case float x y => exact Double.compare?_keep_left x y
  case dateTime s t => exact congrArg some compares
  case int m n =>
    exact congrArg some (by rw [Int32.toInt_toInt64, Int32.toInt_toInt64])
  case boolean p q => cases p <;> cases q <;> rfl
  case string | bigInt | enumeration => rfl

theorem compare?_keep_right (ha : kind.Holds a) (hb : kind.Holds b) :
    (kind.columnType.keep a.parameter.cell).compare? (kind.columnType.keep b.parameter.cell)
      = (kind.columnType.keep a.parameter.cell).compare? b.parameter.cell := by
  cases ha <;> cases hb
  case float x y => exact Double.compare?_keep_right _ y
  all_goals rfl

/-- Values that can be compared in their cells do compare. -/
theorem isSome_compare? (ha : kind.Holds a) (hb : kind.Holds b)
    (compares : a.ComparesAsStored b) : (a.compare? b).isSome = true := by
  cases ha <;> cases hb
  case float x y =>
    obtain ⟨hx, hy⟩ := compares
    simp [Value.compare?, Value.text?, Value.integer?, Value.toDouble?, Double.compare?, hx, hy]
  all_goals rfl

theorem sortOrder_cell (notDecimal : kind ≠ .decimal) (ha : kind.Fits a) (hb : kind.Fits b)
    (compares : a.ComparesAsStored b) :
    (kind.columnType.keep a.parameter.cell).sortOrder (kind.columnType.keep b.parameter.cell)
      = a.sortOrder b := by
  unfold Cell.sortOrder Value.sortOrder
  simp only [ColumnType.isNull_keep, Value.isNull_parameter_cell]
  cases nullA : a.isNull <;> cases nullB : b.isNull <;> try rfl
  have ha := ha.holds nullA
  have hb := hb.holds nullB
  rw [compare?_keep_right ha hb, compare?_cell notDecimal ha hb compares]

end FieldKind

/-! ## Stored rows -/

/-- Whether the columns of a stored row keep what is bound for the values of a record.  Columns of
decimals are left out: a decimal can be written in more than one way. -/
def Entity.Stores (entity : Entity) (row : StoredRow) (record : Record) : Prop :=
  ∀ name field, entity.field? name = some field → field.kind ≠ .decimal →
    row.cellAt name = field.kind.columnType.keep (record.valueAt name).parameter.cell

theorem Entity.cellAt_store {entity : Entity} (record : Record) {name : String} {field : Field}
    (found : entity.field? name = some field) :
    (entity.store record).cellAt name
      = field.kind.columnType.keep (record.valueAt name).parameter.cell := by
  unfold FieldMap.cellAt FieldMap.valueAt Entity.store Entity.cellOf
  rw [FieldMap.get?_mapValues]
  cases record.get? name with
  | none => cases field.kind.columnType <;> rfl
  | some value => simp only [Option.map_some, Option.getD_some, found]

theorem Entity.stores_store (entity : Entity) (record : Record) :
    entity.Stores (entity.store record) record :=
  fun _ _ found _ => cellAt_store record found

/-- Whether a stored row is the row of a record: it is read back as the record, and stores it. -/
structure Entity.Represents (entity : Entity) (row : StoredRow) (record : Record) : Prop where
  loads : entity.load row = .ok record
  stores : entity.Stores row record

theorem FieldKind.readCell_fits {kind : FieldKind} {cell : Cell} {value : Value}
    (read : kind.readCell cell = .ok value) : kind.Fits value := by
  unfold readCell readWith at read
  cases kind <;> simp only at read <;> split at read
  all_goals first | (cases read; exact .inl rfl) | skip
  all_goals try split at read
  all_goals first | contradiction | (cases read; exact .inr (by constructor))

namespace Entity

variable {entity : Entity}

theorem readColumns_fits {stored : StoredRow} {fields : List Field} {record result : Record}
    (known : ∀ field ∈ fields, entity.field? field.name = some field) (fits : entity.Fits record)
    (read : readColumns stored fields record = .ok result) : entity.Fits result := by
  induction fields generalizing record with
  | nil => cases read; exact fits
  | cons field rest ih =>
    unfold readColumns at read
    split at read
    · next value valueRead =>
      refine ih (fun other member => known other (List.mem_cons_of_mem _ member)) ?_ read
      exact fits.insert_field (known field List.mem_cons_self) (FieldKind.readCell_fits valueRead)
    · contradiction

theorem load_fits (wellFormed : entity.WellFormed) {stored : StoredRow} {record : Record}
    (loads : entity.load stored = .ok record) : entity.Fits record :=
  readColumns_fits (fun _ member => wellFormed.field?_of_mem member) entity.fits_empty loads

end Entity

end RecordStore
