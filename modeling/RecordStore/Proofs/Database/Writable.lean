import RecordStore.Proofs.Database.Fragments
import RecordStore.Proofs.RoundTrip.Decimals
import RecordStore.Proofs.RoundTrip.Moments
import RecordStore.Proofs.RoundTrip.Values
import RecordStore.Proofs.Typing.Completeness
import RecordStore.Sql.Cell

/-! # What can be written as a statement

A statement ends at its first NUL, and a number in it is finite.  `Entity.IsWritable` says so of
everything in an entity that becomes part of a statement.

An entity that is declared with neither a NUL in its names nor in the texts among its defaults is
writable: `Entity.declare_isWritable`.  Numbers and moments have no NUL in their texts, a text is
taken for a value of text only as it is, and no declared default is infinite.
-/

namespace RecordStore

/-- Whether a parameter can be written out: a number is finite, and a text has no NUL. -/
def Parameter.IsWritable : Parameter → Prop
  | .real x => x.isFinite = true
  | .text s => IsNulFree s
  | _ => True

/-- Whether the definition of a column can be written. -/
def Field.IsWritable (field : Field) : Prop :=
  IsNulFree field.name ∧
    ∀ value, field.default? = some (.literal value) → value.parameter.IsWritable

/-- Whether the statement that creates a table can be written. -/
structure Entity.IsWritable (entity : Entity) : Prop where
  name : IsNulFree entity.name
  fields : ∀ field ∈ entity.fields, field.IsWritable
  identity : ∀ name ∈ entity.identity, IsNulFree name

/-! ## Texts -/

theorem isNulFree_toString (n : Int) : IsNulFree (toString n) := by
  rw [IsNulFree, toList_toString_int]
  have digits : IsNumeral (Nat.toDigits 10 n.natAbs) :=
    .whole Nat.toDigits_ne_nil (toDigits_spec n.natAbs).2
  by_cases negative : n < 0 <;> simpa [negative] using digits.ne_nul

theorem Decimal.isNumeral_renderUnsigned (x : Decimal) : IsNumeral x.renderUnsigned := by
  unfold renderUnsigned
  split
  · exact .whole Nat.toDigits_ne_nil (toDigits_spec x.magnitude).2
  · have areDigits := Timestamp.isDigit_of_mem_padded (x.scale + 1) x.magnitude
    exact .fraction x.whole_ne_nil (fun c member => areDigits c (List.mem_of_mem_take member))
      (fun c member => areDigits c (List.mem_of_mem_drop member))

theorem Decimal.isNulFree_text (x : Decimal) : IsNulFree x.text := by
  rw [IsNulFree, text, String.toList_ofList, render_eq]
  cases x.negative <;> simpa using x.isNumeral_renderUnsigned.ne_nul

theorem Timestamp.isNulFree_text (t : Timestamp) : IsNulFree t.text := by
  have digits : ∀ width n, '\x00' ∉ padded width n := fun width n nul =>
    absurd (isDigit_of_mem_padded width n _ nul) (by decide)
  have year : '\x00' ∉ renderYear t.date.year := by
    unfold renderYear
    split_ifs <;> simp [digits]
  simp [IsNulFree, text, render, digits, year]

/-- The text of a default that may hold anything. -/
def Default.freeText? : Default → Option String
  | .literal (.string text) => some text
  | .literal (.enumeration text) => some text
  | _ => none

/-- Whether a field that is to be declared has no NUL in its name nor in its default. -/
def Field.IsNulFree (field : Field) : Prop :=
  RecordStore.IsNulFree field.name ∧
    ∀ text ∈ field.default?.bind Default.freeText?, RecordStore.IsNulFree text

instance (field : Field) : Decidable field.IsNulFree := inferInstanceAs (Decidable (_ ∧ _))

theorem Value.isNulFree_toJson {value : Value}
    (free : ∀ text ∈ (Default.literal value).freeText?, IsNulFree text) {text : String}
    (isText : value.toJson = .str text) : IsNulFree text := by
  cases value with
  | bigInt n =>
    cases isText
    exact isNulFree_toString _
  | decimal x =>
    cases isText
    exact x.isNulFree_text
  | dateTime t =>
    cases isText
    exact t.isNulFree_text
  | string s | enumeration s =>
    cases isText
    exact free _ rfl
  | float x =>
    rw [toJson, Json.number] at isText
    split at isText <;> contradiction
  | _ => contradiction

/-- A text is read only from the same text. -/
theorem Value.eq_str_of_coerce {kind : FieldKind} {raw : Json} {value : Value} {text : String}
    (coerced : coerce kind raw = .ok value)
    (isText : (Default.literal value).freeText? = some text) : raw = .str text := by
  cases null : raw.isNull with
  | true =>
    cases raw <;> cases null
    cases coerced
    contradiction
  | false =>
    cases coerce_holds null coerced with
    | string s =>
      cases raw with
      | str other =>
        cases coerced
        cases isText
        rfl
      | _ => contradiction
    | enumeration variants s =>
      cases raw with
      | str other =>
        simp only [coerce] at coerced
        split at coerced <;> cases coerced
        cases isText
        rfl
      | _ => contradiction
    | _ => contradiction

/-! ## Declared entities -/

theorem Field.checkDefault_isWritable {field : Field} {value : Value} (free : field.IsNulFree)
    (checked : field.checkDefault = .ok (some (.literal value))) :
    value.parameter.IsWritable := by
  have admits := Field.checkDefault_admits checked
  have stays : ∀ text, (Default.literal value).freeText? = some text →
      RecordStore.IsNulFree text := by
    intro text isText
    unfold checkDefault at checked
    repeat' split at checked
    all_goals cases checked
    -- Only a literal that is coerced gives a literal.
    next given isGiven _ coerced _ =>
    refine Value.isNulFree_toJson ?_ (Value.eq_str_of_coerce coerced isText)
    intro text isText
    exact free.2 text (by rw [isGiven]; exact isText)
  cases value with
  | string s | enumeration s => exact stays s rfl
  | decimal x => exact x.isNulFree_text
  | dateTime t => exact t.isNulFree_text
  | float x =>
    rcases admits with ⟨isNull, -⟩ | admits
    · contradiction
    · generalize field.kind = kind at admits
      cases admits
      assumption
  | _ => trivial

theorem Entity.checkFields_isWritable {name : String} {seen : List String}
    {fields checked : List Field} (free : ∀ field ∈ fields, field.IsNulFree)
    (accepted : checkFields name seen fields = .ok checked) :
    checked.map (·.name) = fields.map (·.name) ∧ ∀ field ∈ checked, field.IsWritable := by
  induction fields generalizing seen checked with
  | nil =>
    cases accepted
    simp
  | cons field rest ih =>
    simp only [checkFields, check_eq_ok, bind_eq_ok, mapError_eq_ok, pure_eq_ok] at accepted
    obtain ⟨-, default?, checked, later, restChecked, rfl⟩ := accepted
    obtain ⟨firstFree, restFree⟩ := List.forall_mem_cons.1 free
    obtain ⟨names, writable⟩ := ih restFree restChecked
    rw [List.map_cons, List.map_cons, names, List.forall_mem_cons]
    refine ⟨rfl, ⟨firstFree.1, ?_⟩, writable⟩
    rintro value rfl
    exact Field.checkDefault_isWritable firstFree checked

/-- What is declared without NUL can be written as a statement. -/
theorem Entity.declare_isWritable {name : String} {fields : List Field} {identity : List String}
    {entity : Entity} (declared : declare name fields identity = .ok entity)
    (nameFree : IsNulFree name) (fieldsFree : ∀ field ∈ fields, field.IsNulFree) :
    entity.IsWritable ∧ entity.name = name ∧ entity.fieldNames = fields.map (·.name) ∧
      entity.identity = identity := by
  have identityFields := (declare_wellFormed declared).identity_fields
  simp only [declare, check_eq_ok, bind_eq_ok, pure_eq_ok] at declared
  obtain ⟨checked, fieldsChecked, -, _, -, rfl⟩ := declared
  obtain ⟨names, writable⟩ := checkFields_isWritable fieldsFree fieldsChecked
  refine ⟨⟨nameFree, writable, fun name member => ?_⟩, rfl, names, rfl⟩
  obtain ⟨field, found, -⟩ := identityFields name member
  obtain ⟨isField, rfl⟩ := mem_of_field? found
  exact (writable field isField).1

end RecordStore
