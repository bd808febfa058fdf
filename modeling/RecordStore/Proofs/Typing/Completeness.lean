import RecordStore.Proofs.Typing.Admission

/-! # Rows are complete

A row is well typed if it has the fields of its entity and no others, each with a value that the field
admits.  A new row gets there in three steps, and each adds fields that the ones before have left open:
the payload gives every field that has to be given, the defaults fill in what can be filled in without
the table, and the table numbers the rest.

* `newRow_wellTyped`, `Changes.apply_wellTyped` are what a table needs of insertions and changes.
* `complete_of_wellTyped` says that nothing is left to be completed where such a row is shown.
-/

namespace RecordStore

/-- Whether a field that is not given is filled in without the table. -/
def Field.isFilled (field : Field) : Bool :=
  match field.default? with
  | some .autoIncrement => false
  | some _ => true
  | none => field.nullable

theorem FieldMap.contains_insert {α : Type} (m : FieldMap α) (name : String) (value : α)
    (other : String) :
    (m.insert name value).contains other = true ↔ other = name ∨ m.contains other = true := by
  unfold contains
  rw [get?_insert]
  by_cases same : other = name <;> simp [same]

/-! ## Rows -/

namespace Entity

/-- Whether a row has only fields of an entity, each with a value that the field admits. -/
def Allows (entity : Entity) (record : Record) : Prop :=
  ∀ name value, record.get? name = some value →
    ∃ field, entity.field? name = some field ∧ field.Admits value

/-- Whether a row has exactly the fields of an entity, each with a value that the field admits. -/
structure WellTyped (entity : Entity) (record : Record) : Prop where
  names : ∀ name, record.contains name = true ↔ name ∈ entity.fieldNames
  admits : ∀ field ∈ entity.fields, field.Admits (record.valueAt field.name)

variable {entity : Entity} {record : Record} {field : Field}

theorem allows_empty (entity : Entity) : entity.Allows .empty := by
  intro name value bound
  contradiction

theorem Allows.insert (allows : entity.Allows record) {name : String} {field : Field}
    (found : entity.field? name = some field) {value : Value} (admits : field.Admits value) :
    entity.Allows (record.insert name value) := by
  intro other otherValue bound
  rw [FieldMap.get?_insert] at bound
  split at bound
  · next same =>
    cases bound
    exact ⟨field, same ▸ found, admits⟩
  · exact allows other otherValue bound

theorem mem_fieldNames {name : String} :
    name ∈ entity.fieldNames ↔ ∃ field ∈ entity.fields, field.name = name := List.mem_map

theorem Allows.wellTyped (wellFormed : entity.WellFormed) (allows : entity.Allows record)
    (complete : ∀ field ∈ entity.fields, record.contains field.name = true) :
    entity.WellTyped record where
  names name := by
    rw [mem_fieldNames]
    constructor
    · intro present
      obtain ⟨value, bound⟩ := Option.isSome_iff_exists.1 present
      obtain ⟨field, found, -⟩ := allows name value bound
      exact ⟨field, mem_of_field? found⟩
    · rintro ⟨field, member, rfl⟩
      exact complete field member
  admits field member := by
    obtain ⟨value, bound⟩ := Option.isSome_iff_exists.1 (complete field member)
    obtain ⟨other, found, admits⟩ := allows field.name value bound
    rw [wellFormed.field?_of_mem member, Option.some.injEq] at found
    rw [FieldMap.valueAt, bound, Option.getD_some, found]
    exact admits

theorem WellTyped.allows (wellFormed : entity.WellFormed) (wellTyped : entity.WellTyped record) :
    entity.Allows record := by
  intro name value bound
  have present : record.contains name = true := Option.isSome_iff_exists.2 ⟨value, bound⟩
  obtain ⟨field, member, rfl⟩ := mem_fieldNames.1 ((wellTyped.names name).1 present)
  have admits := wellTyped.admits field member
  rw [FieldMap.valueAt, bound, Option.getD_some] at admits
  exact ⟨field, wellFormed.field?_of_mem member, admits⟩

/-! ## Rows that are shown -/

/-- A row that is well typed is shown as it is. -/
theorem complete_of_wellTyped (wellTyped : entity.WellTyped record) :
    entity.complete record = record := by
  have known : record.filter (fun name _ => (entity.field? name).isSome) = record := by
    refine FieldMap.ext fun name => ?_
    rw [FieldMap.get?_filter]
    cases bound : record.get? name with
    | none => rfl
    | some value =>
      have present : record.contains name = true := Option.isSome_iff_exists.2 ⟨value, bound⟩
      obtain ⟨field, member, same⟩ := mem_fieldNames.1 ((wellTyped.names name).1 present)
      have found : (entity.field? name).isSome = true := by
        simpa [field?] using ⟨field, member, same⟩
      simp [Option.filter, found]
  unfold complete
  rw [known]
  refine List.foldlRecOn (motive := (· = record)) _ _ rfl ?_
  rintro _ rfl field member
  rw [if_pos ((wellTyped.names field.name).2 (mem_fieldNames.2 ⟨field, member, rfl⟩))]

/-! ## Defaults -/

/-- Whether the literal defaults of an entity are admitted by their fields. -/
def AdmitsDefaults (entity : Entity) : Prop :=
  ∀ field ∈ entity.fields, ∀ value, field.default? = some (.literal value) → field.Admits value

theorem checkFields_admits {name : String} {seen : List String} {fields checked : List Field}
    (accepted : checkFields name seen fields = .ok checked) :
    ∀ field ∈ checked, ∀ value, field.default? = some (.literal value) → field.Admits value := by
  induction fields generalizing seen checked with
  | nil => cases accepted; simp
  | cons field rest ih =>
    simp only [checkFields, check_eq_ok, bind_eq_ok, mapError_eq_ok, pure_eq_ok] at accepted
    obtain ⟨-, default?, checked, later, restChecked, rfl⟩ := accepted
    rw [List.forall_mem_cons]
    refine ⟨?_, ih restChecked⟩
    rintro value rfl
    have admits : field.Admits value := Field.checkDefault_admits checked
    exact admits

theorem declare_admitsDefaults {name : String} {fields : List Field} {identity : List String}
    {entity : Entity} (declared : declare name fields identity = .ok entity) :
    entity.AdmitsDefaults := by
  simp only [declare, check_eq_ok, bind_eq_ok, pure_eq_ok] at declared
  obtain ⟨checked, fieldsChecked, -, _, -, rfl⟩ := declared
  exact checkFields_admits fieldsChecked

/-- What a row that is about to be stored takes for one field. -/
def fillField (now : Readings) (record : Record) (field : Field) : Record :=
  if record.contains field.name then record
  else
    match field.default? with
    | some (.literal value) => record.insert field.name value
    | some .now => record.insert field.name (.dateTime (now.ofField field.name))
    | some .autoIncrement => record
    | none => if field.nullable then record.insert field.name .null else record

theorem fillDefaults_eq (entity : Entity) (now : Readings) (record : Record) :
    entity.fillDefaults now record = entity.fields.foldl (fillField now) record := rfl

theorem allows_fillField (found : entity.field? field.name = some field)
    (defaultFits : field.DefaultFits)
    (literal : ∀ value, field.default? = some (.literal value) → field.Admits value)
    (now : Readings) (allows : entity.Allows record) :
    entity.Allows (fillField now record field) := by
  unfold Field.DefaultFits at defaultFits
  unfold fillField
  split
  · exact allows
  · cases default : field.default? with
    | none =>
      simp only
      split
      · next nullable => exact allows.insert found (.inl ⟨rfl, nullable⟩)
      · exact allows
    | some given =>
      rw [default] at defaultFits
      cases given with
      | literal value => exact allows.insert found (literal value default)
      | autoIncrement => exact allows
      | now =>
        refine allows.insert found (.inr ?_)
        rw [defaultFits]
        exact .dateTime (now.ofField field.name)

theorem contains_fillField (now : Readings) (record : Record) (field : Field) (name : String) :
    (fillField now record field).contains name = true ↔
      record.contains name = true ∨ name = field.name ∧ field.isFilled = true := by
  unfold fillField Field.isFilled
  split
  · next given =>
    constructor
    · exact .inl
    · rintro (present | ⟨rfl, -⟩)
      · exact present
      · exact given
  · cases field.default? with
    | none =>
      simp only
      split <;> next nullable => simp [FieldMap.contains_insert, nullable, or_comm]
    | some given => cases given <;> simp [FieldMap.contains_insert, or_comm]

theorem contains_fillFields (now : Readings) (fields : List Field) (record : Record)
    (name : String) :
    (fields.foldl (fillField now) record).contains name = true ↔
      record.contains name = true ∨ ∃ field ∈ fields, name = field.name ∧ field.isFilled = true := by
  induction fields generalizing record with
  | nil => simp
  | cons field rest ih =>
    rw [List.foldl_cons, ih, contains_fillField, or_assoc]
    simp only [List.mem_cons, exists_eq_or_imp]

end Entity

/-! ## Insertions -/

theorem payloadEntries_proper {raw : Json} {entries : List (String × Json)} (proper : raw.Proper)
    (read : payloadEntries raw = .ok entries) : ∀ entry ∈ entries, entry.2.Proper := by
  cases proper with
  | obj each => cases read; exact each
  | _ => contradiction

namespace Insertion

variable {entity : Entity} {insertion : Insertion}

theorem readEntries_allows {entries : List (String × Json)}
    (proper : ∀ entry ∈ entries, entry.2.Proper) {given result : Record}
    (allows : entity.Allows given) (read : readEntries entity entries given = .ok result) :
    entity.Allows result := by
  induction entries generalizing given with
  | nil => cases read; exact allows
  | cons entry rest ih =>
    obtain ⟨name, raw⟩ := entry
    obtain ⟨rawProper, restProper⟩ := List.forall_mem_cons.1 proper
    simp only [readEntries, bind_eq_ok, Entity.knownField_eq_ok] at read
    obtain ⟨field, known, value, valueRead, read⟩ := read
    exact ih restProper (allows.insert known (Field.readValue_admits rawProper valueRead)) read

/-- A payload gives only what fields admit, and every field that has to be given. -/
theorem read_allows {raw : Json} (proper : raw.Proper)
    (read : Insertion.read entity raw = .ok insertion) :
    entity.Allows insertion.given ∧
      ∀ field ∈ entity.fields, field.isRequired = true →
        insertion.given.contains field.name = true := by
  simp only [Insertion.read, bind_eq_ok] at read
  obtain ⟨entries, entriesRead, given, givenRead, read⟩ := read
  split at read
  · contradiction
  · next noneMissing =>
    cases read
    refine ⟨readEntries_allows (payloadEntries_proper proper entriesRead) entity.allows_empty
      givenRead, fun field member required => ?_⟩
    have present := List.find?_eq_none.1 noneMissing field member
    simpa [required] using present

theorem integral_of_pending (wellFormed : entity.WellFormed) :
    ∀ name ∈ insertion.pendingNumbers entity, ∃ field,
      entity.field? name = some field ∧ (field.kind = .int ∨ field.kind = .bigInt) := by
  intro name pending
  obtain ⟨field, member, ⟨numbered, -⟩, rfl⟩ := mem_pendingNumbers.1 pending
  have default := wellFormed.defaults_fit field member
  rw [Field.DefaultFits, numbered] at default
  exact ⟨field, wellFormed.field?_of_mem member, default⟩

end Insertion

/-! ## Numbered fields -/

namespace Table

variable {entity : Entity} {rows : Table} {names : List String}

theorem assignNumbers_allows
    (numbered : ∀ name ∈ names, ∃ field, entity.field? name = some field ∧
      (field.kind = .int ∨ field.kind = .bigInt))
    {row result : Record} (allows : entity.Allows row)
    (assigned : assignNumbers entity rows names row = .ok result) :
    entity.Allows result ∧ ∀ name, result.contains name = true ↔
      row.contains name = true ∨ name ∈ names := by
  induction names generalizing row with
  | nil => cases assigned; simpa using allows
  | cons name rest ih =>
    obtain ⟨⟨field, found, kind⟩, restNumbered⟩ := List.forall_mem_cons.1 numbered
    unfold assignNumbers at assigned
    split at assigned
    · contradiction
    · next value next =>
      have held := nextNumber_holds found kind next
      have admits : field.kind.Admits value := by
        refine held.admits ?_ ?_
        · rintro x rfl
          rcases kind with kind | kind <;> rw [kind] at held <;> cases held
        · intro variants s isEnumeration
          rcases kind with kind | kind <;> rw [kind] at isEnumeration <;> cases isEnumeration
      obtain ⟨after, contains⟩ := ih restNumbered (allows.insert found (.inr admits)) assigned
      refine ⟨after, fun other => ?_⟩
      rw [contains, FieldMap.contains_insert, List.mem_cons]
      tauto

theorem newRow_wellTyped (wellFormed : entity.WellFormed) (defaults : entity.AdmitsDefaults)
    {now : Readings} {insertion : Insertion} {row : Record}
    (allows : entity.Allows insertion.given)
    (given : ∀ field ∈ entity.fields, field.isRequired = true →
      insertion.given.contains field.name = true)
    (new : newRow entity now insertion rows = .ok row) : entity.WellTyped row := by
  have filled : entity.Allows (insertion.withDefaults entity now) := by
    refine List.foldlRecOn (motive := entity.Allows) _ _ allows ?_
    intro record before field member
    exact Entity.allows_fillField (wellFormed.field?_of_mem member)
      (wellFormed.defaults_fit field member) (defaults field member) now before
  obtain ⟨rowAllows, contains⟩ :=
    assignNumbers_allows (Insertion.integral_of_pending wellFormed) filled new
  refine rowAllows.wellTyped wellFormed fun field member => ?_
  rw [contains, Insertion.withDefaults, Entity.fillDefaults_eq, Entity.contains_fillFields]
  -- A field is given, or filled in, or numbered; there is no fourth kind.
  by_cases present : insertion.given.contains field.name = true
  · exact .inl (.inl present)
  · cases default : field.default? with
    | none =>
      have nullable : field.nullable = true := by
        by_contra required
        exact present (given field member (by simp [Field.isRequired, required, default]))
      exact .inl (.inr ⟨field, member, rfl, by simp [Field.isFilled, default, nullable]⟩)
    | some kind =>
      cases kind with
      | autoIncrement =>
        exact .inr (Insertion.mem_pendingNumbers.2
          ⟨field, member, ⟨default, by simpa using present⟩, rfl⟩)
      | literal | now =>
        exact .inl (.inr ⟨field, member, rfl, by simp [Field.isFilled, default]⟩)

end Table

/-! ## Changes -/

/-- Whether a change gives a field only values that it admits. -/
def Change.Suits (field : Field) : Change → Prop
  | .set value => field.Admits value
  | .relative _ operand => field.kind.Holds operand

/-- Whether an update changes only fields of an entity, each to values that the field admits. -/
def Changes.Suit (entity : Entity) (changes : Changes) : Prop :=
  ∀ name change, changes.byField.get? name = some change →
    ∃ field, entity.field? name = some field ∧ change.Suits field

theorem Arithmetic.onDouble?_isFinite {op : Arithmetic} {x y z : Double}
    (computed : op.onDouble? x y = some z) : z.isFinite = true := by
  unfold onDouble? at computed
  exact (Option.filter_eq_some_iff.1 computed).2

theorem Value.arithmetic?_admits {field : Field} {op : Arithmetic} {current operand result : Value}
    (admits : field.Admits current) (operandHeld : field.kind.Holds operand)
    (computed : Value.arithmetic? op current operand = some result) : field.Admits result := by
  rcases admits with ⟨rfl, nullable⟩ | admits
  · cases computed
    exact .inl ⟨rfl, nullable⟩
  · refine .inr ?_
    generalize field.kind = kind at admits operandHeld ⊢
    cases admits <;> cases operandHeld <;>
      simp only [arithmetic?, Option.map_eq_some_iff, reduceCtorEq] at computed
    all_goals obtain ⟨content, arithmetic, rfl⟩ := computed
    case float => exact .float (Arithmetic.onDouble?_isFinite arithmetic)
    all_goals constructor

theorem Change.apply_admits {field : Field} {change : Change} {name : String}
    {current result : Value} (suits : change.Suits field) (admits : field.Admits current)
    (applied : change.apply name current = .ok result) : field.Admits result := by
  cases change with
  | set value => cases applied; exact suits
  | relative op operand =>
    simp only [Change.apply] at applied
    split at applied
    · next computed =>
      cases applied
      exact Value.arithmetic?_admits admits suits computed
    · contradiction

namespace Changes

variable {entity : Entity}

theorem applyFrom_allows {before row result : Record} {entries : List (String × Change)}
    (suit : ∀ entry ∈ entries, ∃ field, entity.field? entry.1 = some field ∧ entry.2.Suits field)
    (wellTyped : entity.WellTyped before) (allows : entity.Allows row)
    (applied : applyFrom before entries row = .ok result) :
    entity.Allows result ∧ ∀ name, row.contains name = true → result.contains name = true := by
  induction entries generalizing row with
  | nil => cases applied; exact ⟨allows, fun _ present => present⟩
  | cons entry rest ih =>
    obtain ⟨name, change⟩ := entry
    obtain ⟨⟨field, found, suits⟩, restSuit⟩ := List.forall_mem_cons.1 suit
    unfold applyFrom at applied
    split at applied
    · contradiction
    · next value changed =>
      obtain ⟨member, rfl⟩ := Entity.mem_of_field? found
      have admits := change.apply_admits suits (wellTyped.admits field member) changed
      obtain ⟨after, kept⟩ := ih restSuit (allows.insert found admits) applied
      exact ⟨after, fun other present =>
        kept other ((FieldMap.contains_insert row _ value other).2 (.inr present))⟩

theorem apply_wellTyped (wellFormed : entity.WellFormed) {changes : Changes}
    (suit : changes.Suit entity) {row result : Record} (wellTyped : entity.WellTyped row)
    (applied : changes.apply row = .ok result) : entity.WellTyped result := by
  have entriesSuit : ∀ entry ∈ changes.byField.entries,
      ∃ field, entity.field? entry.1 = some field ∧ entry.2.Suits field :=
    fun entry member => suit entry.1 entry.2 (FieldMap.get?_eq_some.2 member)
  obtain ⟨allows, kept⟩ :=
    applyFrom_allows entriesSuit wellTyped (wellTyped.allows wellFormed) applied
  refine allows.wellTyped wellFormed fun field member => kept _ ?_
  exact (wellTyped.names field.name).2 (Entity.mem_fieldNames.2 ⟨field, member, rfl⟩)

/-! ## Changes that have been read -/

theorem readOperation_suits {field : Field} {operators : List (String × Json)} {change : Change}
    (proper : ∀ entry ∈ operators, entry.2.Proper)
    (read : readOperation field operators = .ok change) : change.Suits field := by
  unfold readOperation at read
  split at read
  · next name raw =>
    have rawProper : raw.Proper := proper _ List.mem_cons_self
    split at read
    · simp only [bind_eq_ok, pure_eq_ok] at read
      obtain ⟨value, valueRead, rfl⟩ := read
      exact Field.readValue_admits rawProper valueRead
    · split at read
      · contradiction
      · simp only [check_eq_ok, bind_eq_ok, pure_eq_ok, Bool.not_eq_true] at read
        obtain ⟨-, present, operand, operandRead, -, rfl⟩ := read
        exact Field.readValue_holds present operandRead
  · contradiction

theorem readChange_suits {field : Field} {raw : Json} {change : Change} (proper : raw.Proper)
    (read : readChange field raw = .ok change) : change.Suits field := by
  unfold readChange at read
  split at read
  · cases proper with
    | obj each => exact readOperation_suits each read
  · simp only [bind_eq_ok, pure_eq_ok] at read
    obtain ⟨value, valueRead, rfl⟩ := read
    exact Field.readValue_admits proper valueRead

theorem readAny_suit {raw : Json} (proper : raw.Proper) {changes : Changes}
    (read : readAny entity raw = .ok changes) : changes.Suit entity :=
  readAny_each (P := fun field change => change.Suits field)
    (fun _ entriesRead entry member _ _ =>
      readChange_suits (payloadEntries_proper proper entriesRead entry member)) read

end Changes

end RecordStore
