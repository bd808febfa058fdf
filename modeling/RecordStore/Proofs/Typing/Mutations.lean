import RecordStore.Proofs.Typing.Rows
import RecordStore.Request.Operation

/-! # Mutations keep rows fitting

What a payload gives to a row, and what it does to one, fits the fields that it names: insertions,
changes and addresses carry values of the right kinds once they have been read.  `newRow_fits` and
`Changes.apply_fits` are what a table needs of them: a new row fits, and a changed row fits if the row
before did.
-/

namespace RecordStore

theorem Entity.knownField_eq_ok {entity : Entity} {name : String} {field : Field} :
    entity.knownField name = .ok field ↔ entity.field? name = some field := by
  unfold knownField
  cases entity.field? name <;> simp

/-! ## Insertions -/

namespace Insertion

theorem readEntries_fits {entity : Entity} {entries : List (String × Json)} {given result : Record}
    (fits : entity.Fits given) (read : readEntries entity entries given = .ok result) :
    entity.Fits result := by
  induction entries generalizing given with
  | nil => cases read; exact fits
  | cons entry rest ih =>
    obtain ⟨name, raw⟩ := entry
    simp only [readEntries, bind_eq_ok, Entity.knownField_eq_ok] at read
    obtain ⟨field, known, value, valueRead, read⟩ := read
    refine ih (fits.insert ?_) read
    intro other found
    rw [known, Option.some.injEq] at found
    exact found ▸ Field.readValue_fits valueRead

theorem read_fits {entity : Entity} {raw : Json} {insertion : Insertion}
    (read : Insertion.read entity raw = .ok insertion) : entity.Fits insertion.given := by
  simp only [Insertion.read, bind_eq_ok] at read
  obtain ⟨entries, _, given, givenRead, read⟩ := read
  split at read
  · contradiction
  · cases read
    exact readEntries_fits entity.fits_empty givenRead

theorem mem_pendingNumbers {entity : Entity} {insertion : Insertion} {name : String} :
    name ∈ insertion.pendingNumbers entity ↔ ∃ field ∈ entity.fields,
      (field.default? = some .autoIncrement ∧ insertion.given.contains field.name = false) ∧
        field.name = name := by
  simp only [pendingNumbers, List.mem_map, List.mem_filter, Bool.and_eq_true, decide_eq_true_eq,
    Bool.not_eq_true', and_assoc]

/-- The fields that are left to the store are numbered. -/
theorem numbered_of_pending {entity : Entity} (wellFormed : entity.WellFormed)
    {insertion : Insertion} {name : String} (pending : name ∈ insertion.pendingNumbers entity)
    {field : Field} (found : entity.field? name = some field) :
    field.default? = some .autoIncrement := by
  obtain ⟨declared, member, ⟨numbered, -⟩, rfl⟩ := mem_pendingNumbers.1 pending
  rw [wellFormed.field?_of_mem member, Option.some.injEq] at found
  exact found ▸ numbered

end Insertion

/-! ## Numbered fields -/

namespace Table

theorem nextNumber_holds {entity : Entity} {rows : Table} {name : String} {field : Field}
    {value : Value}
    (found : entity.field? name = some field) (numbered : field.kind = .int ∨ field.kind = .bigInt)
    (next : nextNumber entity rows name = .ok value) : field.kind.Holds value := by
  unfold nextNumber at next
  rw [found] at next
  rcases numbered with kind | kind <;> simp only [Option.map_some, kind] at next <;>
    split at next
  · rename_i number
    obtain ⟨n, -, rfl⟩ := Option.map_eq_some_iff.1 number
    cases next
    exact kind ▸ .int n
  · contradiction
  · rename_i number
    obtain ⟨n, -, rfl⟩ := Option.map_eq_some_iff.1 number
    cases next
    exact kind ▸ .bigInt n
  · contradiction

theorem assignNumbers_fits {entity : Entity} {rows : Table} {names : List String}
    {row result : Record}
    (numbered : ∀ name ∈ names, ∀ field, entity.field? name = some field →
      field.kind = .int ∨ field.kind = .bigInt)
    (fits : entity.Fits row) (assigned : assignNumbers entity rows names row = .ok result) :
    entity.Fits result := by
  induction names generalizing row with
  | nil => cases assigned; exact fits
  | cons name rest ih =>
    unfold assignNumbers at assigned
    split at assigned
    · contradiction
    · rename_i value next
      refine ih (fun other member => numbered other (List.mem_cons_of_mem _ member))
        (fits.insert ?_) assigned
      intro field found
      exact (nextNumber_holds found (numbered name List.mem_cons_self field found) next).fits

theorem newRow_fits {entity : Entity} (wellFormed : entity.WellFormed) {now : Readings}
    {insertion : Insertion} {rows : Table} {row : Record} (fits : entity.Fits insertion.given)
    (new : newRow entity now insertion rows = .ok row) : entity.Fits row := by
  refine assignNumbers_fits ?_ (Entity.fillDefaults_fits wellFormed now fits) new
  -- The fields left pending are those numbered by the store, and these are integers.
  intro name pending field found
  have numbered := Insertion.numbered_of_pending wellFormed pending found
  have default := wellFormed.defaults_fit field (Entity.mem_of_field? found).1
  rwa [Field.DefaultFits, numbered] at default

end Table

/-! ## Changes -/

/-- Whether a change keeps a field of a kind within the kind. -/
def Change.Fits (kind : FieldKind) : Change → Prop
  | .set value => kind.Fits value
  | .relative _ operand => kind.Holds operand

/-- Whether a change is as it is read for a field: it fits, and if it is arithmetic, the field is one of
numbers and is not divided by zero. -/
def Change.Sound (field : Field) : Change → Prop
  | .set value => field.kind.Fits value
  | .relative op operand => field.kind.Holds operand ∧ field.kind.isNumeric = true ∧
      (op = .divide → Changes.isZeroValue operand = false)

theorem Change.Sound.fits {field : Field} {change : Change} (sound : change.Sound field) :
    change.Fits field.kind := by
  cases change with
  | set value => exact sound
  | relative op operand => exact sound.1

/-- Whether every change of an update fits the field that it changes. -/
def Changes.Fits (entity : Entity) (changes : Changes) : Prop :=
  ∀ name change field, changes.byField.get? name = some change → entity.field? name = some field →
    change.Fits field.kind

/-- Arithmetic stays within one kind. -/
theorem Value.arithmetic?_holds {kind : FieldKind} {op : Arithmetic} {current operand result : Value}
    (currentHeld : kind.Holds current) (operandHeld : kind.Holds operand)
    (computed : Value.arithmetic? op current operand = some result) : kind.Holds result := by
  cases currentHeld <;> cases operandHeld <;>
    simp only [arithmetic?, Option.map_eq_some_iff, reduceCtorEq] at computed
  -- What is left are the results of the four number kinds.
  all_goals
    obtain ⟨content, -, rfl⟩ := computed
    constructor

theorem Value.arithmetic?_fits {kind : FieldKind} {op : Arithmetic} {current operand result : Value}
    (currentFits : kind.Fits current) (operandHeld : kind.Holds operand)
    (computed : Value.arithmetic? op current operand = some result) : kind.Fits result := by
  rcases currentFits with rfl | held
  · cases computed
    exact kind.fits_null
  · exact (Value.arithmetic?_holds held operandHeld computed).fits

theorem Change.apply_fits {kind : FieldKind} {change : Change} {name : String}
    {current result : Value}
    (changeFits : change.Fits kind) (currentFits : kind.Fits current)
    (applied : change.apply name current = .ok result) : kind.Fits result := by
  cases change with
  | set value => cases applied; exact changeFits
  | relative op operand =>
    simp only [Change.apply] at applied
    split at applied
    · rename_i value computed
      cases applied
      exact Value.arithmetic?_fits currentFits changeFits computed
    · contradiction

namespace Changes

theorem applyFrom_fits {entity : Entity} {before row result : Record}
    {entries : List (String × Change)}
    (entriesFit : ∀ entry ∈ entries, ∀ field, entity.field? entry.1 = some field →
      entry.2.Fits field.kind)
    (beforeFits : entity.Fits before) (rowFits : entity.Fits row)
    (applied : applyFrom before entries row = .ok result) : entity.Fits result := by
  induction entries generalizing row with
  | nil => cases applied; exact rowFits
  | cons entry rest ih =>
    obtain ⟨name, change⟩ := entry
    unfold applyFrom at applied
    split at applied
    · contradiction
    · rename_i value changed
      refine ih (fun other member => entriesFit other (List.mem_cons_of_mem _ member))
        (rowFits.insert ?_) applied
      intro field found
      exact change.apply_fits (entriesFit _ List.mem_cons_self field found)
        (beforeFits name field found) changed

theorem apply_fits {entity : Entity} {changes : Changes} {row result : Record}
    (changesFit : changes.Fits entity) (rowFits : entity.Fits row)
    (applied : changes.apply row = .ok result) : entity.Fits result :=
  applyFrom_fits (fun entry member field found =>
    changesFit entry.1 entry.2 field (FieldMap.get?_eq_some.2 member) found) rowFits rowFits applied

theorem readOperation_sound {field : Field} {operators : List (String × Json)} {change : Change}
    (read : readOperation field operators = .ok change) : change.Sound field := by
  unfold readOperation at read
  split at read
  · split at read
    · simp only [bind_eq_ok, pure_eq_ok] at read
      obtain ⟨value, valueRead, rfl⟩ := read
      exact Field.readValue_fits valueRead
    · split at read
      · contradiction
      · simp only [check_eq_ok, bind_eq_ok, pure_eq_ok, Bool.not_eq_true, Bool.not_eq_eq_eq_not,
          Bool.not_true, Bool.not_eq_false] at read
        obtain ⟨numeric, present, operand, operandRead, divisor, rfl⟩ := read
        refine ⟨Field.readValue_holds present operandRead, numeric, ?_⟩
        rintro rfl
        simpa using divisor
  · contradiction

theorem readChange_sound {field : Field} {raw : Json} {change : Change}
    (read : readChange field raw = .ok change) : change.Sound field := by
  unfold readChange at read
  split at read
  · exact readOperation_sound read
  · simp only [bind_eq_ok, pure_eq_ok] at read
    obtain ⟨value, valueRead, rfl⟩ := read
    exact Field.readValue_fits valueRead

/-- What holds of every change that is read for a field, holds of every change of an update. -/
theorem readEntries_each {entity : Entity} {P : Field → Change → Prop}
    {entries : List (String × Json)}
    (each : ∀ entry ∈ entries, ∀ field change, readChange field entry.2 = .ok change → P field change)
    {changes result : FieldMap Change}
    (before : ∀ name change, changes.get? name = some change →
      ∃ field, entity.field? name = some field ∧ P field change)
    (read : readEntries entity entries changes = .ok result) :
    ∀ name change, result.get? name = some change →
      ∃ field, entity.field? name = some field ∧ P field change := by
  induction entries generalizing changes with
  | nil => cases read; exact before
  | cons entry rest ih =>
    obtain ⟨name, raw⟩ := entry
    obtain ⟨first, later⟩ := List.forall_mem_cons.1 each
    simp only [readEntries, bind_eq_ok, Entity.knownField_eq_ok] at read
    obtain ⟨field, known, change, changeRead, read⟩ := read
    refine ih later ?_ read
    intro other otherChange bound
    rw [FieldMap.get?_insert] at bound
    split at bound
    · next same =>
      cases bound
      exact ⟨field, same ▸ known, first field change changeRead⟩
    · exact before other otherChange bound

theorem readAny_each {entity : Entity} {P : Field → Change → Prop} {raw : Json} {changes : Changes}
    (each : ∀ entries, payloadEntries raw = .ok entries → ∀ entry ∈ entries, ∀ field change,
      readChange field entry.2 = .ok change → P field change)
    (read : readAny entity raw = .ok changes) :
    ∀ name change, changes.byField.get? name = some change →
      ∃ field, entity.field? name = some field ∧ P field change := by
  simp only [readAny, bind_eq_ok, pure_eq_ok] at read
  obtain ⟨entries, entriesRead, byField, changesRead, rfl⟩ := read
  exact readEntries_each (each entries entriesRead) (by simp) changesRead

theorem readAny_sound {entity : Entity} {raw : Json} {changes : Changes}
    (read : readAny entity raw = .ok changes) :
    ∀ name change, changes.byField.get? name = some change →
      ∃ field, entity.field? name = some field ∧ change.Sound field :=
  readAny_each (fun _ _ _ _ _ _ changeRead => readChange_sound changeRead) read

theorem readAny_fits {entity : Entity} {raw : Json} {changes : Changes}
    (read : readAny entity raw = .ok changes) : changes.Fits entity := by
  intro name change field bound found
  obtain ⟨other, otherFound, sound⟩ := readAny_sound read name change bound
  rw [found, Option.some.injEq] at otherFound
  exact otherFound ▸ sound.fits

/-- An update that may not be empty is read as one that may. -/
theorem readAny_of_read {entity : Entity} {raw : Json} {changes : Changes}
    (read : Changes.read entity raw = .ok changes) : readAny entity raw = .ok changes := by
  simp only [Changes.read, bind_eq_ok, check_eq_ok, pure_eq_ok] at read
  obtain ⟨_, anyRead, -, rfl⟩ := read
  exact anyRead

end Changes

/-! ## Addresses -/

namespace Address

/-- Whether an address has a value, of the kind of its field, for every field of some unique key. -/
def Fits (entity : Entity) (address : Address) : Prop :=
  ∃ key ∈ entity.uniqueKeys, ∀ name ∈ key, ∃ value field,
    address.key.get? name = some value ∧ entity.field? name = some field ∧ field.kind.Holds value

theorem readEntries_holds {entity : Entity} {entries : List (String × Json)}
    {key result : FieldMap Value}
    (held : ∀ name value, key.get? name = some value →
      ∃ field, entity.field? name = some field ∧ field.kind.Holds value)
    (read : readEntries entity entries key = .ok result) :
    ∀ name value, result.get? name = some value →
      ∃ field, entity.field? name = some field ∧ field.kind.Holds value := by
  induction entries generalizing key with
  | nil => cases read; exact held
  | cons entry rest ih =>
    obtain ⟨name, raw⟩ := entry
    simp only [readEntries, bind_eq_ok, check_eq_ok, Entity.knownField_eq_ok,
      Bool.not_eq_true] at read
    obtain ⟨field, known, present, value, valueRead, read⟩ := read
    refine ih ?_ read
    intro other otherValue bound
    rw [FieldMap.get?_insert] at bound
    split at bound
    · next same =>
      refine ⟨field, same ▸ known, ?_⟩
      rw [← Option.some.inj bound]
      exact Field.readValue_holds present valueRead
    · exact held other otherValue bound

theorem read_holds {entity : Entity} {raw : Json} {address : Address}
    (read : Address.read entity raw = .ok address) :
    (∀ name value, address.key.get? name = some value →
      ∃ field, entity.field? name = some field ∧ field.kind.Holds value) ∧
    ∃ key ∈ entity.uniqueKeys, hasFieldsOf address.key key = true := by
  unfold Address.read at read
  split at read
  · simp only [bind_eq_ok] at read
    obtain ⟨key, keyRead, read⟩ := read
    split at read
    · next isKey =>
      cases read
      exact ⟨readEntries_holds (by simp) keyRead, List.any_eq_true.1 isKey⟩
    · contradiction
  · contradiction

theorem read_fits {entity : Entity} {raw : Json} {address : Address}
    (read : Address.read entity raw = .ok address) : address.Fits entity := by
  obtain ⟨held, fields, member, hasFields⟩ := read_holds read
  simp only [hasFieldsOf, Bool.and_eq_true, List.all_eq_true] at hasFields
  refine ⟨fields, member, fun name mem => ?_⟩
  obtain ⟨value, bound⟩ := FieldMap.mem_keys.1 (FieldMap.contains_iff.1 (hasFields.2 name mem))
  obtain ⟨field, known, valueHeld⟩ := held name value bound
  exact ⟨value, field, bound, known, valueHeld⟩

end Address

/-! ## Commands -/

/-- Whether what a command gives to rows, and what it does to them, fits an entity. -/
def Command.Fits (entity : Entity) : Command → Prop
  | .create insertion => entity.Fits insertion.given
  | .createMany insertions _ => ∀ insertion ∈ insertions, entity.Fits insertion.given
  | .update _ changes => changes.Fits entity
  | .updateMany _ changes => changes.Fits entity
  | .upsert _ insertion changes => entity.Fits insertion.given ∧ changes.Fits entity
  | _ => True

/-- The insertions of a command. -/
def Command.insertions : Command → List Insertion
  | .create insertion => [insertion]
  | .createMany insertions _ => insertions
  | .upsert _ insertion _ => [insertion]
  | _ => []

/-- The changes of a command. -/
def Command.changes : Command → List Changes
  | .update _ changes => [changes]
  | .updateMany _ changes => [changes]
  | .upsert _ _ changes => [changes]
  | _ => []

theorem Command.fits_iff {entity : Entity} {command : Command} :
    command.Fits entity ↔
      (∀ insertion ∈ command.insertions, entity.Fits insertion.given) ∧
      ∀ changes ∈ command.changes, changes.Fits entity := by
  cases command <;> simp [Fits, insertions, changes]

/-- The insertions and the changes of a command have been read from arguments of its operation, or from
the items of such an argument. -/
theorem Operation.check_payloads {operation : Operation} {entity : Entity} {limits : Limits}
    {command : Command} (checked : operation.check entity limits = .ok command) :
    (∀ insertion ∈ command.insertions, ∃ name raw, Insertion.read entity raw = .ok insertion ∧
      (raw = operation.argument name ∨
        ∃ items, (operation.argument name).items? = some items ∧ raw ∈ items)) ∧
    ∀ changes ∈ command.changes, ∃ name,
      Changes.readAny entity (operation.argument name) = .ok changes := by
  unfold check at checked
  cases kind : operation.kind <;> simp only [kind, bind_eq_ok, pure_eq_ok] at checked
  case create =>
    obtain ⟨insertion, read, rfl⟩ := checked
    simpa [Command.insertions, Command.changes] using ⟨_, _, read, .inl rfl⟩
  case createMany =>
    obtain ⟨insertions, read, rfl⟩ := checked
    refine ⟨fun insertion member => ?_, by simp [Command.changes]⟩
    obtain ⟨raw, inItems, itemRead⟩ := exists_of_mem_mapM read member
    cases items : (operation.argument "data").items? with
    | none => simp [items] at inItems
    | some _ =>
      rw [items, Option.getD_some] at inItems
      exact ⟨"data", raw, itemRead, .inr ⟨_, items, inItems⟩⟩
  case update | updateMany =>
    obtain ⟨_, -, changes, read, rfl⟩ := checked
    simpa [Command.insertions, Command.changes] using ⟨_, Changes.readAny_of_read read⟩
  case upsert =>
    obtain ⟨_, -, insertion, insertionRead, changes, changesRead, rfl⟩ := checked
    simpa [Command.insertions, Command.changes] using
      ⟨⟨_, _, insertionRead, .inl rfl⟩, _, changesRead⟩
  case findFirst | findMany | count =>
    obtain ⟨_, -, _, -, rfl⟩ := checked
    simp [Command.insertions, Command.changes]
  case findUnique | findUniqueOrThrow | delete | deleteMany | aggregate | groupBy =>
    obtain ⟨_, -, rfl⟩ := checked
    simp [Command.insertions, Command.changes]

theorem Operation.check_fits {operation : Operation} {entity : Entity} {limits : Limits}
    {command : Command} (checked : operation.check entity limits = .ok command) :
    command.Fits entity := by
  obtain ⟨insertions, changes⟩ := check_payloads checked
  rw [Command.fits_iff]
  constructor
  · intro insertion member
    obtain ⟨_, _, read, -⟩ := insertions insertion member
    exact Insertion.read_fits read
  · intro change member
    obtain ⟨_, read⟩ := changes change member
    exact Changes.readAny_fits read

end RecordStore
