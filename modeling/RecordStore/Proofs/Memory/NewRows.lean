import RecordStore.Proofs.Memory.Effects

/-! # New rows

A numbered field goes on behind the greatest number in its column.  It cannot where that is the
greatest number of its kind, and it can everywhere else.

`completedRow` says field by field what a new row is to have; `newRow_cases` says that this is the new
row, unless a number that is left to the table is exhausted.
-/

namespace RecordStore

/-! ## Numbers of a kind -/

namespace FieldKind

/-- The bound of the integers of a kind of numbered fields. -/
def numberLimit : FieldKind → Int
  | .int => Nat.pow 2 31
  | _ => Nat.pow 2 63

/-- An integer as a value of a kind of numbered fields. -/
def number : FieldKind → Int → Value
  | .int, n => .int (Int32.ofInt n)
  | _, n => .bigInt (Int64.ofInt n)

def greatestNumber : FieldKind → Value
  | .int => .int Int32.maxValue
  | _ => .bigInt Int64.maxValue

variable {kind : FieldKind}

theorem one_lt_numberLimit (kind : FieldKind) : 1 < kind.numberLimit := by
  unfold numberLimit
  split <;> decide

theorem greatestNumber_integer? (integral : kind = .int ∨ kind = .bigInt) :
    kind.greatestNumber.integer? = some (kind.numberLimit - 1) := by
  rcases integral with rfl | rfl
  · exact congrArg some Int32.toInt_maxValue
  · exact congrArg some Int64.toInt_maxValue

/-- The values of a kind are below its bound, and just the greatest one reaches it. -/
theorem Fits.integer?_bounds {value : Value} (fits : kind.Fits value)
    (integral : kind = .int ∨ kind = .bigInt) {n : Int} (held : value.integer? = some n) :
    (-kind.numberLimit ≤ n ∧ n ≤ kind.numberLimit - 1) ∧
      (n = kind.numberLimit - 1 ↔ value = kind.greatestNumber) := by
  rcases fits with rfl | fits
  · contradiction
  · rcases integral with rfl | rfl
    · cases fits with
      | int w =>
        cases held
        have limit : numberLimit .int = 2 ^ 31 := rfl
        have low := w.le_toInt
        have high := w.toInt_lt
        have greatest : greatestNumber .int = .int Int32.maxValue := rfl
        rw [limit, greatest, Value.int.injEq, ← Int32.toInt_inj, Int32.toInt_maxValue]
        omega
    · cases fits with
      | bigInt w =>
        cases held
        have limit : numberLimit .bigInt = 2 ^ 63 := rfl
        have low := w.le_toInt
        have high := w.toInt_lt
        have greatest : greatestNumber .bigInt = .bigInt Int64.maxValue := rfl
        rw [limit, greatest, Value.bigInt.injEq, ← Int64.toInt_inj, Int64.toInt_maxValue]
        omega

end FieldKind

namespace Table

variable {entity : Entity} {rows : Table}

/-! ## The next number of a field -/

theorem greatest?_eq_max? (ns : List Int) : greatest? ns = ns.max? := by
  induction ns with
  | nil => rfl
  | cons n rest ih =>
    rw [greatest?, ih, List.max?_cons]
    cases rest.max? <;> rfl

/-- The integer behind the greatest in a column. -/
def nextInteger (rows : Table) (name : String) : Int := (column rows name).max?.getD 0 + 1

theorem nextInteger_bounds {name : String} {limit : Int}
    (bounded : ∀ n ∈ column rows name, -limit ≤ n ∧ n ≤ limit - 1) (positive : 1 < limit) :
    -limit ≤ nextInteger rows name ∧
      (nextInteger rows name < limit ↔ limit - 1 ∉ column rows name) := by
  unfold nextInteger
  cases greatest : (column rows name).max? with
  | none =>
    have empty := List.max?_eq_none_iff.1 greatest
    simp only [Option.getD_none, empty, List.not_mem_nil, not_false_eq_true, iff_true]
    omega
  | some n =>
    obtain ⟨member, greatest⟩ := List.max?_eq_some_iff.1 greatest
    have bounds := bounded n member
    rw [Option.getD_some]
    refine ⟨by omega, ?_, ?_⟩
    · intro less stored
      have := greatest (limit - 1) stored
      omega
    · intro absent
      have other : n ≠ limit - 1 := fun same => absent (same ▸ member)
      omega

/-- Whether a field has the greatest number of its kind in some row. -/
def Exhausted (rows : Table) (field : Field) : Prop :=
  ∃ row ∈ rows, row.valueAt field.name = field.kind.greatestNumber

instance (rows : Table) (field : Field) : Decidable (Exhausted rows field) :=
  inferInstanceAs (Decidable (∃ row ∈ rows, _))

/-- The number behind the greatest of a field. -/
def nextValue (rows : Table) (field : Field) : Value :=
  field.kind.number (nextInteger rows field.name)

theorem nextInteger_inRange_iff {field : Field} (found : entity.field? field.name = some field)
    (integral : field.kind = .int ∨ field.kind = .bigInt) (fits : ∀ row ∈ rows, entity.Fits row) :
    (-field.kind.numberLimit ≤ nextInteger rows field.name ∧
      nextInteger rows field.name < field.kind.numberLimit) ↔ ¬ Exhausted rows field := by
  have bounds : ∀ row ∈ rows, ∀ n, (row.valueAt field.name).integer? = some n →
      (-field.kind.numberLimit ≤ n ∧ n ≤ field.kind.numberLimit - 1) ∧
        (n = field.kind.numberLimit - 1 ↔ row.valueAt field.name = field.kind.greatestNumber) :=
    fun row stored _ held => (fits row stored field.name field found).integer?_bounds integral held
  have bounded : ∀ n ∈ column rows field.name,
      -field.kind.numberLimit ≤ n ∧ n ≤ field.kind.numberLimit - 1 := by
    intro n member
    obtain ⟨row, stored, held⟩ := List.mem_filterMap.1 member
    exact (bounds row stored n held).1
  have exhausted : field.kind.numberLimit - 1 ∈ column rows field.name ↔ Exhausted rows field := by
    rw [column, List.mem_filterMap]
    constructor
    · rintro ⟨row, stored, held⟩
      exact ⟨row, stored, (bounds row stored _ held).2.1 rfl⟩
    · rintro ⟨row, stored, greatest⟩
      exact ⟨row, stored, by rw [greatest, FieldKind.greatestNumber_integer? integral]⟩
  obtain ⟨low, high⟩ := nextInteger_bounds bounded field.kind.one_lt_numberLimit
  rw [← exhausted, ← high]
  exact ⟨And.right, fun less => ⟨low, less⟩⟩

theorem nextNumber_eq {field : Field} (found : entity.field? field.name = some field)
    (integral : field.kind = .int ∨ field.kind = .bigInt) (fits : ∀ row ∈ rows, entity.Fits row) :
    nextNumber entity rows field.name =
      if Exhausted rows field then .error (.query (.sequenceExhausted field.name))
      else .ok (nextValue rows field) := by
  have next : (greatest? (column rows field.name)).getD 0 + 1 = nextInteger rows field.name := by
    rw [greatest?_eq_max?, nextInteger]
  have inRange := nextInteger_inRange_iff found integral fits
  unfold nextNumber nextValue
  simp only [next, found, Option.map_some]
  by_cases full : Exhausted rows field
  · have beyond := mt inRange.1 (not_not_intro full)
    rcases integral with kind | kind
    all_goals
      simp only [kind, FieldKind.numberLimit] at beyond ⊢
      simp only [if_pos full, int32?, int64?, if_neg beyond, Option.map_none]
  · have within := inRange.2 full
    rcases integral with kind | kind
    all_goals
      simp only [kind, FieldKind.numberLimit, FieldKind.number] at within ⊢
      simp only [if_neg full, int32?, int64?, if_pos within, Option.map_some]

theorem assignNumbers_cases {names : List String}
    (numbered : ∀ name ∈ names, ∃ field, entity.field? name = some field ∧
      (field.kind = .int ∨ field.kind = .bigInt))
    (fits : ∀ row ∈ rows, entity.Fits row) (row : Record) :
    (∃ name ∈ names, ∃ field, entity.field? name = some field ∧ Exhausted rows field ∧
      assignNumbers entity rows names row = .error (.query (.sequenceExhausted name))) ∨
    (∀ name ∈ names, ∀ field, entity.field? name = some field → ¬ Exhausted rows field) ∧
      ∃ result, assignNumbers entity rows names row = .ok result ∧
        ∀ name, result.get? name =
          if name ∈ names then (entity.field? name).map (nextValue rows) else row.get? name := by
  induction names generalizing row with
  | nil => exact .inr ⟨by simp, row, rfl, fun _ => rfl⟩
  | cons first rest ih =>
    obtain ⟨⟨field, found, integral⟩, restNumbered⟩ := List.forall_mem_cons.1 numbered
    obtain ⟨-, rfl⟩ := Entity.mem_of_field? found
    have next := nextNumber_eq found integral fits
    unfold assignNumbers
    by_cases full : Exhausted rows field
    · rw [if_pos full] at next
      exact .inl ⟨_, List.mem_cons_self, field, found, full, by rw [next]⟩
    · rw [if_neg full] at next
      simp only [next]
      refine (ih restNumbered (row.insert field.name (nextValue rows field))).imp ?_ ?_
      · rintro ⟨name, member, rest⟩
        exact ⟨name, List.mem_cons_of_mem _ member, rest⟩
      · rintro ⟨free, result, assigned, fields⟩
        refine ⟨?_, result, assigned, fun name => ?_⟩
        · rw [List.forall_mem_cons]
          refine ⟨fun other otherFound => ?_, free⟩
          rw [found] at otherFound
          cases otherFound
          exact full
        · rw [fields, FieldMap.get?_insert]
          by_cases inRest : name ∈ rest
          · simp [inRest]
          · by_cases same : name = field.name <;> simp [inRest, same, found]

end Table

/-! ## New rows -/

/-- Whether an insertion leaves a field to be numbered by the table. -/
def Insertion.Leaves (insertion : Insertion) (field : Field) : Prop :=
  field.default? = some .autoIncrement ∧ insertion.given.contains field.name = false

instance (insertion : Insertion) (field : Field) : Decidable (insertion.Leaves field) :=
  inferInstanceAs (Decidable (_ ∧ _))

namespace Entity

/-- A record with a value for a field, if it has none and there is one. -/
def fillWith (value? : Field → Option Value) (record : Record) (field : Field) : Record :=
  if record.contains field.name then record
  else
    match value? field with
    | some value => record.insert field.name value
    | none => record

/-- What a field is filled with, if the table has no say in it. -/
def filled? (now : Readings) (field : Field) : Option Value :=
  match field.default? with
  | some (.literal value) => some value
  | some .now => some (.dateTime (now.ofField field.name))
  | some .autoIncrement => none
  | none => if field.nullable then some .null else none

theorem fillField_eq_fillWith (now : Readings) : fillField now = fillWith (filled? now) := by
  funext record field
  unfold fillField fillWith filled?
  split
  · rfl
  · cases field.default? with
    | none => simp only; split <;> rfl
    | some given => cases given <;> rfl

theorem get?_fillWith (value? : Field → Option Value) (record : Record) (field : Field)
    (name : String) :
    (fillWith value? record field).get? name
      = (record.get? name).or (if name = field.name then value? field else none) := by
  unfold fillWith FieldMap.contains
  cases bound : record.get? field.name with
  | some value =>
    by_cases same : name = field.name
    · simp [same, bound]
    · simp [same]
  | none =>
    cases value? field with
    | none => simp
    | some value =>
      by_cases same : name = field.name
      · simp [same, bound]
      · simp [same]

/-- Where names are distinct, every field that a record lacks is filled with its own value. -/
theorem get?_foldl_fillWith (value? : Field → Option Value) {fields : List Field}
    (nodup : (fields.map (·.name)).Nodup) (record : Record) (name : String) :
    (fields.foldl (fillWith value?) record).get? name
      = (record.get? name).or ((fields.find? fun field => field.name = name).bind value?) := by
  induction fields generalizing record with
  | nil => simp
  | cons field rest ih =>
    obtain ⟨absent, restNodup⟩ := List.nodup_cons.1 nodup
    rw [List.foldl_cons, ih restNodup, get?_fillWith, Option.or_assoc]
    by_cases same : name = field.name
    · subst same
      have none : (rest.find? fun other => other.name = field.name) = none := by
        rw [List.find?_eq_none]
        intro other member equal
        exact absent (List.mem_map.2 ⟨other, member, by simpa using equal⟩)
      rw [none, List.find?_cons_of_pos (by simp)]
      simp
    · rw [List.find?_cons_of_neg (by simpa using Ne.symm same)]
      simp [same]

end Entity

namespace Table

/-- What a new row has in a field that it is not given. -/
def omittedValue (now : Readings) (rows : Table) (field : Field) : Value :=
  match field.default? with
  | some (.literal value) => value
  | some .now => .dateTime (now.ofField field.name)
  | some .autoIncrement => nextValue rows field
  | none => .null

/-- The row that an insertion is for: what it gives, and what is filled in. -/
def completedRow (entity : Entity) (now : Readings) (insertion : Insertion) (rows : Table) :
    Record :=
  entity.fields.foldl (Entity.fillWith fun field => some (omittedValue now rows field))
    insertion.given

variable {entity : Entity} {insertion : Insertion} {now : Readings} {rows : Table}

theorem get?_completedRow (wellFormed : entity.WellFormed) (name : String) :
    (completedRow entity now insertion rows).get? name
      = (insertion.given.get? name).or ((entity.field? name).map (omittedValue now rows)) := by
  rw [completedRow, Entity.get?_foldl_fillWith _ wellFormed.names_nodup, Option.map_eq_bind]
  rfl

/-- A new row has what it is given, unchanged. -/
theorem get?_completedRow_of_given (wellFormed : entity.WellFormed) {name : String} {value : Value}
    (bound : insertion.given.get? name = some value) :
    (completedRow entity now insertion rows).get? name = some value := by
  rw [get?_completedRow wellFormed, bound]
  rfl

theorem get?_completedRow_of_omitted (wellFormed : entity.WellFormed) {field : Field}
    (member : field ∈ entity.fields) (omitted : insertion.given.contains field.name = false) :
    (completedRow entity now insertion rows).get? field.name
      = some (omittedValue now rows field) := by
  have absent : insertion.given.get? field.name = none := by
    simpa [FieldMap.contains] using omitted
  rw [get?_completedRow wellFormed, absent, wellFormed.field?_of_mem member]
  rfl

theorem get?_withDefaults (wellFormed : entity.WellFormed) (name : String) :
    (insertion.withDefaults entity now).get? name
      = (insertion.given.get? name).or ((entity.field? name).bind (Entity.filled? now)) := by
  rw [Insertion.withDefaults, Entity.fillDefaults_eq, Entity.fillField_eq_fillWith,
    Entity.get?_foldl_fillWith _ wellFormed.names_nodup]
  rfl

theorem mem_pendingNumbers_iff (wellFormed : entity.WellFormed) {field : Field}
    (found : entity.field? field.name = some field) :
    field.name ∈ insertion.pendingNumbers entity ↔ insertion.Leaves field := by
  rw [Insertion.mem_pendingNumbers]
  constructor
  · rintro ⟨other, member, left, same⟩
    have otherFound := wellFormed.field?_of_mem member
    rw [same, found, Option.some.injEq] at otherFound
    exact otherFound ▸ left
  · exact fun left => ⟨field, (Entity.mem_of_field? found).1, left, rfl⟩

/-- A field is numbered, given or filled in; where it is none of these, it had to be given. -/
theorem completedField_eq (wellFormed : entity.WellFormed)
    (given : ∀ field ∈ entity.fields, field.isRequired = true →
      insertion.given.contains field.name = true) (name : String) :
    (if name ∈ insertion.pendingNumbers entity then (entity.field? name).map (nextValue rows)
      else (insertion.given.get? name).or ((entity.field? name).bind (Entity.filled? now)))
      = (insertion.given.get? name).or ((entity.field? name).map (omittedValue now rows)) := by
  cases found : entity.field? name with
  | none =>
    have notPending : name ∉ insertion.pendingNumbers entity := by
      intro pending
      obtain ⟨field, known, -⟩ := Insertion.integral_of_pending wellFormed name pending
      rw [found] at known
      contradiction
    rw [if_neg notPending]
    rfl
  | some field =>
    obtain ⟨member, rfl⟩ := Entity.mem_of_field? found
    simp only [mem_pendingNumbers_iff wellFormed found]
    cases bound : insertion.given.get? field.name with
    | some value =>
      have present : insertion.given.contains field.name = true :=
        Option.isSome_iff_exists.2 ⟨value, bound⟩
      simp [Insertion.Leaves, present]
    | none =>
      have absent : insertion.given.contains field.name = false := by
        rw [FieldMap.contains, bound]
        rfl
      cases default : field.default? with
      | some kind =>
        cases kind <;> simp [Insertion.Leaves, absent, default, Entity.filled?, omittedValue]
      | none =>
        have nullable : field.nullable = true := by
          by_contra required
          have present := given field member (by simp [Field.isRequired, required, default])
          rw [absent] at present
          contradiction
        simp [Insertion.Leaves, default, nullable, Entity.filled?, omittedValue]

/-- Whether a field that an insertion leaves to a table cannot be numbered there. -/
def FindsExhausted (entity : Entity) (insertion : Insertion) (rows : Table) : Prop :=
  ∃ field ∈ entity.fields, insertion.Leaves field ∧ Exhausted rows field

theorem not_findsExhausted_iff : ¬ FindsExhausted entity insertion rows ↔
    ∀ field ∈ entity.fields, ¬ (insertion.Leaves field ∧ Exhausted rows field) := by
  simp only [FindsExhausted, not_exists, not_and]

section NewRow

variable (wellFormed : entity.WellFormed) (fits : ∀ row ∈ rows, entity.Fits row)
  (given : ∀ field ∈ entity.fields, field.isRequired = true →
    insertion.given.contains field.name = true) (now : Readings)

include wellFormed fits given

theorem newRow_cases :
    (∃ field ∈ entity.fields, (insertion.Leaves field ∧ Exhausted rows field) ∧
      newRow entity now insertion rows = .error (.query (.sequenceExhausted field.name))) ∨
    ¬ FindsExhausted entity insertion rows ∧
      newRow entity now insertion rows = .ok (completedRow entity now insertion rows) := by
  have leaves : ∀ name ∈ insertion.pendingNumbers entity, ∀ field, entity.field? name = some field →
      field ∈ entity.fields ∧ insertion.Leaves field ∧ field.name = name := by
    intro name pending field found
    obtain ⟨declared, member, left, rfl⟩ := Insertion.mem_pendingNumbers.1 pending
    rw [wellFormed.field?_of_mem member, Option.some.injEq] at found
    exact found ▸ ⟨member, left, rfl⟩
  unfold newRow
  rcases assignNumbers_cases (Insertion.integral_of_pending wellFormed) fits
    (insertion.withDefaults entity now) with
    ⟨name, pending, field, found, full, failed⟩ | ⟨free, row, assigned, fields⟩
  · obtain ⟨member, left, rfl⟩ := leaves name pending field found
    exact .inl ⟨field, member, ⟨left, full⟩, failed⟩
  · refine .inr ⟨?_, ?_⟩
    · rintro ⟨field, member, left, full⟩
      exact free field.name (Insertion.mem_pendingNumbers.2 ⟨field, member, left, rfl⟩) field
        (wellFormed.field?_of_mem member) full
    · rw [assigned]
      refine congrArg Except.ok (FieldMap.ext fun name => ?_)
      rw [fields, get?_completedRow wellFormed, get?_withDefaults wellFormed]
      exact completedField_eq wellFormed given name

theorem newRow_of_exhausted (full : FindsExhausted entity insertion rows) :
    ∃ field ∈ entity.fields, (insertion.Leaves field ∧ Exhausted rows field) ∧
      newRow entity now insertion rows = .error (.query (.sequenceExhausted field.name)) := by
  cases newRow_cases wellFormed fits given now with
  | inl refused => exact refused
  | inr made => exact absurd full made.1

theorem newRow_of_free (free : ¬ FindsExhausted entity insertion rows) :
    newRow entity now insertion rows = .ok (completedRow entity now insertion rows) := by
  cases newRow_cases wellFormed fits given now with
  | inl refused =>
    obtain ⟨field, member, full, -⟩ := refused
    exact absurd ⟨field, member, full⟩ free
  | inr made => exact made.2

/-- A new row is the completed one, if it can be numbered at all. -/
theorem eq_completedRow_of_newRow {row : Record}
    (new : newRow entity now insertion rows = .ok row) :
    row = completedRow entity now insertion rows := by
  cases newRow_cases wellFormed fits given now with
  | inl refused =>
    obtain ⟨field, -, -, failed⟩ := refused
    rw [failed] at new
    contradiction
  | inr made =>
    rw [made.2] at new
    cases new
    rfl

end NewRow

end Table

end RecordStore
