import RecordStore.Condition.Reader
import RecordStore.Proofs.Typing.Mutations

/-! # Filters suit the fields that they test

Every leaf of a filter that has been read names a field of the entity and tests it with operands of
the field's kind.  `readTree_leaves` carries any property of leaves from the entries of fields to the
tree; `readEntryUnder_suits` shows the property for the entry of a field.
-/

namespace RecordStore

/-- Whether a test suits a field: the kind of the field has such tests, and the operands are of that
kind.  Null is an operand of equality only, on a field that may be null. -/
def FieldTest.Suits (field : Field) : FieldTest → Prop
  | .equals operand => field.kind.Holds operand ∨ operand = .null ∧ field.nullable = true
  | .gt operand | .gte operand | .lt operand | .lte operand =>
    field.kind.isOrdered = true ∧ field.kind.Holds operand
  | .oneOf operands | .noneOf operands => ∀ operand ∈ operands, field.kind.Holds operand
  | .contains _ | .startsWith _ | .endsWith _ => field.kind.isText = true

/-- Whether a condition names a field of an entity, and its test suits the field. -/
def Condition.Suits (entity : Entity) (condition : Condition) : Prop :=
  ∃ field, entity.field? condition.field = some field ∧ condition.test.Suits field

/-! ## Leaves -/

namespace Predicate

variable {Leaf : Type}

theorem leaves_conjunction (members : List (Predicate Leaf)) :
    (conjunction members).leaves = leavesOfAll members := by
  unfold conjunction
  split <;> simp [leaves, leavesOfAll]

theorem leaves_combine (composite : Composite) (members : List (Predicate Leaf)) :
    (composite.combine members).leaves = leavesOfAll members := by
  cases composite <;> simp [Composite.combine, leaves]

/-! ## Trees -/

/-- Whether every entry of a field that is read has leaves with a property. -/
def FieldsKeep (rules : TreeRules Leaf) (P : Leaf → Prop) : Prop :=
  ∀ name depth raw tree, rules.readField name depth raw = .ok tree → ∀ leaf ∈ tree.leaves, P leaf

variable {rules : TreeRules Leaf} {P : Leaf → Prop}

-- One theorem for each of the functions that read a tree, and in it a case for each way in which they
-- call one another.
mutual

theorem readObject_leaves (fields : FieldsKeep rules P) {depth : Nat} :
    ∀ {raw : Json} {tree : Predicate Leaf}, readObject rules depth raw = .ok tree →
      ∀ leaf ∈ tree.leaves, P leaf
  | .obj entries, tree, read => by
    simp only [readObject, bind_eq_ok, pure_eq_ok] at read
    obtain ⟨members, membersRead, rfl⟩ := read
    rw [leaves_conjunction]
    exact readEntries_leaves fields membersRead

theorem readEntries_leaves (fields : FieldsKeep rules P) {depth : Nat} :
    ∀ {entries : List (String × Json)} {members : List (Predicate Leaf)},
      readEntries rules depth entries = .ok members → ∀ leaf ∈ leavesOfAll members, P leaf
  | [], members, read => by
    cases read
    simp [leavesOfAll]
  | (key, raw) :: rest, members, read => by
    unfold readEntries at read
    split at read
    · split at read
      · contradiction
      · simp only [bind_eq_ok, pure_eq_ok, exists_eq_left'] at read
        obtain ⟨inner, innerRead, later, restRead, rfl⟩ := read
        rw [leavesOfAll, leaves_combine]
        exact List.forall_mem_append.2
          ⟨readMembers_leaves fields innerRead, readEntries_leaves fields restRead⟩
    · simp only [bind_eq_ok, pure_eq_ok] at read
      obtain ⟨member, memberRead, later, restRead, rfl⟩ := read
      exact List.forall_mem_append.2
        ⟨fields key depth raw member memberRead, readEntries_leaves fields restRead⟩

theorem readMembers_leaves (fields : FieldsKeep rules P) {key : String} {depth : Nat} :
    ∀ {raw : Json} {members : List (Predicate Leaf)},
      readMembers rules key depth raw = .ok members → ∀ leaf ∈ leavesOfAll members, P leaf
  | .arr items, members, read => by
    rw [readMembers] at read
    exact readAll_leaves fields read
  | .obj entries, members, read => by
    simp only [readMembers, bind_eq_ok, pure_eq_ok] at read
    obtain ⟨inner, innerRead, rfl⟩ := read
    intro leaf inLeaves
    rw [leavesOfAll, leaves_conjunction, leavesOfAll, List.append_nil] at inLeaves
    exact readEntries_leaves fields innerRead leaf inLeaves

theorem readAll_leaves (fields : FieldsKeep rules P) {depth : Nat} :
    ∀ {items : List Json} {members : List (Predicate Leaf)},
      readAll rules depth items = .ok members → ∀ leaf ∈ leavesOfAll members, P leaf
  | [], members, read => by
    cases read
    simp [leavesOfAll]
  | raw :: rest, members, read => by
    simp only [readAll, bind_eq_ok, pure_eq_ok] at read
    obtain ⟨member, memberRead, later, restRead, rfl⟩ := read
    exact List.forall_mem_append.2
      ⟨readObject_leaves fields memberRead, readAll_leaves fields restRead⟩

end

/-- What holds of the leaves of every entry of a field, holds of the leaves of a tree. -/
theorem readTree_leaves (fields : FieldsKeep rules P) {raw : Json} {tree : Predicate Leaf}
    (read : readTree rules raw = .ok tree) : ∀ leaf ∈ tree.leaves, P leaf := by
  unfold readTree at read
  split at read
  · cases read
    simp [always, leaves, leavesOfAll]
  · exact readObject_leaves fields read

end Predicate

/-! ## Entries of fields -/

namespace Condition

variable {field : Field}

theorem readOperand_holds {operator : String} {raw : Json} {operand : Value}
    (read : readOperand field operator false raw = .ok operand) : field.kind.Holds operand := by
  unfold readOperand at read
  split at read
  · contradiction
  · next present => exact Value.coerce_holds (by simpa using present) (mapError_eq_ok.1 read)

theorem readOperand_suits {operator : String} {raw : Json} {operand : Value}
    (read : readOperand field operator true raw = .ok operand) :
    (FieldTest.equals operand).Suits field := by
  unfold readOperand at read
  split at read
  · split at read
    · next nullable =>
      cases read
      exact .inr ⟨rfl, by simpa using nullable⟩
    · contradiction
  · next present =>
    exact .inl (Value.coerce_holds (by simpa using present) (mapError_eq_ok.1 read))

theorem readOperands_holds {operator : String} {raw : Json} {operands : List Value}
    (read : readOperands field operator raw = .ok operands) :
    ∀ operand ∈ operands, field.kind.Holds operand := by
  unfold readOperands at read
  split at read
  · intro operand member
    obtain ⟨item, -, itemRead⟩ := exists_of_mem_mapM read member
    exact readOperand_holds itemRead
  · contradiction

theorem readOperator_suits {mode : CaseMode} {name : String} {raw : Json} {test : FieldTest}
    (read : readOperator field mode name raw = .ok test) : test.Suits field := by
  unfold readOperator at read
  split at read
  · contradiction
  · simp only [bind_eq_ok, pure_eq_ok] at read
    obtain ⟨operand, operandRead, rfl⟩ := read
    exact readOperand_suits operandRead
  · simp only [bind_eq_ok, pure_eq_ok] at read
    obtain ⟨operands, operandsRead, rfl⟩ := read
    exact readOperands_holds operandsRead
  · simp only [bind_eq_ok, pure_eq_ok] at read
    obtain ⟨operands, operandsRead, rfl⟩ := read
    exact readOperands_holds operandsRead
  · next ordered known =>
    split at read
    · next isOrdered =>
      simp only [bind_eq_ok, pure_eq_ok] at read
      obtain ⟨operand, operandRead, rfl⟩ := read
      have held := readOperand_holds operandRead
      -- Four names have an operator of this form.
      unfold Operator.ofName? at known
      split at known <;> cases known <;> exact ⟨isOrdered, held⟩
    · contradiction
  · next text known =>
    split at read
    · next isText =>
      simp only [bind_eq_ok, pure_eq_ok] at read
      obtain ⟨operand, -, rfl⟩ := read
      unfold Operator.ofName? at known
      split at known <;> cases known <;> exact isText
    · contradiction

variable {maxDepth : Nat}

mutual

theorem readEntryUnder_suits {operator : String} {depth : Nat} : ∀ {raw : Json} {filter : Filter},
    readEntryUnder field maxDepth operator depth raw = .ok filter →
      ∀ leaf ∈ filter.leaves, leaf.field = field.name ∧ leaf.test.Suits field
  | raw, filter, read => by
    unfold readEntryUnder at read
    split at read
    · simp only [bind_eq_ok, pure_eq_ok] at read
      obtain ⟨mode, -, members, membersRead, rfl⟩ := read
      rw [Predicate.leaves_conjunction]
      exact readOperators_suits membersRead
    · simp only [bind_eq_ok, pure_eq_ok] at read
      obtain ⟨operand, operandRead, rfl⟩ := read
      simp only [Predicate.leaves, List.mem_singleton, forall_eq]
      exact ⟨trivial, readOperand_suits operandRead⟩

theorem readOperators_suits {mode : CaseMode} {depth : Nat} : ∀ {operators : List (String × Json)}
    {members : List Filter}, readOperators field maxDepth mode depth operators = .ok members →
      ∀ leaf ∈ Predicate.leavesOfAll members, leaf.field = field.name ∧ leaf.test.Suits field
  | [], members, read => by
    cases read
    simp [Predicate.leavesOfAll]
  | (name, raw) :: rest, members, read => by
    unfold readOperators at read
    split at read
    · exact readOperators_suits read
    · split at read
      · split at read
        · contradiction
        · simp only [bind_eq_ok, pure_eq_ok, exists_eq_left'] at read
          obtain ⟨negated, negatedRead, later, restRead, rfl⟩ := read
          refine List.forall_mem_append.2 ⟨?_, readOperators_suits restRead⟩
          rw [Predicate.leaves, Predicate.leavesOfAll, Predicate.leavesOfAll, List.append_nil]
          exact readEntryUnder_suits negatedRead
      · simp only [bind_eq_ok, pure_eq_ok, exists_eq_left'] at read
        obtain ⟨test, testRead, later, restRead, rfl⟩ := read
        refine List.forall_mem_append.2 ⟨?_, readOperators_suits restRead⟩
        simp only [Predicate.leaves, List.mem_singleton, forall_eq]
        exact ⟨trivial, readOperator_suits testRead⟩

end

end Condition

theorem Filter.read_suits {entity : Entity} {maxDepth : Nat} {raw : Json} {filter : Filter}
    (read : Filter.read entity maxDepth raw = .ok filter) :
    ∀ condition ∈ filter.leaves, condition.Suits entity := by
  refine Predicate.readTree_leaves ?_ read
  intro name depth entry tree entryRead leaf inLeaves
  simp only [Filter.rules, bind_eq_ok] at entryRead
  obtain ⟨field, known, fieldRead⟩ := entryRead
  unfold Entity.filterField at known
  split at known
  · next found =>
    cases known
    obtain ⟨named, suits⟩ := Condition.readEntryUnder_suits fieldRead leaf inLeaves
    refine ⟨_, ?_, suits⟩
    rw [named, (Entity.mem_of_field? found).2]
    exact found
  · contradiction

end RecordStore
