import RecordStore.Proofs.Comparison.Rows
import RecordStore.Proofs.Database.Tests
import RecordStore.Proofs.Typing.Plans

/-! # The clause of a cursor

A scan that starts at a row reads the rows at and behind it.  The clause of these rows goes through the
fields of the order: a row is behind the anchor if it is level with it in some first fields and behind
it in the next.  `fromCursor_eval` says that the clause is true of exactly the rows that do not come
before the anchor, nulls on either side included.

The induction carries the levels of the fields that have been passed, as a clause that is true or not
of the row at hand; `cursorBranches_eval` is about the branches that are left.
-/

namespace RecordStore

variable {entity : Entity} {record anchor : Record} {row : StoredRow} {bound final : Bound}

/-! ## Clauses that are true -/

theorem Truth.and_eq_true {a b : Truth} :
    a.and b = some true ↔ a = some true ∧ b = some true := by
  rcases a with _ | _ | _ <;> rcases b with _ | _ | _ <;> decide

theorem Truth.or_eq_true {a b : Truth} :
    a.or b = some true ↔ a = some true ∨ b = some true := by
  rcases a with _ | _ | _ <;> rcases b with _ | _ | _ <;> decide

theorem Clause.evalAll_append {front back : List Clause} :
    Clause.evalAll final row (front ++ back) = some true ↔
      Clause.evalAll final row front = some true ∧ Clause.evalAll final row back = some true := by
  induction front with
  | nil => simp [Clause.evalAll]
  | cons clause rest ih =>
    rw [List.cons_append, Clause.evalAll, Clause.evalAll, Truth.and_eq_true, Truth.and_eq_true, ih,
      and_assoc]

theorem Clause.evalAll_singleton {clause : Clause} :
    Clause.evalAll final row [clause] = some true ↔ clause.eval final row = some true := by
  simp [Clause.evalAll, Truth.and_eq_true]

/-! ## Stored rows in order -/

/-- Whether a database can be trusted to compare two records in the fields of an order. -/
def OrderFaithful (order : List OrderTerm) (a b : Record) : Prop :=
  ∀ term ∈ order, (a.valueAt term.field).ComparesAsStored (b.valueAt term.field)

theorem compareStoredRows_eq {order : List OrderTerm} (known : OrderKnown entity order)
    (sortable : entity.canSort order = true) {rowA rowB : StoredRow} {a b : Record}
    (fitsA : entity.Fits a) (fitsB : entity.Fits b) (storesA : entity.Stores rowA a)
    (storesB : entity.Stores rowB b) (faithful : OrderFaithful order a b) :
    compareStoredRows order rowA rowB = compareRows order a b := by
  induction order with
  | nil => rfl
  | cons term rest ih =>
    obtain ⟨⟨field, found⟩, knownRest⟩ := List.forall_mem_cons.1 known
    obtain ⟨first, faithfulRest⟩ := List.forall_mem_cons.1 faithful
    simp only [Entity.canSort, List.all_cons, Bool.and_eq_true] at sortable
    have notDecimal : field.kind ≠ .decimal := by
      intro decimal
      simp [Entity.isDecimal, found, decimal] at sortable
    have sorts := FieldKind.sortOrder_cell notDecimal (fitsA _ field found) (fitsB _ field found)
      first
    have sameTerm : term.compareStored rowA rowB = term.compare a b := by
      cases direction : term.direction <;>
        simp only [OrderTerm.compareStored, OrderTerm.compare, direction,
          storesA _ field found notDecimal, storesB _ field found notDecimal, sorts]
    rw [compareStoredRows, compareRows, sameTerm, ih knownRest sortable.2 faithfulRest]

/-! ## One field -/

section Fields

variable {term : OrderTerm} {field : Field} {value : Value}

/-- Whether a field can be compared with that of the anchor: it is known and no decimal, and the row
stores what a database may compare. -/
structure Comparable (entity : Entity) (anchor record : Record) (row : StoredRow)
    (term : OrderTerm) (field : Field) : Prop where
  found : entity.field? term.field = some field
  notDecimal : field.kind ≠ .decimal
  anchorFits : field.kind.Fits (anchor.valueAt term.field)
  fits : field.kind.Fits (record.valueAt term.field)
  cell : row.cellAt term.field
    = field.kind.columnType.keep (record.valueAt term.field).parameter.cell
  faithful : (record.valueAt term.field).ComparesAsStored (anchor.valueAt term.field)

theorem Comparable.isNull_cell (comparable : Comparable entity anchor record row term field) :
    (row.cellAt term.field).isNull = (record.valueAt term.field).isNull := by
  rw [comparable.cell, ColumnType.isNull_keep, Value.isNull_parameter_cell]

/-- A comparison with an anchor that is not null is true of the values that are not null and stand so
in the order. -/
theorem Comparable.clause_true (comparable : Comparable entity anchor record row term field)
    (held : field.kind.Holds (anchor.valueAt term.field)) {comparison : Comparison}
    (later : (FieldTest.comparisonClause comparison term.field
      (anchor.valueAt term.field) bound).2 <+: final) :
    (FieldTest.comparisonClause comparison term.field
        (anchor.valueAt term.field) bound).1.eval final row = some true ↔
      (record.valueAt term.field).isNull = false ∧
        comparison.accepts
          ((record.valueAt term.field).sortOrder (anchor.valueAt term.field)) = true := by
  obtain ⟨-, notDecimal, -, fits, cell, faithful⟩ := comparable
  rcases fits with null | recordHeld
  · rw [FieldTest.comparisonClause_eval later, cell, null]
    cases field.kind.columnType <;> simp [Value.parameter, Parameter.cell, ColumnType.keep,
      Cell.compare?_null_left]
  · rw [FieldTest.eval_comparisonClause notDecimal recordHeld held faithful cell later]
    obtain ⟨order, ordered⟩ :=
      Option.isSome_iff_exists.1 (FieldKind.isSome_compare? recordHeld held faithful)
    simp only [Value.sortOrder, recordHeld.isNull_eq_false, held.isNull_eq_false, ordered,
      Option.map_some, Option.some.injEq, Option.getD_some, true_and]

theorem Value.sortOrder_of_isNull {a : Value} (null : a.isNull = true) (b : Value) :
    a.sortOrder b = if b.isNull then .eq else .lt := by
  rw [Value.sortOrder, null]
  cases b.isNull <;> rfl

theorem OrderTerm.behind_of_present (present : value.isNull = false) :
    term.behind value bound = match term.direction with
      | .ascending => FieldTest.comparisonClause .greater term.field value bound
      | .descending =>
        let (clause, bound) := FieldTest.comparisonClause .less term.field value bound
        (.group (.any [clause, .isNull (.column term.field)]), bound) := by
  unfold OrderTerm.behind
  cases term.direction <;> cases value <;> first | rfl | contradiction

theorem behind_eval (comparable : Comparable entity anchor record row term field)
    (later : (term.behind (anchor.valueAt term.field) bound).2 <+: final) :
    (term.behind (anchor.valueAt term.field) bound).1.eval final row = some true ↔
      term.compare anchor record = .lt := by
  have isNull := comparable.isNull_cell
  unfold OrderTerm.compare
  -- Null is the least value: behind it lie the values in ascending order, nothing in descending.
  rcases comparable.anchorFits with null | held
  · rw [null, Value.sortOrder_of_isNull rfl]
    unfold OrderTerm.behind
    cases term.direction
    · simp only [Clause.eval, Scalar.eval, isNull]
      cases (record.valueAt term.field).isNull <;> simp
    · simp only [Clause.eval]
      cases (record.valueAt term.field).isNull <;> simp
  · rw [OrderTerm.behind_of_present held.isNull_eq_false] at later ⊢
    rw [Value.sortOrder_swap (record.valueAt term.field)]
    have nullFirst := fun null => Value.sortOrder_of_isNull (a := record.valueAt term.field) null
      (anchor.valueAt term.field)
    rw [held.isNull_eq_false] at nullFirst
    cases direction : term.direction <;> rw [direction] at later
    -- A comparison alone leaves null out, which is before the anchor in ascending order.
    · simp only [comparable.clause_true held later, Comparison.accepts, beq_iff_eq,
        Ordering.swap_eq_lt]
      refine and_iff_right_of_imp fun greater => ?_
      cases null : (record.valueAt term.field).isNull
      · rfl
      · rw [nullFirst null] at greater
        contradiction
    -- In descending order null is behind the anchor, and has a clause of its own.
    · simp only [Clause.eval, Clause.evalAny, Truth.or_eq_true,
        comparable.clause_true held later, Comparison.accepts, beq_iff_eq, Ordering.swap_swap,
        Scalar.eval, isNull]
      cases null : (record.valueAt term.field).isNull
      · simp
      · simp [nullFirst null]

theorem OrderTerm.level_of_present (present : value.isNull = false) :
    term.level value bound = FieldTest.comparisonClause .equal term.field value bound := by
  unfold OrderTerm.level
  cases value <;> first | rfl | contradiction

theorem OrderTerm.compare_eq_iff {a b : Record} :
    term.compare a b = .eq ↔ (a.valueAt term.field).sortOrder (b.valueAt term.field) = .eq := by
  unfold OrderTerm.compare
  cases term.direction
  · rfl
  · exact Ordering.swap_eq_eq

theorem level_eval (comparable : Comparable entity anchor record row term field)
    (later : (term.level (anchor.valueAt term.field) bound).2 <+: final) :
    (term.level (anchor.valueAt term.field) bound).1.eval final row = some true ↔
      term.compare anchor record = .eq := by
  rw [OrderTerm.compare_eq_iff]
  rcases comparable.anchorFits with null | held
  · rw [null, Value.sortOrder_of_isNull rfl]
    simp only [OrderTerm.level, Clause.eval, Scalar.eval, comparable.isNull_cell]
    cases (record.valueAt term.field).isNull <;> simp
  · rw [OrderTerm.level_of_present held.isNull_eq_false] at later ⊢
    rw [comparable.clause_true held later, Value.sortOrder_swap (record.valueAt term.field),
      Ordering.swap_eq_eq]
    simp only [Comparison.accepts, beq_iff_eq]
    refine and_iff_right_of_imp fun equal => ?_
    cases null : (record.valueAt term.field).isNull
    · rfl
    · rw [Value.sortOrder_of_isNull null, held.isNull_eq_false] at equal
      contradiction

end Fields

/-! ## All fields -/

theorem OrderTerm.behind_extends (term : OrderTerm) (value : Value) (bound : Bound) :
    bound <+: (term.behind value bound).2 := by
  unfold OrderTerm.behind
  cases term.direction <;> cases value <;>
    first | exact List.prefix_rfl | exact Value.bind_extends _ bound

theorem OrderTerm.level_extends (term : OrderTerm) (value : Value) (bound : Bound) :
    bound <+: (term.level value bound).2 := by
  unfold OrderTerm.level
  cases value <;> first | exact List.prefix_rfl | exact Value.bind_extends _ bound

theorem cursorBranches_extends (anchor : Record) (order : List OrderTerm) (levels : List Clause)
    (bound : Bound) : bound <+: (cursorBranches anchor order levels bound).2 := by
  induction order generalizing levels bound with
  | nil => exact List.prefix_rfl
  | cons term rest ih =>
    exact (term.behind_extends _ bound).trans ((term.level_extends _ _).trans (ih _ _))

theorem cursorBranches_eval {order : List OrderTerm}
    (comparable : ∀ term ∈ order, ∃ field, Comparable entity anchor record row term field)
    (levels : List Clause) (later : (cursorBranches anchor order levels bound).2 <+: final) :
    Clause.evalAny final row (cursorBranches anchor order levels bound).1 = some true ↔
      Clause.evalAll final row levels = some true ∧ compareRows order anchor record ≠ .gt := by
  induction order generalizing levels bound with
  | nil => simp [cursorBranches, Clause.evalAny, Clause.eval, Truth.or_eq_true, compareRows]
  | cons term rest ih =>
    obtain ⟨⟨field, first⟩, others⟩ := List.forall_mem_cons.1 comparable
    obtain ⟨⟨behind, bound₁⟩, behindEq⟩ :
        ∃ step, term.behind (anchor.valueAt term.field) bound = step := ⟨_, rfl⟩
    obtain ⟨⟨level, bound₂⟩, levelEq⟩ :
        ∃ step, term.level (anchor.valueAt term.field) bound₁ = step := ⟨_, rfl⟩
    simp only [cursorBranches, behindEq, levelEq] at later ⊢
    -- The parameters of both clauses are bound before those of the terms behind them.
    have levelLater : (term.level (anchor.valueAt term.field) bound₁).2 <+: final := by
      rw [levelEq]
      exact (cursorBranches_extends anchor rest _ _).trans later
    have behindLater : (term.behind (anchor.valueAt term.field) bound).2 <+: final := by
      rw [behindEq]
      exact (term.level_extends _ _).trans levelLater
    have behindTrue := behind_eval first behindLater
    have levelTrue := level_eval first levelLater
    rw [behindEq] at behindTrue
    rw [levelEq] at levelTrue
    rw [Clause.evalAny, Truth.or_eq_true, ih others _ later, Clause.eval, Clause.eval,
      Clause.evalAll_append, Clause.evalAll_append, Clause.evalAll_singleton,
      Clause.evalAll_singleton, behindTrue, levelTrue, compareRows]
    -- Behind in this field, or level with the anchor in it and not before it in the others.
    cases term.compare anchor record <;> simp [Ordering.then]

theorem fromCursor_extends (order : List OrderTerm) (anchor : Record) (bound : Bound) :
    bound <+: (fromCursor order anchor bound).2 := cursorBranches_extends anchor order [] bound

/-- The clause of a cursor is true of the rows at and behind the anchor in the order of the scan. -/
theorem fromCursor_eval {order : List OrderTerm} (known : OrderKnown entity order)
    (sortable : entity.canSort order = true) (anchorFits : entity.Fits anchor)
    (fits : entity.Fits record) (stores : entity.Stores row record)
    (faithful : OrderFaithful order record anchor)
    (later : (fromCursor order anchor bound).2 <+: final) :
    (fromCursor order anchor bound).1.eval final row = some true ↔
      compareRows order anchor record ≠ .gt := by
  have comparable : ∀ term ∈ order, ∃ field, Comparable entity anchor record row term field := by
    intro term member
    obtain ⟨field, found⟩ := known term member
    -- An order with a decimal is not left to the database.
    have notDecimal : field.kind ≠ .decimal := by
      intro decimal
      have sorted := List.all_eq_true.1 sortable term member
      simp [Entity.isDecimal, found, decimal] at sorted
    exact ⟨field, found, notDecimal, anchorFits _ field found, fits _ field found,
      stores _ field found notDecimal, faithful term member⟩
  have branches := cursorBranches_eval comparable [] later
  simpa [fromCursor, Clause.eval, Clause.evalAll] using branches

/-! ## The row of the cursor -/

namespace Address

/-- Whether a database can be trusted to find the row of an address.  It compares decimals as texts,
so a decimal in the address has to be written as it is stored. -/
def Faithful (entity : Entity) (address : Address) (row : StoredRow) (record : Record) : Prop :=
  ∀ name value, address.key.get? name = some value →
    if entity.isDecimal name then
      (row.cellAt name).compare? value.parameter.cell = some .eq ↔
        (record.valueAt name).same value = true
    else (record.valueAt name).ComparesAsStored value

theorem keyClauses_extends (entries : List (String × Value)) (bound : Bound) :
    bound <+: (keyClauses entries bound).2 := by
  induction entries generalizing bound with
  | nil => exact List.prefix_rfl
  | cons entry rest ih => exact (Value.bind_extends _ bound).trans (ih _)

/-- The clauses of a key are true where every cell is the one that is bound. -/
theorem keyClauses_eval {entries : List (String × Value)}
    (later : (keyClauses entries bound).2 <+: final) :
    Clause.evalAll final row (keyClauses entries bound).1 = some true ↔
      ∀ entry ∈ entries, (row.cellAt entry.1).compare? entry.2.parameter.cell = some .eq := by
  induction entries generalizing bound with
  | nil => simp [keyClauses, Clause.evalAll]
  | cons entry rest ih =>
    have laterFirst : (FieldTest.comparisonClause .equal entry.1 entry.2 bound).2 <+: final :=
      (keyClauses_extends rest _).trans later
    have laterOthers : (keyClauses rest (bound ++ [entry.2.parameter])).2 <+: final := later
    rw [keyClauses, Clause.evalAll, Truth.and_eq_true, FieldTest.comparisonClause_eval laterFirst,
      List.forall_mem_cons, ← ih laterOthers]
    refine and_congr_left fun _ => ?_
    cases (row.cellAt entry.1).compare? entry.2.parameter.cell <;>
      simp [Comparison.accepts]

/-- The clause of an address is true of exactly the rows that the address matches. -/
theorem clause_eval {address : Address}
    (holds : ∀ name value, address.key.get? name = some value →
      ∃ field, entity.field? name = some field ∧ field.kind.Holds value)
    (fits : entity.Fits record) (stores : entity.Stores row record)
    (faithful : address.Faithful entity row record)
    (later : (address.clause bound).2 <+: final) :
    (address.clause bound).1.eval final row = some true ↔ address.isOf record = true := by
  rw [isOf, List.all_eq_true]
  refine (keyClauses_eval later).trans (forall₂_congr ?_)
  rintro ⟨name, value⟩ member
  have bound := FieldMap.get?_eq_some.2 member
  obtain ⟨field, found, held⟩ := holds name value bound
  have trusted := faithful name value bound
  split at trusted
  · exact trusted
  · next other =>
    have notDecimal : field.kind ≠ .decimal := by
      intro decimal
      simp [Entity.isDecimal, found, decimal] at other
    rw [stores name field found notDecimal]
    rcases fits name field found with null | recordHeld
    · rw [null, Value.same_comm, Value.same_null_right, held.isNull_eq_false]
      cases field.kind.columnType <;>
        simp [Value.parameter, Parameter.cell, ColumnType.keep, Cell.compare?_null_left]
    · rw [FieldKind.compare?_cell notDecimal recordHeld held trusted,
        Value.same_iff_of_isNull_eq_false recordHeld.isNull_eq_false]

end Address

end RecordStore
