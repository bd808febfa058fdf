import RecordStore.Proofs.Database.Tests

/-! # The clause of a filter

A filter becomes a clause by recursion on its tree, with a flag for the polarity: whether the tree
stands below an even number of negations.  Conditions on decimals are replaced by constants, and with
them the clause errs.  `Truth.StandsFor` is the invariant of the recursion: the truth of a clause
errs on the side of its polarity only, and not at all where no condition was replaced.  It is stated
of truths that are known, because every clause of a filter is true or false of every row.

* `narrowingFrom_eval` is the induction on the tree.
* `narrowing_eval` is what a statement needs of it: the clause is true of every row that passes.
-/

namespace RecordStore

variable {entity : Entity} {record : Record} {row : StoredRow} {bound final : Bound}

/-! ## Parameters -/

theorem FieldTest.clause_extends (test : FieldTest) (field : String) (bound : Bound) :
    bound <+: (test.clause field bound).2 := by
  cases test with
  | equals operand =>
    cases operand <;> first | exact List.prefix_rfl | exact Value.bind_extends _ bound
  | gt operand | gte operand | lt operand | lte operand => exact operand.bind_extends bound
  | contains pattern | startsWith pattern => exact Value.bind_extends _ bound
  | endsWith pattern =>
    by_cases empty : pattern.text.isEmpty = true
    · rw [clause, if_pos empty]
    · rw [clause, if_neg empty]
      exact Value.bind_extends _ bound
  | oneOf operands | noneOf operands =>
    cases operands with
    | nil => exact List.prefix_rfl
    | cons operand rest => exact bindAll_extends (operand :: rest) bound

namespace Predicate

theorem leafNarrowing_extends (entity : Entity) (positive : Bool) (condition : Condition)
    (bound : Bound) : bound <+: (leafNarrowing entity positive condition bound).2 := by
  unfold leafNarrowing
  split
  · exact List.prefix_rfl
  · exact condition.test.clause_extends condition.field bound

mutual

theorem narrowingFrom_extends (entity : Entity) : ∀ (filter : Filter) (positive : Bool)
    (bound : Bound), bound <+: (filter.narrowingFrom entity positive bound).2
  | .leaf condition, positive, bound => leafNarrowing_extends entity positive condition bound
  | .and members, positive, bound | .or members, positive, bound => by
    rw [narrowingFrom]
    split
    · exact List.prefix_rfl
    · exact narrowingsFrom_extends entity members positive bound
  | .not members, positive, bound => by
    rw [narrowingFrom]
    split
    · exact List.prefix_rfl
    · exact narrowingsFrom_extends entity members (!positive) bound

theorem narrowingsFrom_extends (entity : Entity) : ∀ (members : List Filter) (positive : Bool)
    (bound : Bound), bound <+: (narrowingsFrom entity positive members bound).2
  | [], _, _ => List.prefix_rfl
  | member :: rest, positive, bound =>
    (narrowingFrom_extends entity member positive bound).trans
      (narrowingsFrom_extends entity rest positive _)

end

theorem narrowing_extends (entity : Entity) (filter : Filter) (bound : Bound) :
    bound <+: (filter.narrowing entity bound).2 := narrowingFrom_extends entity filter true bound

end Predicate

/-! ## Truths that err on one side -/

/-- Whether a truth can take the place of a verdict: it is known, it may be true by mistake in
positive places and false by mistake in negative ones, and where it is to be exact it is the verdict.
-/
def Truth.StandsFor (positive : Bool) (exact : Prop) (truth : Truth) (verdict : Bool) : Prop :=
  ∃ known, truth = some known ∧ (if positive then verdict ≤ known else known ≤ verdict) ∧
    (exact → known = verdict)

namespace Truth.StandsFor

variable {positive verdict verdict' : Bool} {exact exact' : Prop} {truth truth' : Truth}

theorem refl (positive : Bool) (exact : Prop) (verdict : Bool) :
    StandsFor positive exact (some verdict) verdict :=
  ⟨verdict, rfl, by split <;> exact le_rfl, fun _ => rfl⟩

theorem mono (stands : StandsFor positive exact truth verdict) (weaker : exact' → exact) :
    StandsFor positive exact' truth verdict := by
  obtain ⟨known, equal, leans, same⟩ := stands
  exact ⟨known, equal, leans, fun holds => same (weaker holds)⟩

theorem and (stands : StandsFor positive exact truth verdict)
    (stands' : StandsFor positive exact' truth' verdict') :
    StandsFor positive (exact ∧ exact') (truth.and truth') (verdict && verdict') := by
  obtain ⟨known, rfl, leans, same⟩ := stands
  obtain ⟨known', rfl, leans', same'⟩ := stands'
  refine ⟨known && known', ?_, ?_, fun both => by rw [same both.1, same' both.2]⟩
  · cases known <;> cases known' <;> rfl
  · cases positive
    · exact inf_le_inf leans leans'
    · exact inf_le_inf leans leans'

theorem or (stands : StandsFor positive exact truth verdict)
    (stands' : StandsFor positive exact' truth' verdict') :
    StandsFor positive (exact ∧ exact') (truth.or truth') (verdict || verdict') := by
  obtain ⟨known, rfl, leans, same⟩ := stands
  obtain ⟨known', rfl, leans', same'⟩ := stands'
  refine ⟨known || known', ?_, ?_, fun both => by rw [same both.1, same' both.2]⟩
  · cases known <;> cases known' <;> rfl
  · cases positive
    · exact sup_le_sup leans leans'
    · exact sup_le_sup leans leans'

/-- A negation turns the side on which a truth may err. -/
theorem not (stands : StandsFor (!positive) exact truth verdict) :
    StandsFor positive exact truth.not (!verdict) := by
  obtain ⟨known, rfl, leans, same⟩ := stands
  refine ⟨!known, rfl, ?_, fun holds => by rw [same holds]⟩
  cases positive
  · exact compl_le_compl leans
  · exact compl_le_compl leans

theorem eq_true (stands : StandsFor true exact truth verdict) (passes : verdict = true) :
    truth = some true := by
  obtain ⟨known, rfl, leans, -⟩ := stands
  subst passes
  cases known
  · exact absurd leans (by decide)
  · rfl

theorem eq_some (stands : StandsFor positive exact truth verdict) (holds : exact) :
    truth = some verdict := by
  obtain ⟨known, rfl, -, same⟩ := stands
  rw [same holds]

end Truth.StandsFor

/-! ## Trees -/

namespace Predicate

theorem isExact_iff {filter : Filter} :
    filter.isExact entity = true ↔
      ∀ condition ∈ filter.leaves, entity.isDecimal condition.field = false := by
  simp [isExact]

/-- Whether the clauses of the conditions of a filter say of a stored row what the conditions say of
a record. -/
def LeavesEvaluate (entity : Entity) (record : Record) (row : StoredRow) (final : Bound)
    (leaves : List Condition) : Prop :=
  ∀ condition ∈ leaves, entity.isDecimal condition.field = false → ∀ bound,
    (condition.test.clause condition.field bound).2 <+: final →
    ((condition.test.clause condition.field bound).1.eval final row).getD false
      = condition.meets record

theorem leafNarrowing_eval {condition : Condition}
    (evaluate : LeavesEvaluate entity record row final [condition]) {positive : Bool}
    (later : (leafNarrowing entity positive condition bound).2 <+: final) :
    Truth.StandsFor positive (entity.isDecimal condition.field = false)
      ((leafNarrowing entity positive condition bound).1.eval final row)
      (condition.meets record) := by
  unfold leafNarrowing at later ⊢
  split
  · next decimal =>
    -- The constant in place of the condition is the polarity, which errs on the right side.
    refine ⟨positive, rfl, ?_, fun other => absurd decimal (by simp [other])⟩
    cases positive
    · exact Bool.false_le _
    · exact Bool.le_true _
  · next other =>
    rw [if_neg other] at later
    have evaluated := evaluate condition List.mem_cons_self (by simpa using other) bound later
    simp only [Clause.eval, evaluated]
    exact .refl positive _ _

-- By recursion on the tree.  A list of members has both verdicts at once, since a negation needs
-- that of the disjunction and the other composites theirs.
mutual

theorem narrowingFrom_eval : ∀ (filter : Filter) {positive : Bool} {bound : Bound},
    LeavesEvaluate entity record row final filter.leaves →
    (filter.narrowingFrom entity positive bound).2 <+: final →
    Truth.StandsFor positive (∀ condition ∈ filter.leaves, entity.isDecimal condition.field = false)
      ((filter.narrowingFrom entity positive bound).1.eval final row) (filter.selects record)
  | .leaf condition, _, _, evaluate, later =>
    (leafNarrowing_eval evaluate later).mono fun exact => exact condition List.mem_cons_self
  | .and [], positive, _, _, _ => .refl positive _ true
  | .or [], positive, _, _, _ => .refl positive _ false
  | .not [], positive, _, _, _ => .refl positive _ true
  | .and (member :: rest), _, _, evaluate, later =>
    (narrowingsFrom_eval (member :: rest) evaluate later).1
  | .or (member :: rest), _, _, evaluate, later =>
    (narrowingsFrom_eval (member :: rest) evaluate later).2
  | .not (member :: rest), _, _, evaluate, later =>
    (narrowingsFrom_eval (member :: rest) evaluate later).2.not

theorem narrowingsFrom_eval : ∀ (members : List Filter) {positive : Bool} {bound : Bound},
    LeavesEvaluate entity record row final (leavesOfAll members) →
    (narrowingsFrom entity positive members bound).2 <+: final →
    Truth.StandsFor positive
      (∀ condition ∈ leavesOfAll members, entity.isDecimal condition.field = false)
      (Clause.evalAll final row (narrowingsFrom entity positive members bound).1)
      (holdsAll (fun condition => condition.meets record) members) ∧
    Truth.StandsFor positive
      (∀ condition ∈ leavesOfAll members, entity.isDecimal condition.field = false)
      (Clause.evalAny final row (narrowingsFrom entity positive members bound).1)
      (holdsAny (fun condition => condition.meets record) members)
  | [], positive, _, _, _ => ⟨.refl positive _ true, .refl positive _ false⟩
  | member :: rest, positive, _, evaluate, later => by
    have firstLater := (narrowingsFrom_extends entity rest positive _).trans later
    have evaluateBoth := List.forall_mem_append.1 evaluate
    have first := narrowingFrom_eval member evaluateBoth.1 firstLater
    obtain ⟨all, any⟩ := narrowingsFrom_eval rest evaluateBoth.2 later
    rw [leavesOfAll]
    simp only [List.forall_mem_append]
    exact ⟨first.and all, first.or any⟩

end

/-! ## Rows -/

/-- Whether a database can be trusted with the conditions of a filter, on a record; it is not asked
about decimals. -/
def Faithful (entity : Entity) (filter : Filter) (record : Record) : Prop :=
  ∀ condition ∈ filter.leaves, entity.isDecimal condition.field = false →
    condition.test.Faithful (record.valueAt condition.field)

theorem leavesEvaluate {filter : Filter} (suits : ∀ condition ∈ filter.leaves, condition.Suits entity)
    (fits : entity.Fits record) (stores : entity.Stores row record)
    (faithful : filter.Faithful entity record) :
    LeavesEvaluate entity record row final filter.leaves := by
  rintro ⟨name, test⟩ member notDecimal bound later
  obtain ⟨field, found, testSuits⟩ := suits ⟨name, test⟩ member
  have kind : field.kind ≠ .decimal := by
    intro decimal
    simp [Entity.isDecimal, found, decimal] at notDecimal
  have valueFits := fits name field found
  have cell := stores name field found kind
  obtain ⟨-, rfl⟩ := Entity.mem_of_field? found
  exact FieldTest.eval_clause testSuits kind valueFits (faithful _ member notDecimal) cell later

/-- The clause of a filter, with at least its own parameters bound, is true or false of a row that
stores a record: true if the record passes, and true only then if the filter is exact. -/
theorem narrowing_eval {filter : Filter} (suits : ∀ condition ∈ filter.leaves, condition.Suits entity)
    (fits : entity.Fits record) (stores : entity.Stores row record)
    (faithful : filter.Faithful entity record)
    (later : (filter.narrowing entity bound).2 <+: final) :
    Truth.StandsFor true (filter.isExact entity = true)
      ((filter.narrowing entity bound).1.eval final row) (filter.selects record) :=
  (narrowingFrom_eval filter (leavesEvaluate suits fits stores faithful) later).mono
    isExact_iff.1

end Predicate

end RecordStore
