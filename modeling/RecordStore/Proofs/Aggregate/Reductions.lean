import RecordStore.Aggregate.Having

/-! # Aggregates are found where they were computed

Aggregates are kept by the key of their selector and then by field, and one that was not computed reads
as null.  A condition on groups is therefore as good as the list of aggregates that are computed for
it: `mem_requiredAggregates` says that the list has every aggregate of the tree.

* `computeTerms_found` says what is found of each term, whether computed in this pass or before it.
* `selectsGroup_computeTerms` says that a tree is read as if each of its aggregates was computed on the
  spot.
-/

namespace RecordStore

/-! ## Computed aggregates -/

theorem Selector.key_injective {a b : Selector} (same : a.key = b.key) : a = b := by
  cases a <;> cases b <;> simp_all [Selector.key]

@[simp] theorem FieldMap.aggregate_insertAggregate (values : AggregateValues) (selector : Selector)
    (field : String) (value : Value) (selector' : Selector) (field' : String) :
    (values.insertAggregate selector field value).aggregate selector' field'
      = if selector' = selector ∧ field' = field then value
        else values.aggregate selector' field' := by
  unfold insertAggregate aggregate
  rw [get?_insert]
  by_cases same : selector' = selector
  · subst same
    rw [if_pos rfl]
    cases values.get? selector'.key <;> simp
  · rw [if_neg fun keys => same (Selector.key_injective keys), if_neg fun both => same both.1]

/-- Terms that were computed are found; other terms are found as before. -/
theorem computeTerms_found {records : List Record} {terms : List (Selector × String)}
    {values after : AggregateValues} (ran : computeTerms records terms values = .ok after) :
    (∀ term ∈ terms, term.1.compute term.2 records = .ok (after.aggregate term.1 term.2)) ∧
      ∀ term ∉ terms, after.aggregate term.1 term.2 = values.aggregate term.1 term.2 := by
  induction terms generalizing values with
  | nil =>
    cases ran
    exact ⟨by simp, fun _ _ => rfl⟩
  | cons head rest ih =>
    obtain ⟨selector, field⟩ := head
    rw [computeTerms] at ran
    cases computed : selector.compute field records with
    | error error =>
      rw [computed] at ran
      contradiction
    | ok value =>
      rw [computed] at ran
      obtain ⟨found, kept⟩ := ih ran
      refine ⟨List.forall_mem_cons.2 ⟨?_, found⟩, fun term absent => ?_⟩
      · -- The term may be listed again, and is computed to the same value then.
        by_cases again : (selector, field) ∈ rest
        · exact found _ again
        · rw [kept _ again, FieldMap.aggregate_insertAggregate, if_pos ⟨rfl, rfl⟩]
          exact computed
      · obtain ⟨other, behind⟩ := not_or.1 (mt List.mem_cons.2 absent)
        rw [kept term behind, FieldMap.aggregate_insertAggregate,
          if_neg fun same => other (Prod.ext same.1 same.2)]

theorem computeTerms_ok {records : List Record} {terms : List (Selector × String)}
    (computable : ∀ term ∈ terms, ∃ value, term.1.compute term.2 records = .ok value)
    (values : AggregateValues) : ∃ after, computeTerms records terms values = .ok after := by
  induction terms generalizing values with
  | nil => exact ⟨values, rfl⟩
  | cons head rest ih =>
    obtain ⟨⟨value, computed⟩, others⟩ := List.forall_mem_cons.1 computable
    obtain ⟨after, ran⟩ := ih others (values.insertAggregate head.1 head.2 value)
    exact ⟨after, by rw [computeTerms, computed]; exact ran⟩

/-! ## Counts -/

theorem int64?_natCast {n : Nat} (fits : n < Nat.pow 2 63) : int64? n = some (Int64.ofInt n) :=
  if_pos ⟨by omega, Int.ofNat_lt.2 fits⟩

theorem Selector.integer?_countValue {n : Nat} (fits : n < Nat.pow 2 63) :
    (Selector.countValue n).integer? = some (n : Int) := by
  have wide := int64?_natCast fits
  rw [countValue]
  cases narrow : int32? n with
  | some word => exact congrArg some (int32?_eq_some.1 narrow)
  | none =>
    rw [wide]
    exact congrArg some (int64?_eq_some.1 wide)

/-- Where all records are counted, their number is found. -/
theorem Selection.integer?_count {selection : Selection} {records : List Record}
    {values : AggregateValues} (evaluated : selection.evaluate records = .ok values)
    (asked : (.count, Selector.everyRecord) ∈ selection.terms) (fits : records.length < Nat.pow 2 63) :
    (values.aggregate .count Selector.everyRecord).integer? = some (records.length : Int) := by
  have counted := (computeTerms_found evaluated).1 _ asked
  rw [← Selector.integer?_countValue fits, ← Except.ok.inj counted]
  rfl

/-! ## Conditions on groups -/

/-- Whether a condition on groups is met by records with a key, of which the aggregates are computed
where they are tested. -/
def GroupCondition.metBy (key : Record) (records : List Record) : GroupCondition → Bool
  | .field condition => condition.meets key
  | .aggregate selector name test =>
    match selector.compute name records with
    | .ok value => test.passes value
    | .error _ => false

theorem Selection.mem_add {selection : Selection} {selector : Selector} {field : String}
    {term : Selector × String} :
    term ∈ (selection.add selector field).terms ↔
      term ∈ selection.terms ∨ term = (selector, field) := by
  unfold add
  split
  · next listed =>
    exact ⟨.inl, fun member => member.elim id fun same => same ▸ listed⟩
  · simp

namespace Predicate

variable {filter : Predicate GroupCondition}

theorem mem_requiredAggregates {selector : Selector} {field : String} {test : FieldTest}
    (tested : .aggregate selector field test ∈ filter.leaves) :
    (selector, field) ∈ filter.requiredAggregates := by
  -- The terms collected up to a leaf are kept behind it.
  suffices collected : ∀ (leaves : List GroupCondition) (selection : Selection),
      let required := leaves.foldl (fun selection leaf =>
        match leaf with
        | .field _ => selection
        | .aggregate selector field _ => selection.add selector field) selection
      (∀ term ∈ selection.terms, term ∈ required.terms) ∧
        (GroupCondition.aggregate selector field test ∈ leaves →
          (selector, field) ∈ required.terms) from
    (collected filter.leaves .empty).2 tested
  intro leaves
  induction leaves with
  | nil => exact fun selection => ⟨fun _ member => member, by simp⟩
  | cons leaf rest ih =>
    intro selection
    cases leaf with
    | field condition =>
      obtain ⟨kept, added⟩ := ih selection
      exact ⟨kept, fun member => added (by simpa using member)⟩
    | aggregate selector' field' test' =>
      obtain ⟨kept, added⟩ := ih (selection.add selector' field')
      refine ⟨fun term member => kept term (Selection.mem_add.2 (.inl member)), fun member => ?_⟩
      rcases List.mem_cons.1 member with same | behind
      · cases same
        exact kept _ (Selection.mem_add.2 (.inr rfl))
      · exact added behind

/-- A tree whose aggregates can be computed is read as if each was where it is tested. -/
theorem selectsGroup_computeTerms {records : List Record}
    (computable : ∀ term ∈ filter.requiredAggregates,
      ∃ value, term.1.compute term.2 records = .ok value)
    (key : Record) (values : AggregateValues) :
    ∃ tested, computeTerms records filter.requiredAggregates values = .ok tested ∧
      filter.selectsGroup key tested = filter.holds (GroupCondition.metBy key records) := by
  obtain ⟨tested, ran⟩ := computeTerms_ok computable values
  refine ⟨tested, ran, holds_congr filter fun condition member => ?_⟩
  cases condition with
  | field condition => rfl
  | aggregate selector field test =>
    have computed := (computeTerms_found ran).1 _ (mem_requiredAggregates member)
    rw [GroupCondition.meets, GroupCondition.metBy, computed]

theorem holds_of_isAlways {Leaf : Type} {filter : Predicate Leaf} (always : filter.isAlways = true)
    (reading : Leaf → Bool) : filter.holds reading = true := by
  unfold isAlways at always
  split at always
  · rfl
  · contradiction

end Predicate

end RecordStore
