import RecordStore.Proofs.Database.Placeholders
import RecordStore.Sql.Scan

/-! # What a clause binds

An operand of a clause is put behind the parameters that there are, and the clause gets the number
of its place.

* `Introduces` is the order in which placeholders may come: each number for the first time behind
  all smaller ones.  `Introduces.eraseDups` reads off it which numbers there are.
* `Binds` says of a clause that it puts its operands behind the parameters, from the left to the
  right, and that its placeholders introduce just these.

There is one lemma for each function that builds clauses.
-/

namespace RecordStore

/-! ## Numbers in the order of their first use -/

/-- Whether numbers go on behind those that have been `seen`, up to `last`: each is the next one, or
one of those behind `base` again. -/
inductive Introduces (base : Nat) : Nat → List Nat → Nat → Prop where
  | nil {seen : Nat} : Introduces base seen [] seen
  | next {seen last : Nat} {numbers : List Nat} (rest : Introduces base (seen + 1) numbers last) :
      Introduces base seen ((seen + 1) :: numbers) last
  | again {seen last number : Nat} {numbers : List Nat} (above : base < number)
      (known : number ≤ seen) (rest : Introduces base seen numbers last) :
      Introduces base seen (number :: numbers) last

namespace Introduces

variable {base base' seen middle last : Nat} {numbers numbers' : List Nat}

theorem append (front : Introduces base seen numbers middle)
    (back : Introduces base middle numbers' last) :
    Introduces base seen (numbers ++ numbers') last := by
  induction front with
  | nil => exact back
  | next _ ih => exact .next (ih back)
  | again above known _ ih => exact .again above known (ih back)

theorem mono (introduces : Introduces base seen numbers last) (lower : base' ≤ base) :
    Introduces base' seen numbers last := by
  induction introduces with
  | nil => exact .nil
  | next _ ih => exact .next ih
  | again above known _ ih => exact .again (lower.trans_lt above) known ih

theorem le (introduces : Introduces base seen numbers last) : seen ≤ last := by
  induction introduces with
  | nil => exact le_rfl
  | next _ ih => omega
  | again _ _ _ ih => exact ih

theorem mem_bounds (introduces : Introduces base seen numbers last) (lower : base ≤ seen) :
    ∀ number ∈ numbers, base < number ∧ number ≤ last := by
  induction introduces with
  | nil => simp
  | next rest ih =>
    have := rest.le
    exact List.forall_mem_cons.2 ⟨by omega, ih (by omega)⟩
  | again above known rest ih =>
    exact List.forall_mem_cons.2 ⟨⟨above, known.trans rest.le⟩, ih lower⟩

/-- Numbers that have been seen can come again. -/
theorem of_seen (known : ∀ number ∈ numbers, base < number ∧ number ≤ seen) :
    Introduces base seen numbers seen := by
  induction numbers with
  | nil => exact .nil
  | cons number rest ih =>
    obtain ⟨first, others⟩ := List.forall_mem_cons.1 known
    exact .again first.1 first.2 (ih others)

/-- The numbers that are new are those between `seen` and `last`, and come in increasing order. -/
theorem eraseDups_filter (introduces : Introduces base seen numbers last) :
    (numbers.filter (seen < ·)).eraseDups = List.range' (seen + 1) (last - seen) := by
  induction introduces with
  | nil => simp
  | @next seen last numbers rest ih =>
    have more := rest.le
    have others : (numbers.filter (seen < ·)).filter (fun number => !number == seen + 1)
        = numbers.filter (seen + 1 < ·) := by
      rw [List.filter_filter]
      refine List.filter_congr fun number _ => ?_
      rw [Bool.eq_iff_iff]
      simp
      omega
    have count : last - seen = (last - (seen + 1)) + 1 := by omega
    rw [List.filter_cons_of_pos (by simp), List.eraseDups_cons, others, ih, count,
      List.range'_succ]
  | again _ known _ ih => rw [List.filter_cons_of_neg (by simpa using known), ih]

theorem eraseDups (introduces : Introduces base base numbers last) :
    numbers.eraseDups = List.range' (base + 1) (last - base) := by
  have all : numbers.filter (base < ·) = numbers := by
    rw [List.filter_eq_self]
    intro number member
    simpa using (introduces.mem_bounds le_rfl number member).1
  rw [← introduces.eraseDups_filter, all]

end Introduces

/-! ## What is bound -/

/-- Whether operands have been put behind the parameters that there were, and numbers introduce just
them. -/
structure Binds (operands : List Value) (bound : Bound) (numbers : List Nat) (bound' : Bound) :
    Prop where
  bound_eq : bound' = bound ++ operands.map Value.parameter
  introduces : Introduces bound.length bound.length numbers bound'.length

namespace Binds

theorem nil (bound : Bound) : Binds [] bound [] bound := ⟨by simp, .nil⟩

theorem append {operands operands' : List Value} {numbers numbers' : List Nat}
    {bound middle bound' : Bound} (front : Binds operands bound numbers middle)
    (back : Binds operands' middle numbers' bound') :
    Binds (operands ++ operands') bound (numbers ++ numbers') bound' where
  bound_eq := by rw [back.bound_eq, front.bound_eq, List.map_append, List.append_assoc]
  introduces := front.introduces.append (back.introduces.mono front.introduces.le)

theorem bind (value : Value) (bound : Bound) :
    Binds [value] bound [bound.length + 1] (value.bind bound).2 where
  bound_eq := rfl
  introduces := by
    rw [Value.bind, List.length_append]
    exact .next .nil

/-- A placeholder that is written twice. -/
theorem bind_twice (value : Value) (bound : Bound) :
    Binds [value] bound [bound.length + 1, bound.length + 1] (value.bind bound).2 where
  bound_eq := rfl
  introduces := by
    rw [Value.bind, List.length_append]
    exact .next (.again bound.length.lt_succ_self le_rfl .nil)

end Binds

@[simp]
theorem numbers_bind (value : Value) (bound : Bound) :
    (value.bind bound).1.numbers = [bound.length + 1] := rfl

theorem bindAll_binds (operands : List Value) (bound : Bound) :
    Binds operands bound ((bindAll operands bound).1.flatMap Scalar.numbers)
      (bindAll operands bound).2 := by
  induction operands generalizing bound with
  | nil => exact .nil bound
  | cons value rest ih => exact (Binds.bind value bound).append (ih _)

namespace FieldTest

/-- The operands of a test that become parameters. -/
def operands : FieldTest → List Value
  | .equals .null => []
  | .equals operand => [operand]
  | .gt operand => [operand]
  | .gte operand => [operand]
  | .lt operand => [operand]
  | .lte operand => [operand]
  | .oneOf operands => operands
  | .noneOf operands => operands
  | .contains pattern => [.string pattern.text]
  | .startsWith pattern => [.string pattern.text]
  | .endsWith pattern => if pattern.text.isEmpty then [] else [.string pattern.text]

theorem comparisonClause_binds (comparison : Comparison) (field : String) (operand : Value)
    (bound : Bound) :
    Binds [operand] bound (comparisonClause comparison field operand bound).1.numbers
      (comparisonClause comparison field operand bound).2 :=
  Binds.bind operand bound

@[simp]
theorem numbers_seenIn (mode : CaseMode) (operand : Scalar) :
    (seenIn mode operand).numbers = operand.numbers := by
  cases mode <;> rfl

theorem clause_binds (test : FieldTest) (field : String) (bound : Bound) :
    Binds test.operands bound (test.clause field bound).1.numbers (test.clause field bound).2 := by
  cases test with
  | equals operand =>
    cases operand <;> first | exact .nil bound | exact comparisonClause_binds _ field _ bound
  | gt operand | gte operand | lt operand | lte operand =>
    exact comparisonClause_binds _ field operand bound
  | oneOf operands =>
    cases operands with
    | nil => exact .nil bound
    | cons operand rest => exact bindAll_binds (operand :: rest) bound
  | noneOf operands =>
    cases operands with
    | nil => exact .nil bound
    | cons operand rest =>
      have items := bindAll_binds (operand :: rest) bound
      simpa [operands, clause, Clause.numbers, Clause.numbersOfAll, Scalar.numbers] using items
  | contains pattern =>
    have once := Binds.bind (.string pattern.text) bound
    simpa [operands, clause, textClause, Clause.numbers, Scalar.numbers] using once
  | startsWith pattern =>
    have twice := Binds.bind_twice (.string pattern.text) bound
    simpa [operands, clause, textClause, Clause.numbers, Scalar.numbers] using twice
  | endsWith pattern =>
    by_cases empty : pattern.text.isEmpty = true
    · rw [operands, clause, if_pos empty, if_pos empty]
      exact .nil bound
    · rw [operands, clause, if_neg empty, if_neg empty]
      have twice := Binds.bind_twice (.string pattern.text) bound
      simpa [textClause, Clause.numbers, Scalar.numbers] using twice

end FieldTest

namespace Predicate

/-- The operands of a condition that become parameters; those of a condition on a decimal do not. -/
def leafOperands (entity : Entity) (condition : Condition) : List Value :=
  if entity.isDecimal condition.field then [] else condition.test.operands

/-- The operands of a filter that become parameters, from the left to the right. -/
def operands (entity : Entity) (filter : Predicate Condition) : List Value :=
  filter.leaves.flatMap (leafOperands entity)

theorem leafNarrowing_binds (entity : Entity) (positive : Bool) (condition : Condition)
    (bound : Bound) :
    Binds (leafOperands entity condition) bound
      (leafNarrowing entity positive condition bound).1.numbers
      (leafNarrowing entity positive condition bound).2 := by
  unfold leafOperands leafNarrowing
  split
  · exact .nil bound
  · exact condition.test.clause_binds condition.field bound

mutual

theorem narrowingFrom_binds (entity : Entity) :
    ∀ (filter : Predicate Condition) (positive : Bool) (bound : Bound),
      Binds (filter.operands entity) bound (filter.narrowingFrom entity positive bound).1.numbers
        (filter.narrowingFrom entity positive bound).2
  | .leaf condition, positive, bound => by
    simpa [operands, leaves, narrowingFrom] using
      leafNarrowing_binds entity positive condition bound
  | .and members, positive, bound | .or members, positive, bound => by
    rw [narrowingFrom]
    split
    · next none => rw [List.isEmpty_iff.1 none]; exact .nil bound
    · exact narrowingsFrom_binds entity members positive bound
  | .not members, positive, bound => by
    rw [narrowingFrom]
    split
    · next none => rw [List.isEmpty_iff.1 none]; exact .nil bound
    · exact narrowingsFrom_binds entity members (!positive) bound

theorem narrowingsFrom_binds (entity : Entity) :
    ∀ (members : List (Predicate Condition)) (positive : Bool) (bound : Bound),
      Binds ((leavesOfAll members).flatMap (leafOperands entity)) bound
        (Clause.numbersOfAll (narrowingsFrom entity positive members bound).1)
        (narrowingsFrom entity positive members bound).2
  | [], _, bound => .nil bound
  | member :: rest, positive, bound => by
    rw [leavesOfAll, List.flatMap_append]
    exact (narrowingFrom_binds entity member positive bound).append
      (narrowingsFrom_binds entity rest positive _)

end

end Predicate

namespace Address

theorem keyClauses_binds (entries : List (String × Value)) (bound : Bound) :
    Binds (entries.map (·.2)) bound (Clause.numbersOfAll (keyClauses entries bound).1)
      (keyClauses entries bound).2 := by
  induction entries generalizing bound with
  | nil => exact .nil bound
  | cons entry rest ih =>
    exact (FieldTest.comparisonClause_binds .equal entry.1 entry.2 bound).append (ih _)

end Address

/-! ## What a cursor binds -/

/-- The operand of a comparison with a value; nothing is compared with null. -/
def Value.operand (value : Value) : List Value := if value.isNull then [] else [value]

namespace OrderTerm

theorem behind_binds (term : OrderTerm) (value : Value) (bound : Bound) :
    Binds value.operand bound (term.behind value bound).1.numbers (term.behind value bound).2 := by
  unfold behind
  cases term.direction <;> cases value <;>
    first
    | exact .nil bound
    | exact .bind _ bound

theorem level_binds (term : OrderTerm) (value : Value) (bound : Bound) :
    Binds value.operand bound (term.level value bound).1.numbers (term.level value bound).2 := by
  cases value <;>
    first
    | exact .nil bound
    | exact .bind _ bound

end OrderTerm

/-- The operands of the clause that starts at a row: each value twice, for the rows behind it and
for those level with it. -/
def cursorOperands (order : List OrderTerm) (anchor : Record) : List Value :=
  order.flatMap fun term =>
    (anchor.valueAt term.field).operand ++ (anchor.valueAt term.field).operand

theorem numbersOfAll_concat (members : List Clause) (member : Clause) :
    Clause.numbersOfAll (members ++ [member]) = Clause.numbersOfAll members ++ member.numbers := by
  simp [Clause.numbersOfAll_eq_flatMap]

/-- A level is bound in front of the branch in which it is written for the first time.  So the
numbers that have been seen may fall behind those that are bound, but only by what the levels
introduce. -/
theorem cursorBranches_binds (anchor : Record) (order : List OrderTerm) (levels : List Clause)
    (bound : Bound) {base seen : Nat} (lower : base ≤ seen)
    (pending : Introduces base seen (Clause.numbersOfAll levels) bound.length) :
    (cursorBranches anchor order levels bound).2
        = bound ++ (cursorOperands order anchor).map Value.parameter ∧
      Introduces base seen (Clause.numbersOfAll (cursorBranches anchor order levels bound).1)
        (cursorBranches anchor order levels bound).2.length := by
  induction order generalizing levels bound seen with
  | nil =>
    refine ⟨by simp [cursorBranches, cursorOperands], ?_⟩
    simpa [cursorBranches, Clause.numbersOfAll, Clause.numbers] using pending
  | cons term rest ih =>
    have behind := term.behind_binds (anchor.valueAt term.field) bound
    have level := term.level_binds (anchor.valueAt term.field)
      (term.behind (anchor.valueAt term.field) bound).2
    have lowerBound : base ≤ bound.length := lower.trans pending.le
    have branch := pending.append (behind.introduces.mono lowerBound)
    -- In the branches that follow, the earlier levels come again, and the new one comes first.
    have again := Introduces.of_seen fun number member =>
      (pending.mem_bounds lower number member).imp_right (·.trans behind.introduces.le)
    have next := again.append
      (level.introduces.mono (lowerBound.trans behind.introduces.le))
    rw [← numbersOfAll_concat] at branch next
    obtain ⟨params, branches⟩ := ih _ _ (lower.trans branch.le) next
    constructor
    · rw [cursorBranches, params, level.bound_eq, behind.bound_eq]
      simp [cursorOperands]
    · exact branch.append branches

theorem fromCursor_binds (order : List OrderTerm) (anchor : Record) (bound : Bound) :
    Binds (cursorOperands order anchor) bound (fromCursor order anchor bound).1.numbers
      (fromCursor order anchor bound).2 := by
  obtain ⟨params, introduces⟩ := cursorBranches_binds anchor order [] bound le_rfl .nil
  exact ⟨params, introduces⟩

end RecordStore
