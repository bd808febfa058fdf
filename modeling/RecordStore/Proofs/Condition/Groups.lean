import RecordStore.Proofs.Condition.Trees

/-! # Conditions on groups without aggregates are filters

A condition on groups that tests no aggregate, where every field is grouped, is read as the filter of
the same text is: to the same tree, with every leaf a condition on the key of the group, or to the same
error.  It holds of a group if the filter selects its key.

* `GroupFilter.testsAggregates` tells whether the entry of a field has a selector among its operators.
* `inGroups` carries a reading of a filter over to groups; the one error that is renamed by it is that of
  a tree that is no object.  `readEntryUnder_sameInGroups` says that the entries of fields have no such error.
* `readObject_inGroups` goes through the tree.
-/

namespace RecordStore

/-! ## Errors -/

/-- An error of a filter, as that of a condition on groups: where a tree is no object, the condition is
named by another argument. -/
def ValidationError.inGroups : ValidationError → ValidationError
  | .invalidFilter "where" "-" .expectedObject => .invalidFilter "having" "-" .expectedObject
  | error => error

theorem ValidationError.inGroups_invalidFilter {field operator : String} {fault : FilterFault}
    (other : fault ≠ .expectedObject) :
    (invalidFilter field operator fault).inGroups = invalidFilter field operator fault := by
  unfold inGroups
  split
  · next isObject =>
    cases isObject
    exact absurd rfl other
  · rfl

/-- Whether a reading fails with errors only that are the same for conditions on groups. -/
def SameInGroups {α : Type} (reading : Except ValidationError α) : Prop :=
  ∀ error, reading = .error error → error.inGroups = error

namespace SameInGroups

variable {α β : Type}

theorem ok (a : α) : SameInGroups (.ok a) := fun _ failed => nomatch failed

theorem fault {field operator : String} {fault : FilterFault} (other : fault ≠ .expectedObject) :
    SameInGroups (.error (.invalidFilter field operator fault) : Except ValidationError α) := by
  intro error failed
  cases failed
  exact ValidationError.inGroups_invalidFilter other

theorem mismatch {field : String} {mismatch : Mismatch} :
    SameInGroups (.error (.typeMismatch field mismatch) : Except ValidationError α) := by
  intro error failed
  cases failed
  rfl

theorem bind {x : Except ValidationError α} {f : α → Except ValidationError β}
    (first : SameInGroups x) (later : ∀ a, SameInGroups (f a)) : SameInGroups (x >>= f) := by
  intro error failed
  rcases bind_eq_error.1 failed with here | ⟨a, -, there⟩
  · exact first error here
  · exact later a error there

theorem mapM {f : α → Except ValidationError β} (each : ∀ a, SameInGroups (f a)) :
    ∀ items : List α, SameInGroups (items.mapM f)
  | [] => ok []
  | item :: rest => by
    rw [List.mapM_cons]
    exact (each item).bind fun _ => (mapM each rest).bind fun _ => ok _

end SameInGroups

namespace Condition

variable (field : Field) (maxDepth : Nat)

theorem readOperand_sameInGroups (operator : String) (allowNull : Bool) (raw : Json) :
    SameInGroups (readOperand field operator allowNull raw) := by
  unfold readOperand
  split
  · split
    · exact .ok _
    · exact .mismatch
  · intro error failed
    obtain ⟨cause, -, rfl⟩ := mapError_eq_error.1 failed
    rfl

theorem readOperands_sameInGroups (operator : String) (raw : Json) :
    SameInGroups (readOperands field operator raw) := by
  unfold readOperands
  split
  · exact .mapM (readOperand_sameInGroups field operator false) _
  · exact .mismatch

theorem readOperator_sameInGroups (mode : CaseMode) (name : String) (raw : Json) :
    SameInGroups (readOperator field mode name raw) := by
  unfold readOperator
  split
  · exact .fault (by simp)
  · exact (readOperand_sameInGroups field name true raw).bind fun _ => .ok _
  · exact (readOperands_sameInGroups field name raw).bind fun _ => .ok _
  · exact (readOperands_sameInGroups field name raw).bind fun _ => .ok _
  · split
    · exact (readOperand_sameInGroups field name false raw).bind fun _ => .ok _
    · exact .fault (by simp)
  · split
    · exact (readOperand_sameInGroups field name false raw).bind fun _ => .ok _
    · exact .fault (by simp)

theorem readMode_sameInGroups (operators : List (String × Json)) :
    SameInGroups (readMode field operators) := by
  unfold readMode
  repeat' split
  all_goals first | exact .ok _ | exact .fault (by simp)

mutual

theorem readEntryUnder_sameInGroups (operator : String) (depth : Nat) :
    ∀ raw : Json, SameInGroups (readEntryUnder field maxDepth operator depth raw)
  | raw => by
    unfold readEntryUnder
    split
    · exact (readMode_sameInGroups field _).bind fun mode =>
        (readOperators_sameInGroups mode depth _).bind fun _ => .ok _
    · exact (readOperand_sameInGroups field operator true raw).bind fun _ => .ok _

theorem readOperators_sameInGroups (mode : CaseMode) (depth : Nat) :
    ∀ operators : List (String × Json),
      SameInGroups (readOperators field maxDepth mode depth operators)
  | [] => .ok []
  | (name, raw) :: rest => by
    unfold readOperators
    split
    · exact readOperators_sameInGroups mode depth rest
    · split
      · split
        · exact .fault (by simp)
        · exact (readEntryUnder_sameInGroups name (depth + 1) raw).bind fun _ =>
            (readOperators_sameInGroups mode depth rest).bind fun _ => .ok _
      · exact (readOperator_sameInGroups field mode name raw).bind fun _ =>
          (readOperators_sameInGroups mode depth rest).bind fun _ => .ok _

end

end Condition

/-! ## Readings -/

/-- A reading of a filter, or of a part of one, as that of a condition on groups. -/
def inGroups {α β : Type} (f : α → β) (reading : Except ValidationError α) :
    Except ValidationError β :=
  (reading.mapError ValidationError.inGroups).map f

section Readings

variable {α β γ δ : Type} {f : α → β} {g : γ → δ}

theorem inGroups_bind {x : Except ValidationError α} {later : α → Except ValidationError γ}
    {later' : β → Except ValidationError δ} (each : ∀ a, later' (f a) = inGroups g (later a)) :
    inGroups f x >>= later' = inGroups g (x >>= later) := by
  cases x with
  | error error => rfl
  | ok a => exact each a

theorem SameInGroups.inGroups_eq {x : Except ValidationError α} (same : SameInGroups x) :
    inGroups f x = x.map f := by
  cases x with
  | error error => exact congrArg Except.error (same error rfl)
  | ok a => rfl

end Readings

/-! ## Trees -/

namespace Predicate

variable {Leaf Leaf' : Type}

theorem map_conjunction (f : Leaf → Leaf') (members : List (Predicate Leaf)) :
    (conjunction members).map f = conjunction (mapAll f members) := by
  match members with
  | [] => rfl
  | [_] => rfl
  | _ :: _ :: _ => rfl

theorem map_combine (f : Leaf → Leaf') (composite : Composite) (members : List (Predicate Leaf)) :
    (composite.combine members).map f = composite.combine (mapAll f members) := by
  cases composite <;> rfl

end Predicate

namespace GroupFilter

/-- Whether the entry of a field has a selector among its operators. -/
def hasSelector : Json → Bool
  | .obj operators => operators.any fun operator => (Selector.ofKey? operator.1).isSome
  | _ => false

mutual

/-- Whether a condition on groups tests an aggregate of some field of an entity. -/
def testsAggregates (entity : Entity) : Json → Bool
  | .obj entries => entriesTestAggregates entity entries
  | _ => false

def entriesTestAggregates (entity : Entity) : List (String × Json) → Bool
  | [] => false
  | (key, raw) :: rest =>
    (if (Composite.ofKey? key).isSome then membersTestAggregates entity raw
      else (entity.field? key).isSome && hasSelector raw) || entriesTestAggregates entity rest

def membersTestAggregates (entity : Entity) : Json → Bool
  | .arr items => someTestsAggregates entity items
  | .obj entries => entriesTestAggregates entity entries
  | _ => false

def someTestsAggregates (entity : Entity) : List Json → Bool
  | [] => false
  | item :: rest => testsAggregates entity item || someTestsAggregates entity rest

end

theorem splitEntry_of_no_selector {operators : List (String × Json)}
    (none : hasSelector (.obj operators) = false) : splitEntry operators = ([], operators) := by
  induction operators with
  | nil => rfl
  | cons operator rest ih =>
    simp only [hasSelector, List.any_cons, Bool.or_eq_false_iff, Option.isSome_eq_false_iff,
      Option.isNone_iff_eq_none] at none
    rw [splitEntry, ih none.2]
    simp only [none.1]

variable {entity : Entity} {grouped : List String} {maxDepth : Nat}

theorem readPlain_eq {field : Field} (isGrouped : field.name ∈ grouped) (depth : Nat) (raw : Json) :
    readPlain field grouped maxDepth depth raw =
      (Condition.readEntry field maxDepth depth raw).map (Predicate.map GroupCondition.field) := by
  rw [readPlain, if_neg (not_not.2 isGrouped)]
  cases Condition.readEntry field maxDepth depth raw <;> rfl

/-- The entry of a field without selectors is the entry of a filter. -/
theorem readField_eq (all : ∀ field ∈ entity.fields, field.name ∈ grouped) {name : String}
    {raw : Json} (plain : ((entity.field? name).isSome && hasSelector raw) = false) (depth : Nat) :
    (rules entity grouped maxDepth).readField name depth raw =
      inGroups (Predicate.map GroupCondition.field)
        ((Filter.rules entity maxDepth).readField name depth raw) := by
  change readField entity grouped maxDepth name depth raw = inGroups _ (entity.filterField name >>= _)
  cases found : entity.field? name with
  | none =>
    simp only [readField, Entity.filterField, found]
    exact (congrArg Except.error (ValidationError.inGroups_invalidFilter (by simp))).symm
  | some field =>
    have isGrouped : field.name ∈ grouped := all field (Entity.mem_of_field? found).1
    have read : inGroups (Predicate.map GroupCondition.field)
        (Condition.readEntry field maxDepth depth raw)
          = readPlain field grouped maxDepth depth raw := by
      rw [readPlain_eq isGrouped]
      exact (Condition.readEntryUnder_sameInGroups field maxDepth "equals" depth raw).inGroups_eq
    simp only [readField, Entity.filterField, found, Except.bind, bind]
    rw [read]
    split
    · next operators =>
      rw [found, Option.isSome_some, Bool.true_and] at plain
      rw [splitEntry_of_no_selector plain]
      cases operators with
      | nil =>
        rw [readPlain_eq isGrouped]
        rfl
      | cons operator rest =>
        change (readPlain field grouped maxDepth depth (.obj (operator :: rest)) >>= _) = _
        cases readPlain field grouped maxDepth depth (.obj (operator :: rest)) <;> rfl
    · cases readPlain field grouped maxDepth depth raw <;> rfl

-- One theorem for each of the functions that read a tree: each step of the one reader is the same step of
-- the other.
mutual

theorem readObject_inGroups (all : ∀ field ∈ entity.fields, field.name ∈ grouped) {depth : Nat} :
    ∀ {raw : Json}, testsAggregates entity raw = false →
    Predicate.readObject (rules entity grouped maxDepth) depth raw =
      inGroups (Predicate.map GroupCondition.field)
        (Predicate.readObject (Filter.rules entity maxDepth) depth raw)
  | .obj entries, plain => by
    rw [Predicate.readObject, Predicate.readObject, readEntries_inGroups all plain]
    exact inGroups_bind fun members => congrArg Except.ok (Predicate.map_conjunction _ members).symm
  | .null, _ | .bool _, _ | .int _, _ | .float _, _ | .str _, _ | .arr _, _ => rfl

theorem readEntries_inGroups (all : ∀ field ∈ entity.fields, field.name ∈ grouped) {depth : Nat} :
    ∀ {entries : List (String × Json)}, entriesTestAggregates entity entries = false →
    Predicate.readEntries (rules entity grouped maxDepth) depth entries =
      inGroups (Predicate.mapAll GroupCondition.field)
        (Predicate.readEntries (Filter.rules entity maxDepth) depth entries)
  | [], _ => rfl
  | (key, raw) :: rest, plain => by
    simp only [entriesTestAggregates, Bool.or_eq_false_iff] at plain
    obtain ⟨here, there⟩ := plain
    rw [Predicate.readEntries, Predicate.readEntries]
    cases composite : Composite.ofKey? key with
    | none =>
      simp only [composite, Option.isSome_none, Bool.false_eq_true, if_false] at here
      simp only [readField_eq all here depth]
      refine inGroups_bind fun member => ?_
      rw [readEntries_inGroups all there]
      exact inGroups_bind fun members => rfl
    | some kind =>
      simp only [composite, Option.isSome_some, if_true] at here
      change (if maxDepth < depth + 1 then _ else _)
        = inGroups _ (if maxDepth < depth + 1 then _ else _)
      split
      · exact (congrArg Except.error (ValidationError.inGroups_invalidFilter (by simp))).symm
      · rw [readMembers_inGroups all here]
        refine inGroups_bind fun members => ?_
        simp only [pure_bind, ← Predicate.map_combine, readEntries_inGroups all there]
        exact inGroups_bind fun others => rfl

theorem readMembers_inGroups (all : ∀ field ∈ entity.fields, field.name ∈ grouped)
    {key : String} {depth : Nat} : ∀ {raw : Json}, membersTestAggregates entity raw = false →
    Predicate.readMembers (rules entity grouped maxDepth) key depth raw =
      inGroups (Predicate.mapAll GroupCondition.field)
        (Predicate.readMembers (Filter.rules entity maxDepth) key depth raw)
  | .arr items, plain => by
    rw [Predicate.readMembers, Predicate.readMembers, readAll_inGroups all plain]
  | .obj entries, plain => by
    rw [Predicate.readMembers, Predicate.readMembers, readEntries_inGroups all plain]
    refine inGroups_bind fun members => congrArg Except.ok ?_
    rw [Predicate.mapAll, Predicate.mapAll, Predicate.map_conjunction]
  | .null, _ | .bool _, _ | .int _, _ | .float _, _ | .str _, _ =>
    (congrArg Except.error (ValidationError.inGroups_invalidFilter (by simp))).symm

theorem readAll_inGroups (all : ∀ field ∈ entity.fields, field.name ∈ grouped) {depth : Nat} :
    ∀ {items : List Json}, someTestsAggregates entity items = false →
    Predicate.readAll (rules entity grouped maxDepth) depth items =
      inGroups (Predicate.mapAll GroupCondition.field)
        (Predicate.readAll (Filter.rules entity maxDepth) depth items)
  | [], _ => rfl
  | raw :: rest, plain => by
    simp only [someTestsAggregates, Bool.or_eq_false_iff] at plain
    obtain ⟨here, there⟩ := plain
    rw [Predicate.readAll, Predicate.readAll, readObject_inGroups all here]
    refine inGroups_bind fun member => ?_
    rw [readAll_inGroups all there]
    exact inGroups_bind fun members => rfl

end

end GroupFilter

/-- A condition on groups that tests no aggregate, where every field is grouped, is read as the filter of
the same text: to the same tree, with conditions on the key for leaves, or to the same error, but for the
name of a tree that is no object.  A group passes it, whatever its aggregates are, if the filter selects
the key of the group. -/
theorem GroupFilter.read_eq_filter {entity : Entity} {grouped : List String} {raw : Json}
    (all : ∀ field ∈ entity.fields, field.name ∈ grouped)
    (plain : testsAggregates entity raw = false) (maxDepth : Nat) :
    GroupFilter.read entity grouped maxDepth raw =
      inGroups (Predicate.map .field) (Filter.read entity maxDepth raw) ∧
    ∀ filter groupFilter, Filter.read entity maxDepth raw = .ok filter →
      GroupFilter.read entity grouped maxDepth raw = .ok groupFilter →
        ∀ key values, groupFilter.selectsGroup key values = filter.selects key := by
  have alike : GroupFilter.read entity grouped maxDepth raw =
      inGroups (Predicate.map .field) (Filter.read entity maxDepth raw) := by
    unfold GroupFilter.read Filter.read Predicate.readTree
    split
    · rfl
    · exact readObject_inGroups all plain
  refine ⟨alike, fun filter groupFilter filterRead groupRead key values => ?_⟩
  rw [alike, filterRead] at groupRead
  cases groupRead
  exact Predicate.holds_map _ _ filter

/-! ### Readings in groups -/

/-- The readings of a number up to one and without a note. -/
def earlyReadings : Json :=
  .obj [("AND", .arr [.obj [("Id", .obj [])],
    .obj [("Id", .obj [("not", .obj [("gt", .int 1)])]), ("Note", .null)]])]

theorem earlyReadings_grouped :
    (∃ groupFilter, GroupFilter.read readings ["Id", "Note"] 2 earlyReadings = .ok groupFilter ∧
      ∀ values, groupFilter.selectsGroup (.ofList [("Id", .int 1), ("Note", .null)]) values = true) ∧
    GroupFilter.read readings ["Id", "Note"] 1 (.obj [("NOT", .arr [.int 1])])
      = .error (.invalidFilter "having" "-" .expectedObject) := by
  have all : ∀ field ∈ readings.fields, field.name ∈ ["Id", "Note"] := by decide
  constructor
  · have plain : GroupFilter.testsAggregates readings earlyReadings = false := by decide
    have filterRead : Filter.read readings 2 earlyReadings
        = .ok (.and [.and [], .and [.not [.leaf ⟨"Id", .gt (.int 1)⟩],
            .leaf ⟨"Note", .equals .null⟩]]) := rfl
    obtain ⟨alike, selects⟩ := GroupFilter.read_eq_filter all plain 2
    rw [filterRead] at alike
    refine ⟨_, alike, fun values => ?_⟩
    rw [selects _ _ filterRead alike]
    decide
  · have plain : GroupFilter.testsAggregates readings (.obj [("NOT", .arr [.int 1])]) = false := by
      decide
    rw [(GroupFilter.read_eq_filter all plain 1).1]
    rfl

end RecordStore
