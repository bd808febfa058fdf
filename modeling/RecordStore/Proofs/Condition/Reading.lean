import RecordStore.Proofs.Condition.Grammar
import RecordStore.Proofs.Typing.Filters

/-! # Filters are read as they are meant

The reader takes the values of the grammar, nested as deep as it allows, and no others; and the tree
that it makes of one selects the records of which the value holds.

There are two inductions on the JSON value, first for the entry of a field and then for a filter:
one from a reading that has succeeded to the grammar and the verdict, and one back from the grammar
to a reading.  Both go along with the depth, which stays within the limit as far as anything has
been read.
-/

namespace RecordStore

namespace Condition

variable {field : Field}

/-! ## Operands and tests -/

theorem readOperand_eq_ok {operator : String} {allowNull : Bool} {raw : Json} {operand : Value} :
    readOperand field operator allowNull raw = .ok operand ↔
      IsOperand field allowNull raw ∧ operand = operandOf field raw := by
  unfold readOperand
  split
  · next null =>
    obtain rfl : raw = .null := by cases raw <;> first | rfl | contradiction
    by_cases allowed : allowNull = true ∧ field.nullable = true
    · rw [if_pos (by simpa using allowed)]
      simp only [Except.ok.injEq, operandOf, Value.coerce]
      exact ⟨fun equal => ⟨.null allowed.1 allowed.2, equal.symm⟩, fun both => both.2.symm⟩
    · rw [if_neg (by simpa using allowed)]
      simp only [reduceCtorEq, false_iff]
      rintro ⟨isOperand, -⟩
      cases isOperand with
      | null allow nullable => exact allowed ⟨allow, nullable⟩
      | value present => contradiction
  · next present =>
    rw [mapError_eq_ok]
    constructor
    · intro coerces
      exact ⟨.value (by simpa using present) coerces, by rw [operandOf, coerces]; rfl⟩
    · rintro ⟨isOperand, rfl⟩
      cases isOperand with
      | null => contradiction
      | value _ coerces => rw [operandOf, coerces]; rfl

theorem readOperands_eq_ok {operator : String} {raw : Json} {operands : List Value} :
    readOperands field operator raw = .ok operands ↔
      ∃ items, raw = .arr items ∧ (∀ item ∈ items, IsOperand field false item) ∧
        operands = items.map (operandOf field) := by
  have each : ∀ items : List Json,
      List.Forall₂ (fun item operand => operand = operandOf field item) items operands ↔
        operands = items.map (operandOf field) := by
    intro items
    rw [eq_comm, ← List.forall₂_eq_eq_eq, List.forall₂_map_left_iff]
    simp only [eq_comm]
  unfold readOperands
  split
  · simp only [Json.arr.injEq, exists_eq_left', mapM_eq_ok, readOperand_eq_ok,
      List.forall₂_and_left, each]
  · next other =>
    simp only [reduceCtorEq, false_iff]
    rintro ⟨items, equal, -⟩
    exact other items equal

theorem readMode_eq_ok {operators : List (String × Json)} {mode : CaseMode} :
    readMode field operators = .ok mode ↔
      HasLegalMode field operators ∧ mode = modeOf operators := by
  have beside : (operators.any fun entry => isTextOperator entry.1) = true ↔
      ∃ entry ∈ operators, entry.1 ∈ ["contains", "startsWith", "endsWith"] := by
    simp [isTextOperator, or_assoc]
  constructor
  · intro read
    unfold readMode at read
    split at read
    · next absent =>
      cases read
      exact ⟨.absent absent, by rw [modeOf, absent]⟩
    · next raw given =>
      split at read
      · next isText =>
        split at read
        · cases read
          exact ⟨.sensitive isText given, by simp [modeOf, given]⟩
        · split at read
          · next text =>
            cases read
            exact ⟨.insensitive isText given (beside.1 text), by simp [modeOf, given]⟩
          · contradiction
        · contradiction
      · contradiction
  · rintro ⟨legal, rfl⟩
    cases legal with
    | absent absent => simp [readMode, modeOf, absent]
    | sensitive isText given => simp [readMode, modeOf, given, isText]
    | insensitive isText given text => simp [readMode, modeOf, given, isText, beside.2 text]

theorem readOperator_sound {mode : CaseMode} {name : String} {raw : Json} {test : FieldTest}
    (read : readOperator field mode name raw = .ok test) :
    IsTest field name raw ∧ ∀ value, test.passes value = testVerdict field mode value name raw := by
  unfold readOperator at read
  split at read
  · contradiction
  · next known =>
    simp only [bind_eq_ok, pure_eq_ok, readOperand_eq_ok] at read
    obtain ⟨_, ⟨operand, rfl⟩, rfl⟩ := read
    unfold Operator.ofName? at known
    split at known <;> cases known
    exact ⟨.equals operand, fun value => rfl⟩
  · next known =>
    simp only [bind_eq_ok, pure_eq_ok, readOperands_eq_ok] at read
    obtain ⟨_, ⟨items, rfl, each, rfl⟩, rfl⟩ := read
    unfold Operator.ofName? at known
    split at known <;> cases known
    exact ⟨.list (by simp) each, fun value => rfl⟩
  · next known =>
    simp only [bind_eq_ok, pure_eq_ok, readOperands_eq_ok] at read
    obtain ⟨_, ⟨items, rfl, each, rfl⟩, rfl⟩ := read
    unfold Operator.ofName? at known
    split at known <;> cases known
    exact ⟨.list (by simp) each, fun value => rfl⟩
  · next ordered known =>
    split at read
    · next isOrdered =>
      simp only [bind_eq_ok, pure_eq_ok, readOperand_eq_ok] at read
      obtain ⟨_, ⟨operand, rfl⟩, rfl⟩ := read
      unfold Operator.ofName? at known
      split at known <;> cases known
      all_goals exact ⟨.ordered (by simp) isOrdered operand, fun value => rfl⟩
    · contradiction
  · next text known =>
    split at read
    · next isText =>
      simp only [bind_eq_ok, pure_eq_ok, readOperand_eq_ok] at read
      obtain ⟨_, ⟨operand, rfl⟩, rfl⟩ := read
      unfold Operator.ofName? at known
      split at known <;> cases known
      all_goals
        refine ⟨.text (by simp) isText operand, fun value => ?_⟩
        cases value <;> rfl
    · contradiction

theorem readOperator_complete {name : String} {raw : Json} (isTest : IsTest field name raw)
    (mode : CaseMode) : ∃ test, readOperator field mode name raw = .ok test := by
  cases isTest with
  | equals operand =>
    exact ⟨_, bind_eq_ok.2 ⟨_, readOperand_eq_ok.2 ⟨operand, rfl⟩, rfl⟩⟩
  | @list _ items named each =>
    have read (operator : String) : readOperands field operator (.arr items)
        = .ok (items.map (operandOf field)) :=
      readOperands_eq_ok.2 ⟨items, rfl, each, rfl⟩
    simp only [List.mem_cons, List.not_mem_nil, or_false] at named
    rcases named with rfl | rfl <;> exact ⟨_, bind_eq_ok.2 ⟨_, read _, rfl⟩⟩
  | ordered named isOrdered operand =>
    have read (operator : String) :
        readOperand field operator false raw = .ok (operandOf field raw) :=
      readOperand_eq_ok.2 ⟨operand, rfl⟩
    simp only [List.mem_cons, List.not_mem_nil, or_false] at named
    rcases named with rfl | rfl | rfl | rfl <;>
      simp [readOperator, Operator.ofName?, isOrdered, read]
  | text named isText operand =>
    have read (operator : String) :
        readOperand field operator false raw = .ok (operandOf field raw) :=
      readOperand_eq_ok.2 ⟨operand, rfl⟩
    simp only [List.mem_cons, List.not_mem_nil, or_false] at named
    rcases named with rfl | rfl | rfl <;> simp [readOperator, Operator.ofName?, isText, read]

/-! ## Entries of fields -/

variable {maxDepth : Nat} {raw : Json}

theorem readEntryUnder_of_bare (bare : raw.fields? = none) (operator : String) (depth : Nat) :
    readEntryUnder field maxDepth operator depth raw = (do
      let operand ← readOperand field operator true raw
      return .leaf ⟨field.name, .equals operand⟩) := by
  cases raw with
  | obj => contradiction
  | _ => simp only [readEntryUnder]

theorem negations_of_bare (bare : raw.fields? = none) : negations raw = 0 := by
  cases raw with
  | obj => contradiction
  | _ => simp only [negations]

theorem verdict_of_bare (bare : raw.fields? = none) (value : Value) :
    verdict field value raw = value.same (operandOf field raw) := by
  cases raw with
  | obj => contradiction
  | _ => simp only [verdict]

theorem selects_negation (filter : Filter) (record : Record) :
    (Predicate.not [filter] : Filter).selects record = !filter.selects record := by
  simp [Predicate.selects, Predicate.holds, Predicate.holdsAny]

-- By recursion on the JSON value, along with the functions that read it.
mutual

theorem readEntryUnder_sound {operator : String} {depth : Nat} (within : depth ≤ maxDepth) :
    ∀ {raw : Json} {filter : Filter},
      readEntryUnder field maxDepth operator depth raw = .ok filter →
        IsEntry field raw ∧ depth + negations raw ≤ maxDepth ∧
        ∀ record, filter.selects record = verdict field (record.valueAt field.name) raw
  | .obj operators, filter, read => by
    simp only [readEntryUnder, bind_eq_ok, pure_eq_ok, readMode_eq_ok] at read
    obtain ⟨_, ⟨legal, rfl⟩, members, membersRead, rfl⟩ := read
    obtain ⟨each, shallow, verdicts⟩ := readOperators_sound within membersRead
    refine ⟨.operators legal each, shallow, fun record => ?_⟩
    rw [Predicate.selects, Predicate.holds_conjunction]
    exact verdicts record
  | .null, filter, read | .bool _, filter, read | .int _, filter, read | .float _, filter, read
  | .str _, filter, read | .arr _, filter, read => by
    rw [readEntryUnder_of_bare rfl] at read
    simp only [bind_eq_ok, pure_eq_ok, readOperand_eq_ok] at read
    obtain ⟨_, ⟨operand, rfl⟩, rfl⟩ := read
    refine ⟨.bare rfl operand, ?_, fun record => ?_⟩
    · rwa [negations_of_bare rfl]
    · exact (verdict_of_bare rfl _).symm

theorem readOperators_sound {mode : CaseMode} {depth : Nat} (within : depth ≤ maxDepth) :
    ∀ {operators : List (String × Json)} {members : List Filter},
      readOperators field maxDepth mode depth operators = .ok members →
        (∀ entry ∈ operators, IsOperator field entry.1 entry.2) ∧
        depth + negationsOfAll operators ≤ maxDepth ∧
        ∀ record, (members.all fun member => member.selects record)
          = verdictOfAll field mode (record.valueAt field.name) operators
  | [], members, read => by
    cases read
    simpa [negationsOfAll, verdictOfAll] using within
  | (name, raw) :: rest, members, read => by
    unfold readOperators at read
    rw [List.forall_mem_cons]
    split at read
    · next isMode =>
      obtain ⟨each, shallow, verdicts⟩ := readOperators_sound within read
      subst isMode
      refine ⟨⟨.mode raw, each⟩, by simpa [negationsOfAll] using shallow, fun record => ?_⟩
      rw [verdicts, verdictOfAll, if_pos rfl, Bool.true_and]
    · next notMode =>
      split at read
      · next isNot =>
        split at read
        · contradiction
        · next room =>
          simp only [bind_eq_ok, pure_eq_ok, exists_eq_left'] at read
          obtain ⟨negated, negatedRead, later, restRead, rfl⟩ := read
          obtain ⟨entry, deep, verdictOf⟩ := readEntryUnder_sound (by omega) negatedRead
          obtain ⟨each, shallow, verdicts⟩ := readOperators_sound within restRead
          subst isNot
          refine ⟨⟨.negation entry, each⟩, ?_, fun record => ?_⟩
          · rw [negationsOfAll, if_pos rfl]
            omega
          · rw [List.all_cons, selects_negation, verdictOf, verdicts, verdictOfAll, if_neg notMode,
              if_pos rfl]
      · next notNegation =>
        simp only [bind_eq_ok, pure_eq_ok, exists_eq_left'] at read
        obtain ⟨test, testRead, later, restRead, rfl⟩ := read
        obtain ⟨isTest, verdictOf⟩ := readOperator_sound testRead
        obtain ⟨each, shallow, verdicts⟩ := readOperators_sound within restRead
        refine ⟨⟨.test isTest, each⟩, ?_, fun record => ?_⟩
        · rw [negationsOfAll, if_neg notNegation]
          omega
        · rw [List.all_cons, verdicts, verdictOfAll, if_neg notMode, if_neg notNegation,
            ← verdictOf]
          rfl

end

theorem IsTest.ne_not {name : String} (isTest : IsTest field name raw) : name ≠ "not" := by
  cases isTest with
  | equals => decide
  | list named | ordered named | text named =>
    rintro rfl
    exact absurd named (by decide)

mutual

theorem readEntryUnder_complete (depth : Nat) : ∀ {raw : Json}, IsEntry field raw →
    depth + negations raw ≤ maxDepth → ∀ operator,
      ∃ filter, readEntryUnder field maxDepth operator depth raw = .ok filter
  | raw, isEntry, shallow, operator => by
    cases isEntry with
    | bare bare operand =>
      rw [readEntryUnder_of_bare bare]
      exact ⟨_, bind_eq_ok.2 ⟨_, readOperand_eq_ok.2 ⟨operand, rfl⟩, rfl⟩⟩
    | operators mode each =>
      obtain ⟨members, read⟩ := readOperators_complete depth each shallow (modeOf _)
      exact ⟨_, bind_eq_ok.2 ⟨_, readMode_eq_ok.2 ⟨mode, rfl⟩, bind_eq_ok.2 ⟨_, read, rfl⟩⟩⟩

theorem readOperators_complete (depth : Nat) : ∀ {operators : List (String × Json)},
    (∀ entry ∈ operators, IsOperator field entry.1 entry.2) →
    depth + negationsOfAll operators ≤ maxDepth → ∀ mode,
      ∃ members, readOperators field maxDepth mode depth operators = .ok members
  | [], _, _, _ => ⟨[], rfl⟩
  | (name, raw) :: rest, each, shallow, mode => by
    have first : IsOperator field name raw := each _ List.mem_cons_self
    have others := fun entry member => each entry (List.mem_cons_of_mem _ member)
    rw [negationsOfAll] at shallow
    obtain ⟨later, restRead⟩ := readOperators_complete depth others (by omega) mode
    by_cases isMode : name = "mode"
    · exact ⟨later, by rw [readOperators, if_pos isMode, restRead]⟩
    · rw [readOperators, if_neg isMode]
      cases first with
      | mode => contradiction
      | negation entry =>
        rw [if_pos rfl] at shallow
        obtain ⟨negated, negatedRead⟩ :=
          readEntryUnder_complete (depth + 1) entry (by omega) "not"
        rw [if_pos rfl, if_neg (by omega), negatedRead, restRead]
        exact ⟨_, rfl⟩
      | test isTest =>
        obtain ⟨test, testRead⟩ := readOperator_complete isTest mode
        rw [if_neg isTest.ne_not, testRead, restRead]
        exact ⟨_, rfl⟩

end

end Condition

/-! ## Filters -/

namespace Filter

open Predicate (readObject readEntries readMembers readAll)

variable {entity : Entity} {maxDepth : Nat}

theorem filterField_eq_ok {name : String} {field : Field} :
    entity.filterField name = .ok field ↔ entity.field? name = some field := by
  unfold Entity.filterField
  cases entity.field? name <;> simp

theorem selects_combine (composite : Composite) (members : List Filter) (record : Record) :
    (composite.combine members).selects record
      = compositeVerdict composite (members.map fun member => member.selects record) := by
  cases composite <;>
    simp [Composite.combine, Predicate.selects, Predicate.holds, Predicate.holdsAll_eq_all,
      Predicate.holdsAny_eq_any, compositeVerdict]

/-- The entry of a field in a filter, once its field has been found. -/
theorem readField_sound {key : String} {depth : Nat} {raw : Json} {tree : Filter}
    (within : depth ≤ maxDepth) (other : Composite.ofKey? key = none)
    (read : (rules entity maxDepth).readField key depth raw = .ok tree) :
    IsEntry entity key raw ∧ depth + Condition.negations raw ≤ maxDepth ∧
      ∀ record, tree.selects record = (entity.field? key).all fun field =>
        Condition.verdict field (record.valueAt key) raw := by
  simp only [rules, bind_eq_ok, filterField_eq_ok] at read
  obtain ⟨field, known, entryRead⟩ := read
  obtain ⟨entry, shallow, verdict⟩ := Condition.readEntryUnder_sound within entryRead
  refine ⟨.field other known entry, shallow, fun record => ?_⟩
  rw [verdict, known, Option.all_some, (Entity.mem_of_field? known).2]

-- One theorem for each of the functions that read a filter.
mutual

theorem readObject_sound {depth : Nat} (within : depth ≤ maxDepth) :
    ∀ {raw : Json} {tree : Filter}, readObject (rules entity maxDepth) depth raw = .ok tree →
      IsObject entity raw ∧ depth + levels raw ≤ maxDepth ∧
      ∀ record, tree.selects record = verdict entity record raw
  | .obj entries, tree, read => by
    simp only [readObject, bind_eq_ok, pure_eq_ok] at read
    obtain ⟨members, membersRead, rfl⟩ := read
    obtain ⟨each, shallow, verdicts⟩ := readEntries_sound within membersRead
    refine ⟨.entries each, shallow, fun record => ?_⟩
    rw [Predicate.selects, Predicate.holds_conjunction]
    exact verdicts record

theorem readEntries_sound {depth : Nat} (within : depth ≤ maxDepth) :
    ∀ {entries : List (String × Json)} {members : List Filter},
      readEntries (rules entity maxDepth) depth entries = .ok members →
        (∀ entry ∈ entries, IsEntry entity entry.1 entry.2) ∧
        depth + levelsOfEntries entries ≤ maxDepth ∧
        ∀ record, (members.all fun member => member.selects record)
          = verdictOfEntries entity record entries
  | [], members, read => by
    cases read
    simpa [levelsOfEntries, verdictOfEntries] using within
  | (key, raw) :: rest, members, read => by
    unfold readEntries at read
    rw [List.forall_mem_cons, levelsOfEntries]
    split at read
    · next composite named =>
      split at read
      · contradiction
      · next room =>
        have within' : depth + 1 ≤ maxDepth := Nat.le_of_not_lt room
        simp only [bind_eq_ok, pure_eq_ok, exists_eq_left'] at read
        obtain ⟨inner, innerRead, later, restRead, rfl⟩ := read
        obtain ⟨isEntry, deep, verdictsOf⟩ := readMembers_sound within' named innerRead
        obtain ⟨each, shallow, verdicts⟩ := readEntries_sound within restRead
        refine ⟨⟨isEntry, each⟩, ?_, fun record => ?_⟩
        · rw [named, Option.isSome_some, if_pos rfl]
          omega
        · rw [List.all_cons, selects_combine, verdictsOf, verdicts, verdictOfEntries, named]
    · next other =>
      simp only [bind_eq_ok, pure_eq_ok] at read
      obtain ⟨member, memberRead, later, restRead, rfl⟩ := read
      obtain ⟨isEntry, deep, verdictOf⟩ := readField_sound within other memberRead
      obtain ⟨each, shallow, verdicts⟩ := readEntries_sound within restRead
      refine ⟨⟨isEntry, each⟩, ?_, fun record => ?_⟩
      · rw [other, Option.isSome_none, if_neg Bool.false_ne_true]
        omega
      · rw [List.all_cons, verdictOf, verdicts, verdictOfEntries, other]

theorem readMembers_sound {key : String} {composite : Composite} {depth : Nat}
    (within : depth ≤ maxDepth) (named : Composite.ofKey? key = some composite) :
    ∀ {raw : Json} {members : List Filter},
      readMembers (rules entity maxDepth) key depth raw = .ok members →
        IsEntry entity key raw ∧ depth + levelsOfMembers raw ≤ maxDepth ∧
        ∀ record, (members.map fun member => member.selects record)
          = verdictsOfMembers entity record raw
  | .arr items, members, read => by
    rw [readMembers] at read
    obtain ⟨each, shallow, verdicts⟩ := readAll_sound within read
    exact ⟨.members named each, shallow, verdicts⟩
  | .obj entries, members, read => by
    simp only [readMembers, bind_eq_ok, pure_eq_ok] at read
    obtain ⟨inner, innerRead, rfl⟩ := read
    obtain ⟨each, shallow, verdicts⟩ := readEntries_sound within innerRead
    refine ⟨.member named (.entries each), shallow, fun record => ?_⟩
    rw [verdictsOfMembers, ← verdicts, List.map_singleton, Predicate.selects,
      Predicate.holds_conjunction]
    rfl

theorem readAll_sound {depth : Nat} (within : depth ≤ maxDepth) :
    ∀ {items : List Json} {members : List Filter},
      readAll (rules entity maxDepth) depth items = .ok members →
        (∀ item ∈ items, IsObject entity item) ∧ depth + levelsOfAll items ≤ maxDepth ∧
        ∀ record, (members.map fun member => member.selects record)
          = verdictsOfAll entity record items
  | [], members, read => by
    cases read
    simpa [levelsOfAll, verdictsOfAll] using within
  | item :: rest, members, read => by
    simp only [readAll, bind_eq_ok, pure_eq_ok] at read
    obtain ⟨member, memberRead, later, restRead, rfl⟩ := read
    obtain ⟨isObject, deep, verdictOf⟩ := readObject_sound within memberRead
    obtain ⟨each, shallow, verdicts⟩ := readAll_sound within restRead
    rw [levelsOfAll]
    refine ⟨List.forall_mem_cons.2 ⟨isObject, each⟩, by omega, fun record => ?_⟩
    rw [List.map_cons, verdictOf, verdicts, verdictsOfAll]

end

mutual

theorem readObject_complete (depth : Nat) : ∀ {raw : Json}, IsObject entity raw →
    depth + levels raw ≤ maxDepth →
      ∃ tree, readObject (rules entity maxDepth) depth raw = .ok tree
  | .obj entries, isObject, shallow => by
    cases isObject with
    | entries each =>
      obtain ⟨members, read⟩ := readEntries_complete depth each shallow
      exact ⟨_, bind_eq_ok.2 ⟨_, read, rfl⟩⟩

theorem readEntries_complete (depth : Nat) : ∀ {entries : List (String × Json)},
    (∀ entry ∈ entries, IsEntry entity entry.1 entry.2) →
    depth + levelsOfEntries entries ≤ maxDepth →
      ∃ members, readEntries (rules entity maxDepth) depth entries = .ok members
  | [], _, _ => ⟨[], rfl⟩
  | (key, raw) :: rest, each, shallow => by
    have first : IsEntry entity key raw := each _ List.mem_cons_self
    have others := fun entry member => each entry (List.mem_cons_of_mem _ member)
    rw [levelsOfEntries] at shallow
    obtain ⟨later, restRead⟩ := readEntries_complete depth others (by omega)
    unfold readEntries
    cases named : Composite.ofKey? key with
    | some composite =>
      rw [named, Option.isSome_some, if_pos rfl] at shallow
      have room : ¬ (rules entity maxDepth).maxDepth < depth + 1 := by
        show ¬ maxDepth < depth + 1
        omega
      obtain ⟨members, membersRead⟩ :=
        readMembers_complete (depth + 1) named first (by omega)
      simp only [if_neg room, membersRead, restRead]
      exact ⟨_, rfl⟩
    | none =>
      rw [named, Option.isSome_none, if_neg Bool.false_ne_true] at shallow
      cases first with
      | member composite | members composite => rw [named] at composite; contradiction
      | field _ known entry =>
        have shallow' : depth + Condition.negations raw ≤ maxDepth := by omega
        obtain ⟨tree, entryRead⟩ := Condition.readEntryUnder_complete depth entry shallow' "equals"
        have fieldRead : (rules entity maxDepth).readField key depth raw = .ok tree :=
          bind_eq_ok.2 ⟨_, filterField_eq_ok.2 known, entryRead⟩
        simp only [fieldRead, restRead]
        exact ⟨_, rfl⟩

theorem readMembers_complete (depth : Nat) {key : String} {composite : Composite}
    (named : Composite.ofKey? key = some composite) : ∀ {raw : Json}, IsEntry entity key raw →
    depth + levelsOfMembers raw ≤ maxDepth →
      ∃ members, readMembers (rules entity maxDepth) key depth raw = .ok members
  | .arr items, isEntry, shallow => by
    cases isEntry with
    | member _ isObject => cases isObject
    | members _ each => exact readAll_complete depth each shallow
    | field other => rw [named] at other; contradiction
  | .obj entries, isEntry, shallow => by
    cases isEntry with
    | member _ isObject =>
      cases isObject with
      | entries each =>
        obtain ⟨members, read⟩ := readEntries_complete depth each shallow
        exact ⟨_, bind_eq_ok.2 ⟨_, read, rfl⟩⟩
    | field other => rw [named] at other; contradiction
  | .null, isEntry, _ | .bool _, isEntry, _ | .int _, isEntry, _ | .float _, isEntry, _
  | .str _, isEntry, _ => by
    cases isEntry with
    | member _ isObject => cases isObject
    | field other => rw [named] at other; contradiction

theorem readAll_complete (depth : Nat) : ∀ {items : List Json},
    (∀ item ∈ items, IsObject entity item) → depth + levelsOfAll items ≤ maxDepth →
      ∃ members, readAll (rules entity maxDepth) depth items = .ok members
  | [], _, _ => ⟨[], rfl⟩
  | item :: rest, each, shallow => by
    rw [levelsOfAll] at shallow
    obtain ⟨first, others⟩ := List.forall_mem_cons.1 each
    obtain ⟨member, memberRead⟩ := readObject_complete depth first (by omega)
    obtain ⟨later, restRead⟩ := readAll_complete depth others (by omega)
    exact ⟨_, bind_eq_ok.2 ⟨_, memberRead, bind_eq_ok.2 ⟨_, restRead, rfl⟩⟩⟩

end

/-- A value is read as a filter if it is null, or an object of the grammar that nests no deeper than
is allowed; and what has been read selects the records of which the value holds. -/
theorem read_exact (entity : Entity) (maxDepth : Nat) (raw : Json) :
    ((∃ filter, Filter.read entity maxDepth raw = .ok filter) ↔
      raw = .null ∨ IsObject entity raw ∧ levels raw ≤ maxDepth) ∧
    ∀ filter, Filter.read entity maxDepth raw = .ok filter →
      ∀ record, filter.selects record = verdict entity record raw := by
  cases null : raw.isNull with
  | true =>
    obtain rfl : raw = .null := by cases raw <;> first | rfl | contradiction
    have read : Filter.read entity maxDepth .null = .ok .always := rfl
    refine ⟨⟨fun _ => .inl rfl, fun _ => ⟨_, read⟩⟩, ?_⟩
    rintro filter again record
    cases read.symm.trans again
    rfl
  | false =>
    have object : Filter.read entity maxDepth raw = readObject (rules entity maxDepth) 0 raw := by
      rw [Filter.read, Predicate.readTree, null]
      rfl
    have notNull : raw ≠ .null := by
      rintro rfl
      contradiction
    rw [object, or_iff_right notNull]
    refine ⟨⟨?_, ?_⟩, ?_⟩
    · rintro ⟨filter, read⟩
      obtain ⟨isObject, shallow, -⟩ := readObject_sound (Nat.zero_le _) read
      exact ⟨isObject, by simpa using shallow⟩
    · rintro ⟨isObject, shallow⟩
      exact readObject_complete 0 isObject (by simpa using shallow)
    · intro filter read
      exact (readObject_sound (Nat.zero_le _) read).2.2

/-- Notes with a title, and a due time that may be missing. -/
def notes : Entity :=
  ⟨"Notes",
    [.ofKind .int "Id", .ofKind .string "Title", (Field.ofKind .dateTime "Due").orNull], ["Id"]⟩

def note (title : String) (due : Value) : Record :=
  .ofList [("Id", .int 1), ("Title", .string title), ("Due", due)]

/-- The notes that are due some time, with `lean` in their title and something beside it. -/
def dueNotes : Json :=
  .obj [("NOT", .arr [.obj [("Due", .null)]]),
    ("Title", .obj [("contains", .str "lean"), ("mode", .str "insensitive"), ("not", .str "Lean")])]

/-- The filter nests one level, so that it is read where one is allowed and refused where none is.
Of three notes it selects the one that it describes. -/
theorem dueNotes_read :
    (∃ filter, Filter.read notes 1 dueNotes = .ok filter ∧
      filter.selects (note "A Lean book" (.dateTime (.midnight ⟨2024, 1, 1, by decide⟩))) = true ∧
      filter.selects (note "Lean" (.dateTime (.midnight ⟨2024, 1, 1, by decide⟩))) = false ∧
      filter.selects (note "A Lean book" .null) = false) ∧
    ¬ ∃ filter, Filter.read notes 0 dueNotes = .ok filter := by
  obtain ⟨filter, read⟩ : ∃ filter, Filter.read notes 1 dueNotes = .ok filter := ⟨_, rfl⟩
  have selects := (read_exact notes 1 dueNotes).2 filter read
  refine ⟨⟨filter, read, ?_, ?_, ?_⟩, ?_⟩
  · rw [selects]; decide +kernel
  · rw [selects]; decide +kernel
  · rw [selects]; decide +kernel
  · rw [(read_exact notes 0 dueNotes).1]
    rintro (null | ⟨-, shallow⟩)
    · exact absurd null (by rintro ⟨⟩)
    · exact absurd shallow (by decide +kernel)

end Filter

end RecordStore
