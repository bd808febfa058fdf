import RecordStore.Proofs.Database.Binding
import RecordStore.Proofs.Database.Scan

/-! # Operands never reach the text of a statement

The clauses of a statement are built by calls that share one list of parameters.  Calls of one shape
differ in their operands at most, and their results are `Parallel`: they differ in the parameters at
most.  So the text of a statement depends on the shapes of its calls only, and `operands_bound` says
where the operands are instead.
-/

namespace RecordStore

variable {bound bound' : Bound}

/-! ## Shapes -/

/-- What a test shows of its operands in a clause. -/
inductive TestShape where
  | equals (null : Bool)
  | contains (mode : CaseMode)
  | startsWith (mode : CaseMode)
  | endsWith (mode : CaseMode) (empty : Bool)
  | gt
  | gte
  | lt
  | lte
  | oneOf (length : Nat)
  | noneOf (length : Nat)

def FieldTest.shape : FieldTest → TestShape
  | .equals operand => .equals operand.isNull
  | .contains pattern => .contains pattern.mode
  | .startsWith pattern => .startsWith pattern.mode
  | .endsWith pattern => .endsWith pattern.mode pattern.text.isEmpty
  | .gt _ => .gt
  | .gte _ => .gte
  | .lt _ => .lt
  | .lte _ => .lte
  | .oneOf operands => .oneOf operands.length
  | .noneOf operands => .noneOf operands.length

def Condition.shape (condition : Condition) : String × TestShape :=
  (condition.field, condition.test.shape)

/-- The tree of a filter, with the shapes of its conditions. -/
def Predicate.shape (filter : Predicate Condition) : Predicate (String × TestShape) :=
  filter.map Condition.shape

/-- Whether two results are the same but for the values of the parameters. -/
def Parallel {α : Type} (a b : α × Bound) : Prop := a.1 = b.1 ∧ a.2.length = b.2.length

namespace Parallel

variable {α β γ : Type} {a a' : α × Bound} {b b' : β × Bound}

theorem map (f : α → γ) (parallel : Parallel a a') : Parallel (f a.1, a.2) (f a'.1, a'.2) :=
  ⟨congrArg f parallel.1, parallel.2⟩

theorem map₂ (f : α → β → γ) (first : Parallel a a') (last : Parallel b b') :
    Parallel (f a.1 b.1, b.2) (f a'.1 b'.1, b'.2) :=
  ⟨congrArg₂ f first.1 last.1, last.2⟩

theorem bind (value value' : Value) (level : bound.length = bound'.length) :
    Parallel (value.bind bound) (value'.bind bound') := by
  simp [Parallel, Value.bind, level]

theorem bindAll {operands operands' : List Value} (lengths : operands.length = operands'.length)
    (level : bound.length = bound'.length) :
    Parallel (bindAll operands bound) (RecordStore.bindAll operands' bound') := by
  induction operands generalizing operands' bound bound' with
  | nil =>
    cases operands' with
    | nil => exact ⟨rfl, level⟩
    | cons => contradiction
  | cons value rest ih =>
    cases operands' with
    | nil => contradiction
    | cons value' rest' =>
      have first := bind value value' level
      exact map₂ List.cons first (ih (Nat.succ.inj lengths) first.2)

end Parallel

namespace FieldTest

theorem comparisonClause_parallel (comparison : Comparison) (field : String)
    (operand operand' : Value) (level : bound.length = bound'.length) :
    Parallel (comparisonClause comparison field operand bound)
      (comparisonClause comparison field operand' bound') :=
  (Parallel.bind operand operand' level).map (Clause.compare comparison (.column field))

theorem textClause_parallel (test : Scalar → Scalar → Clause) (field : String)
    {pattern pattern' : Pattern} (modes : pattern.mode = pattern'.mode)
    (level : bound.length = bound'.length) :
    Parallel (textClause test field pattern bound) (textClause test field pattern' bound') := by
  unfold textClause
  rw [modes]
  exact (Parallel.bind _ _ level).map fun operand =>
    test (seenIn pattern'.mode (.column field)) (seenIn pattern'.mode operand)

theorem clause_parallel {test test' : FieldTest} (same : test.shape = test'.shape) (field : String)
    (level : bound.length = bound'.length) :
    Parallel (test.clause field bound) (test'.clause field bound') := by
  -- Tests of one shape have the same constructor.
  cases test <;> cases test' <;> simp only [shape, reduceCtorEq, TestShape.equals.injEq,
    TestShape.contains.injEq, TestShape.startsWith.injEq, TestShape.endsWith.injEq,
    TestShape.oneOf.injEq, TestShape.noneOf.injEq] at same
  case equals.equals operand operand' =>
    cases null : operand.isNull with
    | true =>
      have null' : operand'.isNull = true := same ▸ null
      rw [Value.isNull_iff.1 null, Value.isNull_iff.1 null']
      exact ⟨rfl, level⟩
    | false =>
      rw [clause_equals null, clause_equals (same ▸ null)]
      exact comparisonClause_parallel _ field _ _ level
  case contains.contains | startsWith.startsWith => exact textClause_parallel _ field same level
  case endsWith.endsWith pattern pattern' =>
    obtain ⟨modes, empties⟩ := same
    rw [clause, clause, ← empties]
    split
    · exact ⟨rfl, level⟩
    · exact textClause_parallel _ field modes level
  case oneOf.oneOf operands operands' =>
    have items := (Parallel.bindAll same level).map (Clause.among (.column field))
    cases operands <;> cases operands' <;> first | exact ⟨rfl, level⟩ | contradiction | exact items
  case noneOf.noneOf operands operands' =>
    have items := (Parallel.bindAll same level).map fun items =>
      Clause.all [.isNotNull (.column field), .notAmong (.column field) items]
    cases operands <;> cases operands' <;> first | exact ⟨rfl, level⟩ | contradiction | exact items
  all_goals exact comparisonClause_parallel _ field _ _ level

end FieldTest

namespace Predicate

theorem leafNarrowing_parallel (entity : Entity) (positive : Bool)
    {condition condition' : Condition} (fields : condition.field = condition'.field)
    (same : condition.test.shape = condition'.test.shape) (level : bound.length = bound'.length) :
    Parallel (leafNarrowing entity positive condition bound)
      (leafNarrowing entity positive condition' bound') := by
  unfold leafNarrowing
  rw [fields]
  split
  · exact ⟨rfl, level⟩
  · exact (FieldTest.clause_parallel same condition'.field level).map Clause.orFalse

theorem isEmpty_of_shapes {members members' : List (Predicate Condition)}
    (same : mapAll Condition.shape members = mapAll Condition.shape members') :
    members.isEmpty = members'.isEmpty := by
  cases members <;> cases members' <;> first | rfl | contradiction

mutual

theorem narrowingFrom_parallel (entity : Entity) :
    ∀ (filter filter' : Predicate Condition) (positive : Bool) (bound bound' : Bound),
      filter.shape = filter'.shape → bound.length = bound'.length →
      Parallel (filter.narrowingFrom entity positive bound)
        (filter'.narrowingFrom entity positive bound')
  | .leaf condition, .leaf condition', positive, bound, bound', same, level => by
    simp only [shape, map, leaf.injEq, Condition.shape, Prod.mk.injEq] at same
    exact leafNarrowing_parallel entity positive same.1 same.2 level
  | .and members, .and members', positive, bound, bound', same, level => by
    simp only [shape, map, and.injEq] at same
    rw [narrowingFrom, narrowingFrom, isEmpty_of_shapes same]
    split
    · exact ⟨rfl, level⟩
    · exact (narrowingsFrom_parallel entity members members' positive bound bound' same level).map
        fun clauses => Clause.group (.all clauses)
  | .or members, .or members', positive, bound, bound', same, level => by
    simp only [shape, map, or.injEq] at same
    rw [narrowingFrom, narrowingFrom, isEmpty_of_shapes same]
    split
    · exact ⟨rfl, level⟩
    · exact (narrowingsFrom_parallel entity members members' positive bound bound' same level).map
        fun clauses => Clause.group (.any clauses)
  | .not members, .not members', positive, bound, bound', same, level => by
    simp only [shape, map, not.injEq] at same
    rw [narrowingFrom, narrowingFrom, isEmpty_of_shapes same]
    split
    · exact ⟨rfl, level⟩
    · exact (narrowingsFrom_parallel entity members members' (!positive) bound bound' same
        level).map fun clauses => Clause.negation (.group (.any clauses))

theorem narrowingsFrom_parallel (entity : Entity) :
    ∀ (members members' : List (Predicate Condition)) (positive : Bool) (bound bound' : Bound),
      mapAll Condition.shape members = mapAll Condition.shape members' →
      bound.length = bound'.length →
      Parallel (narrowingsFrom entity positive members bound)
        (narrowingsFrom entity positive members' bound')
  | [], [], _, _, _, _, level => ⟨rfl, level⟩
  | member :: rest, member' :: rest', positive, bound, bound', same, level => by
    simp only [mapAll, List.cons.injEq] at same
    have first := narrowingFrom_parallel entity member member' positive bound bound' same.1 level
    exact first.map₂ List.cons
      (narrowingsFrom_parallel entity rest rest' positive _ _ same.2 first.2)

end

end Predicate

namespace Address

theorem keyClauses_parallel {entries entries' : List (String × Value)}
    (fields : entries.map (·.1) = entries'.map (·.1)) (level : bound.length = bound'.length) :
    Parallel (keyClauses entries bound) (keyClauses entries' bound') := by
  induction entries generalizing entries' bound bound' with
  | nil =>
    cases entries' with
    | nil => exact ⟨rfl, level⟩
    | cons => contradiction
  | cons entry rest ih =>
    cases entries' with
    | nil => contradiction
    | cons entry' rest' =>
      obtain ⟨field, fields⟩ := List.cons.inj fields
      have first := FieldTest.comparisonClause_parallel .equal entry.1 entry.2 entry'.2 level
      have both := first.map₂ List.cons (ih fields first.2)
      simp only at field
      rw [field] at both
      rw [keyClauses, keyClauses, field]
      exact both

end Address

section Cursor

variable {value value' : Value}

theorem OrderTerm.behind_parallel (term : OrderTerm) (nulls : value.isNull = value'.isNull)
    (same : bound.length = bound'.length) :
    Parallel (term.behind value bound) (term.behind value' bound') := by
  cases null : value.isNull with
  | true =>
    have null' : value'.isNull = true := nulls ▸ null
    rw [Value.isNull_iff.1 null, Value.isNull_iff.1 null']
    unfold behind
    cases term.direction <;> exact ⟨rfl, same⟩
  | false =>
    have null' : value'.isNull = false := nulls ▸ null
    rw [behind_of_present null, behind_of_present null']
    cases term.direction with
    | ascending => exact FieldTest.comparisonClause_parallel _ term.field value value' same
    | descending =>
      exact (FieldTest.comparisonClause_parallel _ term.field value value' same).map fun clause =>
        Clause.group (.any [clause, .isNull (.column term.field)])

theorem OrderTerm.level_parallel (term : OrderTerm) (nulls : value.isNull = value'.isNull)
    (same : bound.length = bound'.length) :
    Parallel (term.level value bound) (term.level value' bound') := by
  cases null : value.isNull with
  | true =>
    have null' : value'.isNull = true := nulls ▸ null
    rw [Value.isNull_iff.1 null, Value.isNull_iff.1 null']
    exact ⟨rfl, same⟩
  | false =>
    have null' : value'.isNull = false := nulls ▸ null
    rw [level_of_present null, level_of_present null']
    exact FieldTest.comparisonClause_parallel _ term.field value value' same

theorem cursorBranches_parallel {anchor anchor' : Record} {order : List OrderTerm}
    (nulls : ∀ term ∈ order,
      (anchor.valueAt term.field).isNull = (anchor'.valueAt term.field).isNull)
    (levels : List Clause) (same : bound.length = bound'.length) :
    Parallel (cursorBranches anchor order levels bound)
      (cursorBranches anchor' order levels bound') := by
  induction order generalizing levels bound bound' with
  | nil => exact ⟨rfl, same⟩
  | cons term rest ih =>
    obtain ⟨here, there⟩ := List.forall_mem_cons.1 nulls
    have behind := term.behind_parallel here same
    have level := term.level_parallel here behind.2
    simp only [cursorBranches, level.1]
    exact behind.map₂ (fun behind branches => Clause.group (.all (levels ++ [behind])) :: branches)
      (ih there _ level.2)

end Cursor

/-! ## Calls of a builder -/

/-- A call that builds a clause. -/
inductive BuilderCall where
  | ofFilter (entity : Entity) (filter : Filter)
  | ofAddress (address : Address)
  /-- The rows from a given one on, in the direction of a scan. -/
  | fromCursor (direction : ScanDirection) (order : List OrderTerm) (anchor : Record)

namespace BuilderCall

def clause : BuilderCall → Bound → Clause × Bound
  | .ofFilter entity filter => filter.narrowing entity
  | .ofAddress address => address.clause
  | .fromCursor direction order anchor => RecordStore.fromCursor (direction.order order) anchor

/-- The operands of a call, from the left to the right. -/
def operands : BuilderCall → List Value
  | .ofFilter entity filter => Predicate.operands entity filter
  | .ofAddress address => address.key.values
  | .fromCursor direction order anchor => cursorOperands (direction.order order) anchor

/-- Whether two calls differ in their operands at most. -/
inductive SameShape : BuilderCall → BuilderCall → Prop where
  | ofFilter (entity : Entity) {filter filter' : Filter} (same : filter.shape = filter'.shape) :
      SameShape (.ofFilter entity filter) (.ofFilter entity filter')
  | ofAddress {address address' : Address} (fields : address.key.keys = address'.key.keys) :
      SameShape (.ofAddress address) (.ofAddress address')
  | fromCursor (direction : ScanDirection) (order : List OrderTerm) {anchor anchor' : Record}
      (nulls : ∀ term ∈ order,
        (anchor.valueAt term.field).isNull = (anchor'.valueAt term.field).isNull) :
      SameShape (.fromCursor direction order anchor) (.fromCursor direction order anchor')

/-- The texts of calls that share their parameters, and these parameters at the end. -/
def buildAll : List BuilderCall → Bound → List String × Bound
  | [], bound => ([], bound)
  | call :: rest, bound =>
    let (clause, bound) := call.clause bound
    let (texts, bound) := buildAll rest bound
    (clause.text :: texts, bound)

theorem clause_binds (call : BuilderCall) (bound : Bound) :
    Binds call.operands bound (call.clause bound).1.numbers (call.clause bound).2 := by
  cases call with
  | ofFilter entity filter => exact Predicate.narrowingFrom_binds entity filter true bound
  | ofAddress address => exact Address.keyClauses_binds address.key.entries bound
  | fromCursor direction order anchor => exact fromCursor_binds _ anchor bound

theorem SameShape.parallel {call call' : BuilderCall} (same : SameShape call call')
    (level : bound.length = bound'.length) :
    Parallel (call.clause bound) (call'.clause bound') := by
  cases same with
  | ofFilter entity same =>
    exact Predicate.narrowingFrom_parallel entity _ _ true bound bound' same level
  | ofAddress fields => exact (Address.keyClauses_parallel fields level).map Clause.all
  | fromCursor direction order nulls =>
    refine (cursorBranches_parallel (fun term member => ?_) [] level).map fun branches =>
      Clause.group (.any branches)
    obtain ⟨given, inOrder, field⟩ := ScanDirection.mem_order member
    exact field ▸ nulls given inOrder

theorem buildAll_texts {calls calls' : List BuilderCall}
    (same : List.Forall₂ SameShape calls calls') (level : bound.length = bound'.length) :
    (buildAll calls bound).1 = (buildAll calls' bound').1 := by
  induction same generalizing bound bound' with
  | nil => rfl
  | cons first _ ih =>
    obtain ⟨clause, lengths⟩ := first.parallel level
    rw [buildAll, buildAll]
    exact congrArg₂ List.cons (congrArg Clause.text clause) (ih lengths)

theorem buildAll_binds (calls : List BuilderCall) (bound : Bound) :
    Binds (calls.flatMap operands) bound ((buildAll calls bound).1.flatMap placeholders)
      (buildAll calls bound).2 := by
  induction calls generalizing bound with
  | nil => exact .nil bound
  | cons call rest ih =>
    have first := call.clause_binds bound
    rw [← Clause.placeholders_text] at first
    exact first.append (ih _)

/-- Operands are parameters and nothing else.  Calls of the same shapes give the same texts behind
the same number of parameters.  The text of a call has the numbers of the parameters that the call
has bound, and in the texts of all calls the placeholders number all parameters, which are the
operands from the left to the right. -/
theorem operands_bound :
    (∀ calls calls', List.Forall₂ SameShape calls calls' →
      ∀ bound bound' : Bound, bound.length = bound'.length →
        (buildAll calls bound).1 = (buildAll calls' bound').1) ∧
    (∀ (call : BuilderCall) (bound : Bound),
      (placeholders (call.clause bound).1.text).eraseDups
        = List.range' (bound.length + 1) ((call.clause bound).2.length - bound.length)) ∧
    ∀ calls : List BuilderCall,
      ((buildAll calls []).1.flatMap placeholders).eraseDups
        = List.range' 1 (buildAll calls []).2.length ∧
      (buildAll calls []).2 = (calls.flatMap operands).map Value.parameter := by
  refine ⟨fun calls calls' same bound bound' level => buildAll_texts same level, ?_, ?_⟩
  · intro call bound
    rw [Clause.placeholders_text]
    exact (call.clause_binds bound).introduces.eraseDups
  · intro calls
    have binds := buildAll_binds calls []
    exact ⟨binds.introduces.eraseDups, binds.bound_eq⟩

/-! ## Names with question marks -/

/-- Questions, with a name that looks like placeholders and one that a quote would end. -/
def questions : Entity :=
  ⟨"Questions",
    [.ofKind .int "Id", .ofKind .string "Why?1 or ?2", (Field.ofKind .int "a\"?3").orNull,
      .ofKind .decimal "Price"],
    ["Id"]⟩

/-- Questions with a text, none of two numbers, and a price, from a given one on. -/
def questionCalls (text : String) (numbers : List Value) (price : Value) (id : Int32) :
    List BuilderCall :=
  [.ofFilter questions (.and
      [.leaf ⟨"Why?1 or ?2", .startsWith ⟨text, .insensitive⟩⟩,
        .not [.leaf ⟨"a\"?3", .oneOf numbers⟩], .leaf ⟨"Price", .gt price⟩]),
    .fromCursor .backward [⟨"a\"?3", .descending⟩, ⟨"Id", .ascending⟩]
      (.ofList [("Id", .int id), ("a\"?3", .null)])]

/-- Other operands, one of which looks like a part of a statement, give the same texts. -/
theorem questions_texts :
    (buildAll (questionCalls "?4) OR (1" [.int 7, .int 8] (.int 1) 9) []).1
      = (buildAll (questionCalls "" [.null, .string "?"] .null 0) []).1 ∧
    (buildAll (questionCalls "?4) OR (1" [.int 7, .int 8] (.int 1) 9) []).2
      = [.text "?4) OR (1", .integer 7, .integer 8, .integer 9, .integer 9] := by
  refine ⟨operands_bound.1 _ _ ?_ [] [] rfl, ?_⟩
  · exact .cons (.ofFilter questions rfl) (.cons (.fromCursor _ _ (by decide +kernel)) .nil)
  · rw [(operands_bound.2.2 _).2]
    rfl

example :
    (buildAll (questionCalls "?4) OR (1" [.int 7, .int 8] (.int 1) 9) []).1 =
      ["(COALESCE((substr(lower(\"Why?1 or ?2\"), 1, length(lower(?1))) = lower(?1)), 0)"
          ++ " AND NOT (COALESCE((\"a\"\"?3\" IN (?2, ?3)), 0)) AND 1)",
        "((\"a\"\"?3\" IS NOT NULL) OR (\"a\"\"?3\" IS NULL AND (\"Id\" < ?4 OR \"Id\" IS NULL))"
          ++ " OR (\"a\"\"?3\" IS NULL AND \"Id\" = ?5))"] := by
  decide +kernel

end BuilderCall

end RecordStore
