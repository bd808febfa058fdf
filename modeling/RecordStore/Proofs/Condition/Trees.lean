import RecordStore.Aggregate.Having
import RecordStore.Proofs.Typing.Filters
import RecordStore.Sql.Narrowing

/-! # Trees that have been read are typed and shallow

A limit on nesting counts the composites and negations that are written.  A conjunction is not: it
stands wherever an object has several entries, a field several operators, or a grouped field both
aggregates and operators of its own.  So a tree is about twice as deep as the limit, and
`readTree_depth` says how deep, given how deep the entries of fields are.

The depth is what recursion over a tree costs.  `holdsWithin` and `narrowingWithin` are the two that
run on trees that have been read, with a budget of composites that they may enter.
-/

namespace RecordStore

/-! ## Depth -/

namespace Predicate

variable {Leaf Leaf' : Type}

theorem depth_conjunction (members : List (Predicate Leaf)) :
    (conjunction members).depth ≤ 1 + depthOfAll members := by
  unfold conjunction
  split
  · simp only [depthOfAll]
    omega
  · exact Nat.le_refl _

theorem depth_combine (composite : Composite) (members : List (Predicate Leaf)) :
    (composite.combine members).depth = 1 + depthOfAll members := by
  cases composite <;> rfl

theorem depthOfAll_append (members more : List (Predicate Leaf)) :
    depthOfAll (members ++ more) = max (depthOfAll members) (depthOfAll more) := by
  induction members with
  | nil => exact (Nat.zero_max _).symm
  | cons member rest ih => rw [List.cons_append, depthOfAll, depthOfAll, ih, Nat.max_assoc]

mutual

theorem depth_map (f : Leaf → Leaf') : ∀ tree : Predicate Leaf, (tree.map f).depth = tree.depth
  | .leaf _ => rfl
  | .and members => congrArg (1 + ·) (depthOfAll_mapAll f members)
  | .or members => congrArg (1 + ·) (depthOfAll_mapAll f members)
  | .not members => congrArg (1 + ·) (depthOfAll_mapAll f members)

theorem depthOfAll_mapAll (f : Leaf → Leaf') :
    ∀ members : List (Predicate Leaf), depthOfAll (mapAll f members) = depthOfAll members
  | [] => rfl
  | member :: rest => by
    rw [mapAll, depthOfAll, depthOfAll, depth_map f member, depthOfAll_mapAll f rest]

end

mutual

theorem leaves_map (f : Leaf → Leaf') :
    ∀ tree : Predicate Leaf, (tree.map f).leaves = tree.leaves.map f
  | .leaf _ => rfl
  | .and members => leavesOfAll_mapAll f members
  | .or members => leavesOfAll_mapAll f members
  | .not members => leavesOfAll_mapAll f members

theorem leavesOfAll_mapAll (f : Leaf → Leaf') :
    ∀ members : List (Predicate Leaf), leavesOfAll (mapAll f members) = (leavesOfAll members).map f
  | [] => rfl
  | member :: rest => by
    rw [mapAll, leavesOfAll, leavesOfAll, leaves_map f member, leavesOfAll_mapAll f rest,
      List.map_append]

end

theorem leavesOfAll_append (members more : List (Predicate Leaf)) :
    leavesOfAll (members ++ more) = leavesOfAll members ++ leavesOfAll more := by
  induction members with
  | nil => rfl
  | cons member rest ih => rw [List.cons_append, leavesOfAll, leavesOfAll, ih, List.append_assoc]

/-- Whether the entry of a field is a tree that leaves room for the levels above it: two for each of
them, and `extra` at the limit. -/
def FieldsWithin (rules : TreeRules Leaf) (extra : Nat) : Prop :=
  ∀ name depth raw tree, depth ≤ rules.maxDepth → rules.readField name depth raw = .ok tree →
    tree.depth + 2 * depth ≤ 2 * rules.maxDepth + extra

variable {rules : TreeRules Leaf} {extra : Nat}

-- The bound of an object is one more than that of its entries, and that of a composite in it as much
-- as that of its entries: the level of the composite is paid for by the depth of its members.
mutual

theorem readObject_depth (positive : 0 < extra) (fields : FieldsWithin rules extra) {depth : Nat}
    (within : depth ≤ rules.maxDepth) :
    ∀ {raw : Json} {tree : Predicate Leaf}, readObject rules depth raw = .ok tree →
      tree.depth + 2 * depth ≤ 2 * rules.maxDepth + extra + 1
  | .obj entries, tree, read => by
    simp only [readObject, bind_eq_ok, pure_eq_ok] at read
    obtain ⟨members, membersRead, rfl⟩ := read
    have each := readEntries_depth positive fields within membersRead
    have own := depth_conjunction members
    omega

theorem readEntries_depth (positive : 0 < extra) (fields : FieldsWithin rules extra) {depth : Nat}
    (within : depth ≤ rules.maxDepth) :
    ∀ {entries : List (String × Json)} {members : List (Predicate Leaf)},
      readEntries rules depth entries = .ok members →
        depthOfAll members + 2 * depth ≤ 2 * rules.maxDepth + extra
  | [], members, read => by
    cases read
    simp only [depthOfAll]
    omega
  | (key, raw) :: rest, members, read => by
    unfold readEntries at read
    split at read
    · split at read
      · contradiction
      · next room =>
        simp only [bind_eq_ok, pure_eq_ok, exists_eq_left'] at read
        obtain ⟨inner, innerRead, later, restRead, rfl⟩ := read
        have here := readMembers_depth positive fields (Nat.le_of_not_lt room) innerRead
        have there := readEntries_depth positive fields within restRead
        rw [depthOfAll, depth_combine]
        omega
    · simp only [bind_eq_ok, pure_eq_ok] at read
      obtain ⟨member, memberRead, later, restRead, rfl⟩ := read
      have here := fields key depth raw member within memberRead
      have there := readEntries_depth positive fields within restRead
      rw [depthOfAll]
      omega

theorem readMembers_depth (positive : 0 < extra) (fields : FieldsWithin rules extra) {key : String}
    {depth : Nat} (within : depth ≤ rules.maxDepth) :
    ∀ {raw : Json} {members : List (Predicate Leaf)}, readMembers rules key depth raw = .ok members →
      depthOfAll members + 2 * depth ≤ 2 * rules.maxDepth + extra + 1
  | .arr items, members, read => by
    rw [readMembers] at read
    exact readAll_depth positive fields within read
  | .obj entries, members, read => by
    simp only [readMembers, bind_eq_ok, pure_eq_ok] at read
    obtain ⟨inner, innerRead, rfl⟩ := read
    have each := readEntries_depth positive fields within innerRead
    have own := depth_conjunction inner
    simp only [depthOfAll]
    omega

theorem readAll_depth (positive : 0 < extra) (fields : FieldsWithin rules extra) {depth : Nat}
    (within : depth ≤ rules.maxDepth) :
    ∀ {items : List Json} {members : List (Predicate Leaf)}, readAll rules depth items = .ok members →
      depthOfAll members + 2 * depth ≤ 2 * rules.maxDepth + extra + 1
  | [], members, read => by
    cases read
    simp only [depthOfAll]
    omega
  | raw :: rest, members, read => by
    simp only [readAll, bind_eq_ok, pure_eq_ok] at read
    obtain ⟨member, memberRead, later, restRead, rfl⟩ := read
    have here := readObject_depth positive fields within memberRead
    have there := readAll_depth positive fields within restRead
    rw [depthOfAll]
    omega

end

/-- A tree is one level deeper than its entries may be at the root. -/
theorem readTree_depth (positive : 0 < extra) (fields : FieldsWithin rules extra) {raw : Json}
    {tree : Predicate Leaf} (read : readTree rules raw = .ok tree) :
    tree.depth ≤ 2 * rules.maxDepth + extra + 1 := by
  unfold readTree at read
  split at read
  · cases read
    simp only [always, Predicate.depth, depthOfAll]
    omega
  · exact readObject_depth positive fields (Nat.zero_le _) read

/-! ## Recursion within a budget -/

mutual

/-- The evaluation of a tree that may enter only so many composites inside each other. -/
def holdsWithin (reading : Leaf → Bool) : Nat → Predicate Leaf → Option Bool
  | _, .leaf condition => some (reading condition)
  | 0, _ => none
  | budget + 1, .and members => holdsAllWithin reading budget members
  | budget + 1, .or members => holdsAnyWithin reading budget members
  | budget + 1, .not members => (holdsAnyWithin reading budget members).map (!·)

def holdsAllWithin (reading : Leaf → Bool) (budget : Nat) : List (Predicate Leaf) → Option Bool
  | [] => some true
  | member :: rest => do
    if ← member.holdsWithin reading budget then holdsAllWithin reading budget rest else some false

def holdsAnyWithin (reading : Leaf → Bool) (budget : Nat) : List (Predicate Leaf) → Option Bool
  | [] => some false
  | member :: rest => do
    if ← member.holdsWithin reading budget then some true else holdsAnyWithin reading budget rest

end

/-- Where there is room for a composite, there is room for its members with one composite less. -/
theorem exists_budget {depth budget : Nat} (enough : 1 + depth ≤ budget) :
    ∃ rest, budget = rest + 1 ∧ depth ≤ rest :=
  ⟨budget - 1, by omega, by omega⟩

mutual

/-- A budget of the depth of a tree is enough to evaluate it. -/
theorem holdsWithin_eq (reading : Leaf → Bool) {budget : Nat} : ∀ {tree : Predicate Leaf},
    tree.depth ≤ budget → tree.holdsWithin reading budget = some (tree.holds reading)
  | .leaf _, _ => by rw [holdsWithin, holds]
  | .and members, enough => by
    obtain ⟨rest, rfl, room⟩ := exists_budget enough
    exact holdsAllWithin_eq reading room
  | .or members, enough => by
    obtain ⟨rest, rfl, room⟩ := exists_budget enough
    exact holdsAnyWithin_eq reading room
  | .not members, enough => by
    obtain ⟨rest, rfl, room⟩ := exists_budget enough
    exact congrArg (Option.map (!·)) (holdsAnyWithin_eq reading room)

theorem holdsAllWithin_eq (reading : Leaf → Bool) {budget : Nat} :
    ∀ {members : List (Predicate Leaf)}, depthOfAll members ≤ budget →
      holdsAllWithin reading budget members = some (holdsAll reading members)
  | [], _ => rfl
  | member :: rest, enough => by
    obtain ⟨here, there⟩ := Nat.max_le.1 enough
    rw [holdsAllWithin, holdsAll, holdsWithin_eq reading here, holdsAllWithin_eq reading there]
    cases member.holds reading <;> rfl

theorem holdsAnyWithin_eq (reading : Leaf → Bool) {budget : Nat} :
    ∀ {members : List (Predicate Leaf)}, depthOfAll members ≤ budget →
      holdsAnyWithin reading budget members = some (holdsAny reading members)
  | [], _ => rfl
  | member :: rest, enough => by
    obtain ⟨here, there⟩ := Nat.max_le.1 enough
    rw [holdsAnyWithin, holdsAny, holdsWithin_eq reading here, holdsAnyWithin_eq reading there]
    cases member.holds reading <;> rfl

end

mutual

/-- The clause of a filter, made with only so many composites entered inside each other. -/
def narrowingWithin (entity : Entity) : Nat → Bool → Predicate Condition → Bound →
    Option (Clause × Bound)
  | _, positive, .leaf condition, bound => some (leafNarrowing entity positive condition bound)
  | 0, _, _, _ => none
  | budget + 1, positive, .and members, bound =>
    if members.isEmpty then some (.constant true, bound)
    else (narrowingsWithin entity budget positive members bound).map fun (clauses, bound) =>
      (.group (.all clauses), bound)
  | budget + 1, positive, .or members, bound =>
    if members.isEmpty then some (.constant false, bound)
    else (narrowingsWithin entity budget positive members bound).map fun (clauses, bound) =>
      (.group (.any clauses), bound)
  | budget + 1, positive, .not members, bound =>
    if members.isEmpty then some (.constant true, bound)
    else (narrowingsWithin entity budget (!positive) members bound).map fun (clauses, bound) =>
      (.negation (.group (.any clauses)), bound)

def narrowingsWithin (entity : Entity) (budget : Nat) (positive : Bool) :
    List (Predicate Condition) → Bound → Option (List Clause × Bound)
  | [], bound => some ([], bound)
  | member :: rest, bound => do
    let (clause, bound) ← member.narrowingWithin entity budget positive bound
    let (clauses, bound) ← narrowingsWithin entity budget positive rest bound
    return (clause :: clauses, bound)

end

mutual

/-- A budget of the depth of a filter is enough to make its clause. -/
theorem narrowingWithin_eq (entity : Entity) {budget : Nat} :
    ∀ {tree : Predicate Condition} {positive : Bool} {bound : Bound}, tree.depth ≤ budget →
      tree.narrowingWithin entity budget positive bound
        = some (tree.narrowingFrom entity positive bound)
  | .leaf _, _, _, _ => by rw [narrowingWithin, narrowingFrom]
  | .and members, _, _, enough => by
    obtain ⟨rest, rfl, room⟩ := exists_budget enough
    rw [narrowingWithin, narrowingFrom, narrowingsWithin_eq entity room]
    split <;> rfl
  | .or members, _, _, enough => by
    obtain ⟨rest, rfl, room⟩ := exists_budget enough
    rw [narrowingWithin, narrowingFrom, narrowingsWithin_eq entity room]
    split <;> rfl
  | .not members, _, _, enough => by
    obtain ⟨rest, rfl, room⟩ := exists_budget enough
    rw [narrowingWithin, narrowingFrom, narrowingsWithin_eq entity room]
    split <;> rfl

theorem narrowingsWithin_eq (entity : Entity) {budget : Nat} :
    ∀ {members : List (Predicate Condition)} {positive : Bool} {bound : Bound},
      depthOfAll members ≤ budget → narrowingsWithin entity budget positive members bound
        = some (narrowingsFrom entity positive members bound)
  | [], _, _, _ => rfl
  | member :: rest, _, _, enough => by
    obtain ⟨here, there⟩ := Nat.max_le.1 enough
    rw [narrowingsWithin, narrowingWithin_eq entity here]
    simp only [Option.bind_eq_bind, Option.bind_some, narrowingsWithin_eq entity there]
    rfl

end

end Predicate

/-! ## Entries of fields -/

namespace Condition

variable {field : Field} {maxDepth : Nat}

mutual

/-- The entry of a field is a conjunction of its operators, and each negation among them one level above
another entry. -/
theorem readEntryUnder_depth {operator : String} {depth : Nat} (within : depth ≤ maxDepth) :
    ∀ {raw : Json} {filter : Filter},
      readEntryUnder field maxDepth operator depth raw = .ok filter →
        filter.depth + 2 * depth ≤ 2 * maxDepth + 1
  | raw, filter, read => by
    unfold readEntryUnder at read
    split at read
    · simp only [bind_eq_ok, pure_eq_ok] at read
      obtain ⟨mode, -, members, membersRead, rfl⟩ := read
      have each := readOperators_depth within membersRead
      have own := Predicate.depth_conjunction members
      omega
    · simp only [bind_eq_ok, pure_eq_ok] at read
      obtain ⟨operand, -, rfl⟩ := read
      rw [Predicate.depth]
      omega

theorem readOperators_depth {mode : CaseMode} {depth : Nat} (within : depth ≤ maxDepth) :
    ∀ {operators : List (String × Json)} {members : List Filter},
      readOperators field maxDepth mode depth operators = .ok members →
        Predicate.depthOfAll members + 2 * depth ≤ 2 * maxDepth
  | [], members, read => by
    cases read
    rw [Predicate.depthOfAll]
    omega
  | (name, raw) :: rest, members, read => by
    unfold readOperators at read
    split at read
    · exact readOperators_depth within read
    · split at read
      · split at read
        · contradiction
        · next room =>
          simp only [bind_eq_ok, pure_eq_ok, exists_eq_left'] at read
          obtain ⟨negated, negatedRead, later, restRead, rfl⟩ := read
          have here := readEntryUnder_depth (Nat.le_of_not_lt room) negatedRead
          have there := readOperators_depth within restRead
          simp only [Predicate.depthOfAll, Predicate.depth]
          omega
      · simp only [bind_eq_ok, pure_eq_ok, exists_eq_left'] at read
        obtain ⟨test, -, later, restRead, rfl⟩ := read
        have there := readOperators_depth within restRead
        simp only [Predicate.depthOfAll, Predicate.depth]
        omega

end

end Condition

theorem Filter.fieldsWithin (entity : Entity) (maxDepth : Nat) :
    Predicate.FieldsWithin (Filter.rules entity maxDepth) 1 := by
  intro name depth raw tree within read
  simp only [Filter.rules, bind_eq_ok] at read
  obtain ⟨field, -, entryRead⟩ := read
  exact Condition.readEntryUnder_depth within entryRead

/-! ## Conditions on groups -/

/-- Whether a condition on groups suits the fields of an entity, of which some are grouped: a plain one
tests a grouped field, and any other one an aggregate that the field has, as a field of the kind of its
results that may be null. -/
def GroupCondition.Suits (entity : Entity) (grouped : List String) : GroupCondition → Prop
  | .field condition => condition.Suits entity ∧ condition.field ∈ grouped
  | .aggregate selector name test => ∃ field, entity.field? name = some field ∧
      selector.supports field.kind = true ∧
      test.Suits (Field.ofKind (selector.resultKind field.kind) name).orNull

theorem Entity.filterField_field? {entity : Entity} {name : String} {field : Field}
    (known : entity.filterField name = .ok field) : entity.field? field.name = some field := by
  unfold Entity.filterField at known
  split at known
  · next found =>
    cases known
    rw [(Entity.mem_of_field? found).2]
    exact found
  · contradiction

theorem Selector.check_eq_ok {selector : Selector} {field : Field} :
    selector.check field = .ok () ↔ selector.supports field.kind = true := by
  unfold check
  split
  · next supported => simp [supported]
  · next unsupported => simp [unsupported]

namespace GroupFilter

variable {entity : Entity} {grouped : List String} {field : Field} {maxDepth depth : Nat}

theorem readPlain_eq_ok {raw : Json} {tree : GroupFilter}
    (read : readPlain field grouped maxDepth depth raw = .ok tree) :
    field.name ∈ grouped ∧ ∃ filter, Condition.readEntry field maxDepth depth raw = .ok filter ∧
      filter.map .field = tree := by
  simp only [readPlain, check_eq_ok, bind_eq_ok, pure_eq_ok, not_not] at read
  exact read

theorem readPlain_suits (found : entity.field? field.name = some field) {raw : Json}
    {tree : GroupFilter} (read : readPlain field grouped maxDepth depth raw = .ok tree) :
    ∀ condition ∈ tree.leaves, condition.Suits entity grouped := by
  obtain ⟨isGrouped, filter, entryRead, rfl⟩ := readPlain_eq_ok read
  rw [Predicate.leaves_map, List.forall_mem_map]
  intro leaf inLeaves
  obtain ⟨named, suits⟩ := Condition.readEntryUnder_suits entryRead leaf inLeaves
  exact ⟨⟨field, named ▸ found, suits⟩, named ▸ isGrouped⟩

theorem readAggregates_suits (found : entity.field? field.name = some field) :
    ∀ {aggregates : List (Selector × Json)} {members : List GroupFilter},
      readAggregates field maxDepth depth aggregates = .ok members →
        ∀ condition ∈ Predicate.leavesOfAll members, condition.Suits entity grouped
  | [], members, read => by
    cases read
    simp [Predicate.leavesOfAll]
  | (selector, raw) :: rest, members, read => by
    simp only [readAggregates, bind_eq_ok, pure_eq_ok] at read
    obtain ⟨⟨⟩, checked, filter, entryRead, later, restRead, rfl⟩ := read
    refine List.forall_mem_append.2 ⟨?_, readAggregates_suits found restRead⟩
    rw [Predicate.leaves_map, List.forall_mem_map]
    intro leaf inLeaves
    obtain ⟨named, suits⟩ := Condition.readEntryUnder_suits entryRead leaf inLeaves
    -- The field whose results are tested has the name of the field that is reduced.
    change leaf.field = field.name at named
    exact ⟨field, named ▸ found, Selector.check_eq_ok.1 checked, named ▸ suits⟩

theorem readField_suits {name : String} {raw : Json} {tree : GroupFilter}
    (read : readField entity grouped maxDepth name depth raw = .ok tree) :
    ∀ condition ∈ tree.leaves, condition.Suits entity grouped := by
  simp only [readField, bind_eq_ok] at read
  obtain ⟨field, known, read⟩ := read
  have found := Entity.filterField_field? known
  split at read
  · simp only [bind_eq_ok] at read
    obtain ⟨members, membersRead, read⟩ := read
    have ofMembers : ∀ condition ∈ Predicate.leavesOfAll members, condition.Suits entity grouped :=
      readAggregates_suits found membersRead
    split at read
    · cases read
      rwa [Predicate.leaves_conjunction]
    · simp only [bind_eq_ok, pure_eq_ok] at read
      obtain ⟨last, lastRead, rfl⟩ := read
      rw [Predicate.leaves_conjunction, Predicate.leavesOfAll_append]
      refine List.forall_mem_append.2 ⟨ofMembers, ?_⟩
      rw [Predicate.leavesOfAll, Predicate.leavesOfAll, List.append_nil]
      exact readPlain_suits found lastRead
  · simp only [bind_eq_ok, pure_eq_ok] at read
    obtain ⟨only, onlyRead, rfl⟩ := read
    exact readPlain_suits found onlyRead

theorem readPlain_depth (within : depth ≤ maxDepth) {raw : Json} {tree : GroupFilter}
    (read : readPlain field grouped maxDepth depth raw = .ok tree) :
    tree.depth + 2 * depth ≤ 2 * maxDepth + 1 := by
  obtain ⟨-, filter, entryRead, rfl⟩ := readPlain_eq_ok read
  rw [Predicate.depth_map]
  exact Condition.readEntryUnder_depth within entryRead

theorem readAggregates_depth (within : depth ≤ maxDepth) :
    ∀ {aggregates : List (Selector × Json)} {members : List GroupFilter},
      readAggregates field maxDepth depth aggregates = .ok members →
        Predicate.depthOfAll members + 2 * depth ≤ 2 * maxDepth + 1
  | [], members, read => by
    cases read
    rw [Predicate.depthOfAll]
    omega
  | (selector, raw) :: rest, members, read => by
    simp only [readAggregates, bind_eq_ok, pure_eq_ok] at read
    obtain ⟨-, -, filter, entryRead, later, restRead, rfl⟩ := read
    have here := Condition.readEntryUnder_depth within entryRead
    have there := readAggregates_depth within restRead
    rw [Predicate.depthOfAll, Predicate.depth_map]
    omega

/-- The aggregates of a field and its other operators stand in a conjunction of their own. -/
theorem fieldsWithin (entity : Entity) (grouped : List String) (maxDepth : Nat) :
    Predicate.FieldsWithin (rules entity grouped maxDepth) 2 := by
  intro name depth raw tree within read
  simp only [rules, readField, bind_eq_ok] at read within ⊢
  obtain ⟨field, -, read⟩ := read
  split at read
  · simp only [bind_eq_ok] at read
    obtain ⟨members, membersRead, read⟩ := read
    have ofMembers := readAggregates_depth within membersRead
    split at read
    · cases read
      have own := Predicate.depth_conjunction members
      omega
    · simp only [bind_eq_ok, pure_eq_ok] at read
      obtain ⟨last, lastRead, rfl⟩ := read
      have ofLast := readPlain_depth within lastRead
      have own := Predicate.depth_conjunction (members ++ [last])
      rw [Predicate.depthOfAll_append] at own
      simp only [Predicate.depthOfAll] at own
      omega
  · simp only [bind_eq_ok, pure_eq_ok] at read
    obtain ⟨only, onlyRead, rfl⟩ := read
    have ofOnly := readPlain_depth within onlyRead
    rw [Predicate.conjunction]
    omega

end GroupFilter

/-! ## Trees that have been read -/

/-- Every leaf of a filter or of a condition on groups that has been read suits the field that it names,
and its tree is no deeper than twice the limit and a little more.  To evaluate it, or to make the clause of
a filter, no more composites are entered inside each other. -/
theorem trees_typed_and_shallow (entity : Entity) (grouped : List String) (maxDepth : Nat)
    (raw : Json) :
    (∀ filter, Filter.read entity maxDepth raw = .ok filter →
      (∀ condition ∈ filter.leaves, condition.Suits entity) ∧
      filter.depth ≤ 2 * maxDepth + 2 ∧
      (∀ record, filter.holdsWithin (fun condition => condition.meets record) (2 * maxDepth + 2)
        = some (filter.selects record)) ∧
      ∀ bound, filter.narrowingWithin entity (2 * maxDepth + 2) true bound
        = some (filter.narrowing entity bound)) ∧
    ∀ filter, GroupFilter.read entity grouped maxDepth raw = .ok filter →
      (∀ condition ∈ filter.leaves, condition.Suits entity grouped) ∧
      filter.depth ≤ 2 * maxDepth + 3 ∧
      ∀ key values, filter.holdsWithin (GroupCondition.meets key values) (2 * maxDepth + 3)
        = some (filter.selectsGroup key values) := by
  constructor
  · intro filter read
    have shallow := Predicate.readTree_depth Nat.one_pos (Filter.fieldsWithin entity maxDepth) read
    refine ⟨Filter.read_suits read, shallow, fun record => ?_, fun bound => ?_⟩
    · exact Predicate.holdsWithin_eq _ shallow
    · exact Predicate.narrowingWithin_eq entity shallow
  · intro filter read
    have shallow :=
      Predicate.readTree_depth Nat.two_pos (GroupFilter.fieldsWithin entity grouped maxDepth) read
    have typed := Predicate.readTree_leaves (P := GroupCondition.Suits entity grouped)
      (fun _ _ _ _ => GroupFilter.readField_suits) read
    exact ⟨typed, shallow, fun key values => Predicate.holdsWithin_eq _ shallow⟩

/-- Readings with a number and a note that may be null. -/
def readings : Entity :=
  ⟨"Readings", [.ofKind .int "Id", (Field.ofKind .string "Note").orNull], ["Id"]⟩

/-- A filter on readings, at a limit of one level. -/
def lateReadings : Filter :=
  .and [.not [.and [.and [.leaf ⟨"Id", .gt (.int 1)⟩, .leaf ⟨"Id", .lt (.int 9)⟩],
    .leaf ⟨"Note", .equals .null⟩]], .leaf ⟨"Note", .equals (.string "late")⟩]

/-- A condition on groups of readings, at a limit of none. -/
def fewReadings : GroupFilter :=
  .and [.and [.and [.leaf (.aggregate .count "Id" (.gt (.bigInt 1))),
    .leaf (.aggregate .count "Id" (.lt (.bigInt 9)))], .leaf (.field ⟨"Id", .gt (.int 0)⟩)],
    .leaf (.field ⟨"Note", .equals .null⟩)]

/-- Neither bound is too great: these trees are as deep as that. -/
theorem readings_typed_and_shallow :
    ((∀ condition ∈ lateReadings.leaves, condition.Suits readings) ∧
      lateReadings.depth = 2 * 1 + 2 ∧ lateReadings.depth ≤ 2 * 1 + 2) ∧
    (∀ condition ∈ fewReadings.leaves, condition.Suits readings ["Id", "Note"]) ∧
      fewReadings.depth = 2 * 0 + 3 ∧ fewReadings.depth ≤ 2 * 0 + 3 := by
  have lateRead : Filter.read readings 1
      (.obj [("NOT", .obj [("Id", .obj [("gt", .int 1), ("lt", .int 9)]), ("Note", .null)]),
        ("Note", .str "late")]) = .ok lateReadings := rfl
  have fewRead : GroupFilter.read readings ["Id", "Note"] 0
      (.obj [("Id", .obj [("_count", .obj [("gt", .int 1), ("lt", .int 9)]), ("gt", .int 0)]),
        ("Note", .null)]) = .ok fewReadings := rfl
  obtain ⟨lateSuits, lateShallow, -⟩ :=
    (trees_typed_and_shallow readings ["Id", "Note"] 1 _).1 _ lateRead
  obtain ⟨fewSuits, fewShallow, -⟩ :=
    (trees_typed_and_shallow readings ["Id", "Note"] 0 _).2 _ fewRead
  exact ⟨⟨lateSuits, rfl, lateShallow⟩, fewSuits, rfl, fewShallow⟩

end RecordStore
