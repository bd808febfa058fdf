import RecordStore.Proofs.Aggregate.Reductions
import RecordStore.Proofs.Memory.StorageOrder
import RecordStore.Aggregate.Groups

/-! # Grouping is a partition and a reduction

Rows go into parts one after the other, and a part opens with the first row of its key.  What comes of
it does not show that: `partition_eq` says that the parts are those of the keys, each with all the rows
of its key.  A part is then reduced on its own, and what becomes of it depends on its rows only.

* `reduce_eq` says what becomes of a part.
* `reduceAll_eq` says which groups there are, before they are put in order and paged.
* `sum_length_withKey` says that every row is in the part of one key.
* `group_sound` says the same of the groups that are handed over.
-/

namespace RecordStore

namespace GroupQuery

variable {fields : List String}

/-! ## Parts -/

/-- The rows of a key. -/
def withKey (fields key : List String) (rows : List Record) : List Record :=
  rows.filter fun row => distinctKey fields row = key

theorem withKey_concat_of_eq {key : List String} {row : Record} (same : distinctKey fields row = key)
    (rows : List Record) : withKey fields key (rows ++ [row]) = withKey fields key rows ++ [row] := by
  simp [withKey, same]

theorem withKey_concat_of_ne {key : List String} {row : Record} (other : distinctKey fields row ≠ key)
    (rows : List Record) : withKey fields key (rows ++ [row]) = withKey fields key rows := by
  simp [withKey, other]

/-- A row goes to the rows of its key, and a key that is new opens a part. -/
theorem place_eq {row : Record} {rows : List Record} {keys : List (List String)}
    (distinct : keys.Nodup)
    (unseen : distinctKey fields row ∉ keys → withKey fields (distinctKey fields row) rows = []) :
    place fields row (keys.map fun key => (key, withKey fields key rows))
      = (if distinctKey fields row ∈ keys then keys else keys ++ [distinctKey fields row]).map
          fun key => (key, withKey fields key (rows ++ [row])) := by
  induction keys with
  | nil => simp [place, withKey_concat_of_eq, unseen]
  | cons key rest ih =>
    obtain ⟨absent, distinctRest⟩ := List.nodup_cons.1 distinct
    rw [List.map_cons, place]
    by_cases same : distinctKey fields row = key
    · have others : ∀ other ∈ rest,
          withKey fields other (rows ++ [row]) = withKey fields other rows := fun other member =>
        withKey_concat_of_ne (fun again => absent (same.symm.trans again ▸ member)) rows
      rw [if_pos same, if_pos (same ▸ List.mem_cons_self), List.map_cons, withKey_concat_of_eq same,
        List.map_congr_left fun other member => by rw [← others other member]]
    · have later : distinctKey fields row ∈ key :: rest ↔ distinctKey fields row ∈ rest := by
        simp [same]
      rw [if_neg same, ih distinctRest fun new => unseen (later.not.2 new)]
      simp only [later]
      split <;> simp [withKey_concat_of_ne same]

/-- The parts of rows are those of the keys that occur, each with all the rows of its key. -/
theorem partition_eq (fields : List String) (rows : List Record) :
    ∃ keys : List (List String), keys.Nodup ∧
      (∀ key, key ∈ keys ↔ ∃ row ∈ rows, distinctKey fields row = key) ∧
      partition fields rows = keys.map fun key => withKey fields key rows := by
  suffices parted : ∃ keys : List (List String), keys.Nodup ∧
      (∀ key, key ∈ keys ↔ ∃ row ∈ rows, distinctKey fields row = key) ∧
      rows.foldl (fun parts row => place fields row parts) []
        = keys.map fun key => (key, withKey fields key rows) by
    obtain ⟨keys, distinct, occurs, parts⟩ := parted
    exact ⟨keys, distinct, occurs, by simp [partition, parts]⟩
  induction rows using List.reverseRecOn with
  | nil => exact ⟨[], .nil, by simp, rfl⟩
  | append_singleton rows row ih =>
    obtain ⟨keys, distinct, occurs, parts⟩ := ih
    have unseen : distinctKey fields row ∉ keys →
        withKey fields (distinctKey fields row) rows = [] := fun new =>
      List.filter_eq_nil_iff.2 fun other member => by
        simpa using fun same => new ((occurs _).2 ⟨other, member, same⟩)
    rw [List.foldl_append, parts, List.foldl_cons, List.foldl_nil, place_eq distinct unseen]
    refine ⟨_, ?_, fun key => ?_, rfl⟩
    · split
      · exact distinct
      · next new => exact List.nodup_append.2 ⟨distinct, by simp, by grind⟩
    · have step : (∃ other ∈ rows ++ [row], distinctKey fields other = key) ↔
          key ∈ keys ∨ distinctKey fields row = key := by
        simp [occurs, or_and_right, exists_or]
      rw [step]
      split
      · next seen => exact ⟨.inl, fun either => either.elim id fun same => same ▸ seen⟩
      · simp [eq_comm]

/-- Each row is in the part of one key. -/
theorem sum_length_withKey {keys : List (List String)} {rows : List Record} (distinct : keys.Nodup)
    (occurs : ∀ row ∈ rows, distinctKey fields row ∈ keys) :
    (keys.map fun key => (withKey fields key rows).length).sum = rows.length := by
  induction rows with
  | nil => simp [withKey]
  | cons row rest ih =>
    obtain ⟨here, there⟩ := List.forall_mem_cons.1 occurs
    have counted : ∀ key, (withKey fields key (row :: rest)).length
        = (withKey fields key rest).length + if distinctKey fields row = key then 1 else 0 := by
      intro key
      by_cases same : distinctKey fields row = key <;> simp [withKey, same]
    simp only [counted, List.sum_map_add, ih there, List.length_cons]
    rw [List.sum_map_eq_nsmul_single (distinctKey fields row) _ fun key other _ => if_neg other.symm]
    simpa using @List.count_eq_one_of_mem _ instBEqOfDecidableEq inferInstance _ _ distinct here

/-! ## Keys of groups -/

/-- The key of a part is that of a row in it. -/
theorem exists_keyOf {key : List String} {rows : List Record}
    (occurs : ∃ row ∈ rows, distinctKey fields row = key) :
    ∃ first ∈ rows, distinctKey fields first = key ∧
      ∀ name ∈ fields,
        (keyOf fields (withKey fields key rows)).valueAt name = first.valueAt name := by
  obtain ⟨row, stored, named⟩ := occurs
  have member : row ∈ withKey fields key rows := List.mem_filter.2 ⟨stored, by simpa using named⟩
  cases part : withKey fields key rows with
  | nil =>
    rw [part] at member
    contradiction
  | cons first rest =>
    have inPart : first ∈ withKey fields key rows := part ▸ List.mem_cons_self
    obtain ⟨storedFirst, namedFirst⟩ := List.mem_filter.1 inPart
    refine ⟨first, storedFirst, by simpa using namedFirst, fun name listed => ?_⟩
    rw [keyOf, FieldMap.valueAt, FieldMap.get?_ofList_map, if_pos listed]
    rfl

theorem distinctKey_keyOf {key : List String} {rows : List Record}
    (occurs : ∃ row ∈ rows, distinctKey fields row = key) :
    distinctKey fields (keyOf fields (withKey fields key rows)) = key := by
  obtain ⟨first, -, named, values⟩ := exists_keyOf occurs
  exact (List.map_congr_left fun name listed => by rw [values name listed]).trans named

/-! ## Reducing parts -/

/-- Whether every aggregate that a grouping asks for or tests can be computed on records. -/
def Computable (query : GroupQuery) (members : List Record) : Prop :=
  ∀ term ∈ query.selection.terms ++ query.having.requiredAggregates,
    ∃ value, term.1.compute term.2 members = .ok value

/-- Whether a part passes the condition, its aggregates computed where they are tested. -/
def Selects (query : GroupQuery) (members : List Record) : Prop :=
  query.having.holds (GroupCondition.metBy (keyOf query.fields members) members) = true

instance (query : GroupQuery) (members : List Record) : Decidable (query.Selects members) :=
  inferInstanceAs (Decidable (_ = true))

/-- A part that passes the condition becomes a group with the aggregates asked for. -/
theorem reduce_eq {query : GroupQuery} {members : List Record} (computable : query.Computable members) :
    ∃ values, query.selection.evaluate members = .ok values ∧
      query.reduce members = .ok
        (if query.Selects members then some ⟨keyOf query.fields members, values⟩ else none) := by
  obtain ⟨asked, tested⟩ := List.forall_mem_append.1 computable
  obtain ⟨values, evaluated⟩ := computeTerms_ok asked .empty
  refine ⟨values, evaluated, ?_⟩
  rw [reduce, show query.selection.evaluate members = .ok values from evaluated]
  cases always : query.having.isAlways with
  | true =>
    have selected : query.Selects members := Predicate.holds_of_isAlways always _
    rw [if_pos selected]
    rfl
  | false =>
    obtain ⟨candidate, ran, read⟩ :=
      Predicate.selectsGroup_computeTerms tested (keyOf query.fields members) values
    have selects : (query.having.selectsGroup (keyOf query.fields members) candidate = true)
        = query.Selects members := by rw [read, Selects]
    simp only [bind, Except.bind, pure, Except.pure, Bool.false_eq_true, if_false, ran, selects]
    split <;> rfl

/-- The groups of parts are those of the keys whose part passes the condition. -/
theorem reduceAll_eq {query : GroupQuery} {rows : List Record} {keys : List (List String)}
    (occurs : ∀ key ∈ keys, ∃ row ∈ rows, distinctKey query.fields row = key)
    (computable : ∀ key ∈ keys, query.Computable (withKey query.fields key rows)) :
    ∃ groups, query.reduceAll (keys.map fun key => withKey query.fields key rows) = .ok groups ∧
      (groups.map fun group => distinctKey query.fields group.key)
        = keys.filter (fun key => query.Selects (withKey query.fields key rows)) ∧
      ∀ group ∈ groups,
        let part := withKey query.fields (distinctKey query.fields group.key) rows
        group.key = keyOf query.fields part ∧ query.selection.evaluate part = .ok group.values := by
  induction keys with
  | nil => exact ⟨[], rfl, rfl, by simp⟩
  | cons key rest ih =>
    obtain ⟨here, there⟩ := List.forall_mem_cons.1 occurs
    obtain ⟨computableHere, computableThere⟩ := List.forall_mem_cons.1 computable
    obtain ⟨groups, ran, keyed, reduced⟩ := ih there computableThere
    obtain ⟨values, evaluated, became⟩ := reduce_eq computableHere
    rw [List.map_cons, reduceAll, became, ran]
    by_cases selected : query.Selects (withKey query.fields key rows)
    · have named := distinctKey_keyOf here
      refine ⟨⟨keyOf query.fields (withKey query.fields key rows), values⟩ :: groups, ?_, ?_, ?_⟩
      · simp [bind, Except.bind, pure, Except.pure, selected]
      · rw [List.map_cons, named, keyed, List.filter_cons_of_pos (by simpa using selected)]
      · refine List.forall_mem_cons.2 ⟨?_, reduced⟩
        simp only [named]
        exact ⟨trivial, evaluated⟩
    · refine ⟨groups, ?_, ?_, reduced⟩
      · simp [bind, Except.bind, pure, Except.pure, selected]
      · rw [keyed, List.filter_cons_of_neg (by simpa using selected)]

/-! ## Groupings that were read -/

variable {entity : Entity} {limits : Limits} {arguments : FieldMap Json} {query : GroupQuery}

theorem read_eq_ok (read : GroupQuery.read entity limits arguments = .ok query) :
    ∃ order, readFieldNames entity (arguments.strings "by") [] = .ok query.fields ∧
      GroupFilter.read entity query.fields limits.maxFilterDepth
        ((arguments.given? "having").getD .null) = .ok query.having ∧
      readOrder entity ((arguments.given? "orderBy").getD .null) = .ok order ∧
      (∀ term ∈ order, term.field ∈ query.fields) ∧ query.order = extendOrder order query.fields := by
  obtain ⟨-, read⟩ := check_eq_ok.1 read
  obtain ⟨fields, listed, read⟩ := bind_eq_ok.1 read
  obtain ⟨filter, -, read⟩ := bind_eq_ok.1 read
  obtain ⟨having, tested, read⟩ := bind_eq_ok.1 read
  obtain ⟨order, sorted, read⟩ := bind_eq_ok.1 read
  simp only at read
  split at read
  · contradiction
  · next grouped =>
    obtain ⟨-, read⟩ := check_eq_ok.1 read
    obtain ⟨skip, -, read⟩ := bind_eq_ok.1 read
    obtain ⟨take?, -, read⟩ := bind_eq_ok.1 read
    obtain ⟨selection, -, read⟩ := bind_eq_ok.1 read
    cases read
    exact ⟨order, listed, tested, sorted, by simpa using grouped, rfl⟩

/-- The order of a grouping names grouped fields only. -/
theorem order_known (read : GroupQuery.read entity limits arguments = .ok query) :
    OrderKnown entity query.order ∧ ∀ term ∈ query.order, term.field ∈ query.fields := by
  obtain ⟨order, listed, -, sorted, grouped, extended⟩ := read_eq_ok read
  have known := readFieldNames_known (by simp) listed
  rw [extended]
  refine ⟨(extendOrder_known (readOrder_known sorted) known).1, fun term member => ?_⟩
  exact (mem_extendOrder member).elim (grouped term) id

theorem having_of_not_given (read : GroupQuery.read entity limits arguments = .ok query)
    (absent : arguments.given? "having" = none) : query.having = .always := by
  obtain ⟨_, -, tested, -⟩ := read_eq_ok read
  rw [absent] at tested
  exact (Except.ok.inj tested).symm

/-! ## Pages of groups -/

theorem reduceAll_page (query : GroupQuery) (skip : Nat) (take? : Option Nat)
    (parts : List (List Record)) :
    reduceAll { query with skip := skip, take? := take? } parts = query.reduceAll parts := by
  induction parts with
  | nil => rfl
  | cons members rest ih =>
    rw [reduceAll, reduceAll, ih]
    rfl

/-- Groups stand in order where their keys have the values of well-typed rows. -/
theorem sorted_groups {order : List OrderTerm} (known : OrderKnown entity order)
    {groups : List Group}
    (typed : ∀ group ∈ groups, ∃ row, entity.WellTyped row ∧
      ∀ term ∈ order, group.key.valueAt term.field = row.valueAt term.field) :
    (groups.mergeSort fun a b => compareRows order a.key b.key != .gt).Pairwise
      fun a b => compareRows order a.key b.key ≠ .gt := by
  obtain ⟨cmp, _, agrees⟩ := compareRows_key entity order
  have suits : ∀ group ∈ groups, SuitsOrder entity order group.key := by
    intro group member term listed
    obtain ⟨row, wellTyped, values⟩ := typed group member
    rw [values term listed]
    exact wellTyped.suitsOrder known term listed
  have agreesOn : ∀ a ∈ groups, ∀ b ∈ groups,
      compareRows order a.key b.key = cmp a.key b.key :=
    fun a memberA b memberB => agrees _ _ (suits a memberA) (suits b memberB)
  have byKey : Std.TransCmp fun a b : Group => cmp a.key b.key :=
    { eq_swap := Std.OrientedCmp.eq_swap, isLE_trans := Std.TransCmp.isLE_trans }
  rw [mergeSort_eq_of_agrees agreesOn]
  refine (sorted_ne_gt groups).imp_of_mem fun {a b} memberA memberB ordered => ?_
  rwa [agreesOn a (List.mem_mergeSort.1 memberA) b (List.mem_mergeSort.1 memberB)]

/-- Groups that cover all rows have counts that add up to the number of rows. -/
theorem sum_counts {query : GroupQuery} {rows : List Record} {groups : List Group}
    (evaluated : ∀ group ∈ groups, query.selection.evaluate
      (withKey query.fields (distinctKey query.fields group.key) rows) = .ok group.values)
    (distinct : (groups.map fun group => distinctKey query.fields group.key).Nodup)
    (covered : ∀ row ∈ rows, distinctKey query.fields row ∈
      groups.map fun group => distinctKey query.fields group.key)
    (asked : (.count, Selector.everyRecord) ∈ query.selection.terms)
    (fits : rows.length < Nat.pow 2 63) :
    ∃ size : Group → Nat,
      (∀ group ∈ groups,
        (group.values.aggregate .count Selector.everyRecord).integer? = some (size group : Int)) ∧
      (groups.map size).sum = rows.length := by
  refine ⟨fun group => (withKey query.fields (distinctKey query.fields group.key) rows).length,
    fun group member => ?_, ?_⟩
  · have less : (withKey query.fields (distinctKey query.fields group.key) rows).length
        ≤ rows.length := List.length_filter_le _ _
    exact Selection.integer?_count (evaluated group member) asked (less.trans_lt fits)
  · have sum := sum_length_withKey distinct covered
    rwa [List.map_map] at sum

/-- Where no aggregate fails, a grouping has one group for each key whose rows pass the condition, with
the aggregates of these rows, in order; and it hands over the page of them that was asked for.  Without
a condition the counts add up to the number of rows, as long as counts of 64 bits can say it. -/
theorem group_sound (read : GroupQuery.read entity limits arguments = .ok query)
    {rows : List Record} (wellTyped : ∀ row ∈ rows, entity.WellTyped row)
    (computable : ∀ row ∈ rows,
      query.Computable (withKey query.fields (distinctKey query.fields row) rows)) :
    let keyOfGroup (group : Group) := distinctKey query.fields group.key
    let part key := withKey query.fields key rows
    ∃ groups,
      group { query with skip := 0, take? := none } rows = .ok groups ∧
      query.group rows = .ok (takeAtMost query.take? (groups.drop query.skip)) ∧
      (groups.map keyOfGroup).Nodup ∧
      (∀ key, key ∈ groups.map keyOfGroup ↔
        (∃ row ∈ rows, distinctKey query.fields row = key) ∧ query.Selects (part key)) ∧
      (∀ group ∈ groups, group.key = keyOf query.fields (part (keyOfGroup group)) ∧
        query.selection.evaluate (part (keyOfGroup group)) = .ok group.values) ∧
      groups.Pairwise (fun a b => compareRows query.order a.key b.key ≠ .gt) ∧
      (arguments.given? "having" = none → (.count, Selector.everyRecord) ∈ query.selection.terms →
        rows.length < Nat.pow 2 63 →
        ∃ size : Group → Nat,
          (∀ group ∈ groups,
            (group.values.aggregate .count Selector.everyRecord).integer? = some (size group : Int)) ∧
          (groups.map size).sum = rows.length) := by
  intro keyOfGroup part
  obtain ⟨keys, distinct, occurs, parted⟩ := partition_eq query.fields rows
  obtain ⟨unordered, ran, keyed, reduced⟩ := reduceAll_eq (fun key listed => (occurs key).1 listed)
    fun key listed => by
      obtain ⟨row, stored, named⟩ := (occurs key).1 listed
      exact named ▸ computable row stored
  let le (a b : Group) : Bool := compareRows query.order a.key b.key != .gt
  have perm : (unordered.mergeSort le).Perm unordered := List.mergeSort_perm unordered le
  have reducedSorted := fun group member => reduced group (perm.subset member)
  have distinctSorted : ((unordered.mergeSort le).map keyOfGroup).Nodup := by
    rw [(perm.map keyOfGroup).nodup_iff, keyed]
    exact distinct.filter _
  have selected : ∀ key, key ∈ (unordered.mergeSort le).map keyOfGroup ↔
      (∃ row ∈ rows, distinctKey query.fields row = key) ∧ query.Selects (part key) := fun key => by
    rw [(perm.map keyOfGroup).mem_iff, keyed, List.mem_filter, occurs, decide_eq_true_iff]
  refine ⟨unordered.mergeSort le, ?_, ?_, distinctSorted, selected, reducedSorted, ?_,
    fun absent asked fits => ?_⟩
  · rw [group, reduceAll_page, parted, ran]
    rfl
  · rw [group, parted, ran]
    rfl
  · obtain ⟨known, grouped⟩ := order_known read
    refine sorted_groups known fun group member => ?_
    have inSorted : keyOfGroup group ∈ (unordered.mergeSort le).map keyOfGroup :=
      List.mem_map_of_mem (perm.mem_iff.2 member)
    obtain ⟨first, stored, -, values⟩ := exists_keyOf ((selected _).1 inSorted).1
    refine ⟨first, wellTyped first stored, fun term listed => ?_⟩
    rw [(reduced group member).1]
    exact values term.field (grouped term listed)
  · have always : query.having = .always := having_of_not_given read absent
    have passes : ∀ key, query.Selects (part key) := fun key => by
      rw [Selects, always]
      rfl
    exact sum_counts (fun group member => (reducedSorted group member).2) distinctSorted
      (fun row stored => (selected _).2 ⟨⟨row, stored, rfl⟩, passes _⟩) asked fits

/-! ## Tasks that are due together -/

open MemoryStore (tasks task task_wellTyped soon)

/-- Tasks by their due times, where one has a number above three, and how many there are. -/
def dueArguments : FieldMap Json :=
  .ofList [("by", .arr [.str "Due"]), ("_count", .bool true),
    ("having", .obj [("Id", .obj [("_max", .obj [("gt", .int 3)])])])]

def dueQuery : GroupQuery :=
  ⟨["Due"], .always, .leaf (.aggregate .maximum "Id" (.gt (.int 3))), [⟨"Due", .ascending⟩], 0, none,
    ⟨[(.count, Selector.everyRecord)]⟩⟩

def dueTasks : List Record := [task 1 .null, task 2 soon, task 4 .null]

/-- The condition is on an aggregate that is not asked for, and only tasks without a time pass it. -/
theorem dueTasks_grouped :
    ∃ groups, group { dueQuery with skip := 0, take? := none } dueTasks = .ok groups ∧
      distinctKey ["Due"] (task 1 .null) ∈ groups.map (fun group => distinctKey ["Due"] group.key) ∧
      distinctKey ["Due"] (task 2 soon) ∉ groups.map fun group => distinctKey ["Due"] group.key := by
  have read : GroupQuery.read tasks default dueArguments = .ok dueQuery := rfl
  have wellTyped : ∀ row ∈ dueTasks, tasks.WellTyped row := by
    intro row member
    simp only [dueTasks, List.mem_cons, List.not_mem_nil, or_false] at member
    rcases member with rfl | rfl | rfl
    · exact task_wellTyped 1 (.inl ⟨rfl, rfl⟩)
    · exact task_wellTyped 2 (.inr (.decimal _))
    · exact task_wellTyped 4 (.inl ⟨rfl, rfl⟩)
  have computable : ∀ row ∈ dueTasks,
      dueQuery.Computable (withKey dueQuery.fields (distinctKey dueQuery.fields row) dueTasks) := by
    intro row stored term member
    change term ∈ [(Selector.count, Selector.everyRecord), (Selector.maximum, "Id")] at member
    simp only [dueTasks, List.mem_cons, List.not_mem_nil, or_false] at stored member
    rcases stored with rfl | rfl | rfl <;> rcases member with rfl | rfl <;> exact ⟨_, rfl⟩
  obtain ⟨groups, grouped, -, -, keys, -⟩ := group_sound read wellTyped computable
  refine ⟨groups, grouped, (keys _).2 ⟨⟨_, List.mem_cons_self, rfl⟩, ?_⟩, fun listed => ?_⟩
  · decide +kernel
  · exact absurd ((keys _).1 listed).2 (by decide +kernel)

end GroupQuery

end RecordStore
