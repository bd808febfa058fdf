import RecordStore.Proofs.Memory.Paging

/-! # Reads do not depend on the order of storage

A table is a list, and where a row stands in it is an accident of when it was stored.  A read does not
show it: rows are brought into an order that ends with the identity, and well-typed rows with
identities of their own never tie in it.

The comparison behind that order is transitive on the rows of one entity only, so `exists_rowOrder`
puts a comparison in its place that is transitive everywhere.  An order that was asked for may name
fields that the entity does not have; all rows have null there, and `knownTerms` leaves these out.

* `identity_strict` says that an order that ends with the identity is strict and total on such rows.
* `run_of_perm` says that two tables of the same rows give a plan the same result.
-/

namespace RecordStore

/-! ## Orders of well-typed rows -/

namespace Entity

variable {entity : Entity} {order : List OrderTerm}

theorem WellTyped.valueAt_of_unknown {row : Record} (wellTyped : entity.WellTyped row)
    {name : String} (unknown : entity.field? name = none) : row.valueAt name = .null := by
  have absent : ¬ row.contains name = true := by
    rw [wellTyped.names, mem_fieldNames]
    rintro ⟨field, member, rfl⟩
    simpa using List.find?_eq_none.1 unknown field member
  have unbound : row.get? name = none := by simpa [FieldMap.contains] using absent
  rw [FieldMap.valueAt, unbound]
  rfl

/-- The terms of an order that name a field of an entity. -/
def knownTerms (entity : Entity) (order : List OrderTerm) : List OrderTerm :=
  order.filter fun term => (entity.field? term.field).isSome

theorem knownTerms_known (entity : Entity) (order : List OrderTerm) :
    OrderKnown entity (entity.knownTerms order) := fun _ member =>
  Option.isSome_iff_exists.1 (List.mem_filter.1 member).2

/-- A field that an entity does not have tells none of its rows apart. -/
theorem compareRows_knownTerms {a b : Record} (wellTypedA : entity.WellTyped a)
    (wellTypedB : entity.WellTyped b) (order : List OrderTerm) :
    compareRows (entity.knownTerms order) a b = compareRows order a b := by
  induction order with
  | nil => rfl
  | cons term rest ih =>
    cases found : entity.field? term.field with
    | some field =>
      rw [knownTerms, List.filter_cons_of_pos (by simp [found]), compareRows, compareRows, ← ih,
        knownTerms]
    | none =>
      have level : term.compare a b = .eq := by
        rw [OrderTerm.compare, wellTypedA.valueAt_of_unknown found,
          wellTypedB.valueAt_of_unknown found]
        cases term.direction <;> rfl
      rw [knownTerms, List.filter_cons_of_neg (by simp [found]), compareRows, level, ← knownTerms,
        ih]
      rfl

/-- Well-typed rows compare as a transitive comparison has them. -/
theorem exists_rowOrder (entity : Entity) (order : List OrderTerm) :
    ∃ cmp : Record → Record → Ordering, Std.TransCmp cmp ∧
      ∀ a b, entity.WellTyped a → entity.WellTyped b → compareRows order a b = cmp a b := by
  obtain ⟨cmp, trans, agrees⟩ := compareRows_key entity (entity.knownTerms order)
  refine ⟨cmp, trans, fun a b wellTypedA wellTypedB => ?_⟩
  have known := knownTerms_known entity order
  rw [← compareRows_knownTerms wellTypedA wellTypedB,
    agrees a b (wellTypedA.suitsOrder known) (wellTypedB.suitsOrder known)]

/-- Rows with different identities do not tie in an order that ends with the identity. -/
theorem WellTyped.agreeOn_of_canonicalOrder (wellFormed : entity.WellFormed) {a b : Record}
    (wellTypedA : entity.WellTyped a) (wellTypedB : entity.WellTyped b)
    (tied : compareRows (canonicalOrder entity order) a b = .eq) :
    AgreeOn entity.identity a b := by
  rw [← compareRows_knownTerms wellTypedA wellTypedB] at tied
  refine wellTypedA.agreeOn_identity wellFormed wellTypedB (knownTerms_known entity _) ?_ tied
  intro name member
  obtain ⟨term, inOrder, rfl⟩ := (extendOrder_extends order entity.identity).2 name member
  obtain ⟨field, found, -⟩ := wellFormed.identity_fields _ member
  exact ⟨term, List.mem_filter.2 ⟨inOrder, by simp [found]⟩, rfl⟩

end Entity

/-! ## Tables with different identities -/

namespace Table

variable {entity : Entity} (wellFormed : entity.WellFormed) {rows : Table}
  (wellTyped : ∀ row ∈ rows, entity.WellTyped row)
  (unique : rows.Pairwise fun a b => ¬ AgreeOn entity.identity a b)

include wellFormed wellTyped unique

theorem pairwise_ne_eq_of_unique (asked : List OrderTerm) :
    rows.Pairwise fun a b => compareRows (canonicalOrder entity asked) a b ≠ .eq := by
  refine unique.imp_of_mem fun storedA storedB disagree tied => disagree ?_
  exact (wellTyped _ storedA).agreeOn_of_canonicalOrder wellFormed (wellTyped _ storedB) tied

/-- An order that ends with the identity is strict and total: rows tie only with themselves. -/
theorem identity_strict (asked : List OrderTerm) :
    let order := canonicalOrder entity asked
    (∀ a ∈ rows, ∀ b ∈ rows, ∀ c ∈ rows,
      compareRows order a b = .lt → compareRows order b c = .lt → compareRows order a c = .lt) ∧
    ∀ i j : Fin rows.length, compareRows order rows[i] rows[j] = .eq ↔ i = j := by
  intro order
  obtain ⟨cmp, _, agrees⟩ := entity.exists_rowOrder order
  constructor
  · intro a storedA b storedB c storedC ab bc
    rw [agrees a b (wellTyped a storedA) (wellTyped b storedB)] at ab
    rw [agrees b c (wellTyped b storedB) (wellTyped c storedC)] at bc
    rw [agrees a c (wellTyped a storedA) (wellTyped c storedC)]
    exact Std.TransCmp.lt_trans ab bc
  · have apart := pairwise_ne_eq_of_unique wellFormed wellTyped unique asked
    intro i j
    constructor
    · intro tied
      -- Of two different places one is in front, and the rows there do not tie either way round.
      rcases lt_trichotomy i j with before | same | behind
      · exact absurd tied (List.pairwise_iff_get.1 apart i j before)
      · exact same
      · refine absurd ?_ (List.pairwise_iff_get.1 apart j i behind)
        exact (compareRows_swap order rows[i] rows[j]).trans (by rw [tied]; rfl)
    · rintro rfl
      have typed := wellTyped rows[i] (List.getElem_mem i.isLt)
      exact (agrees rows[i] rows[i] typed typed).trans Std.ReflCmp.compare_self

/-- The rows of a table come into one order, however they are stored. -/
theorem sortRows_of_perm (asked : List OrderTerm) {other : Table} (perm : other.Perm rows) :
    sortRows (canonicalOrder entity asked) other = sortRows (canonicalOrder entity asked) rows := by
  obtain ⟨cmp, _, agrees⟩ := entity.exists_rowOrder (canonicalOrder entity asked)
  have apart : rows.Pairwise fun a b => cmp a b ≠ .eq := by
    refine (pairwise_ne_eq_of_unique wellFormed wellTyped unique asked).imp_of_mem ?_
    intro a b storedA storedB differ tied
    exact differ ((agrees a b (wellTyped a storedA) (wellTyped b storedB)).trans tied)
  have apartOther : other.Pairwise fun a b => cmp a b ≠ .eq :=
    perm.symm.pairwise apart fun differ tied => differ (Std.OrientedCmp.eq_comm.1 tied)
  rw [sortRows_eq_mergeSort fun a storedA b storedB =>
      agrees a b (wellTyped a storedA) (wellTyped b storedB),
    sortRows_eq_mergeSort fun a storedA b storedB =>
      agrees a b (wellTyped a (perm.subset storedA)) (wellTyped b (perm.subset storedB))]
  exact eq_of_perm_of_lt
    (((List.mergeSort_perm other _).trans perm).trans (List.mergeSort_perm rows _).symm)
    (sorted_lt apartOther) (sorted_lt apart)

/-- A plan of an order that ends with the identity gives the same rows, however they are stored. -/
theorem run_of_perm {plan : Plan} {asked : List OrderTerm}
    (ordered : plan.order = canonicalOrder entity asked) {other : Table} (perm : other.Perm rows) :
    plan.run other = plan.run rows := by
  have selected : ∀ row ∈ rows.filter plan.filter.selects, entity.WellTyped row := fun row member =>
    wellTyped row (List.mem_filter.1 member).1
  unfold Plan.run
  rw [ordered, sortRows_of_perm wellFormed selected (unique.filter _) asked (perm.filter _)]

end Table

/-! ## Stores -/

namespace MemoryStore

/-- Where rows are well typed and no two of them have the same identity, every order that ends with
the identity is strict and total on them, null coming first in ascending and last in descending
direction; and a store that has the same rows in another order answers every planned read the same. -/
theorem reads_of_perm {name : String} {fields : List Field} {identity : List String}
    {entity : Entity} (declared : Entity.declare name fields identity = .ok entity)
    {store : MemoryStore} (wellTyped : ∀ row ∈ store.rows entity.name, entity.WellTyped row)
    (unique : (store.rows entity.name).Pairwise fun a b => ¬ AgreeOn entity.identity a b) :
    let rows := store.rows entity.name
    (∀ asked, let order := canonicalOrder entity asked
      (∀ a b, compareRows order b a = (compareRows order a b).swap) ∧
      (∀ a ∈ rows, ∀ b ∈ rows, ∀ c ∈ rows,
        compareRows order a b = .lt → compareRows order b c = .lt → compareRows order a c = .lt) ∧
      (∀ i j : Fin rows.length, compareRows order rows[i] rows[j] = .eq ↔ i = j) ∧
      ∀ front term back a b, order = front ++ term :: back → compareRows front a b = .eq →
        (a.valueAt term.field).isNull = true → (b.valueAt term.field).isNull = false →
        compareRows order a b = if term.direction = .ascending then .lt else .gt) ∧
    ∀ other : MemoryStore, (other.rows entity.name).Perm rows → other.available = store.available →
      ∀ (query : Query) limits default? plan, query.plan entity limits default? = .ok plan →
        (interface.findMany entity plan other).1 = (interface.findMany entity plan store).1 ∧
        (interface.count entity plan other).1 = (interface.count entity plan store).1 ∧
        ∀ selection, (interface.aggregate entity ⟨plan, selection⟩ other).1
          = (interface.aggregate entity ⟨plan, selection⟩ store).1 := by
  intro rows
  have wellFormed := Entity.declare_wellFormed declared
  refine ⟨fun asked => ⟨compareRows_swap _, ?_⟩, ?_⟩
  · obtain ⟨trans, strict⟩ := Table.identity_strict wellFormed wellTyped unique asked
    refine ⟨trans, strict, fun front term back a b parted tied null present => ?_⟩
    rw [parted, compareRows_of_null tied null present]
  · intro other perm available query limits default? plan planned
    have same : plan.run (other.rows entity.name) = plan.run rows :=
      Table.run_of_perm wellFormed wellTyped unique (Query.order_of_plan planned) perm
    simp only [interface, result_inspect, available, AggregateQuery.run, same, rows, implies_true,
      and_self]

/-! ## Tasks by their due times -/

def tasks : Entity :=
  ⟨"Tasks", [.ofKind .int "Id", (Field.ofKind .decimal "Due").orNull], ["Id"]⟩

theorem declare_tasks : Entity.declare "Tasks" tasks.fields ["Id"] = .ok tasks := rfl

def task (id : Int32) (due : Value) : Record := .ofList [("Id", .int id), ("Due", due)]

theorem task_wellTyped (id : Int32) {due : Value}
    (admits : (Field.ofKind .decimal "Due").orNull.Admits due) : tasks.WellTyped (task id due) := by
  refine Entity.Allows.wellTyped (Entity.declare_wellFormed declare_tasks) ?_ ?_
  · exact ((tasks.allows_empty).insert rfl (.inr (.int id))).insert rfl admits
  · intro field member
    have named : field.name = "Due" ∨ field.name = "Id" := by
      simp only [tasks, List.mem_cons, List.not_mem_nil, or_false] at member
      rcases member with rfl | rfl
      · exact .inr rfl
      · exact .inl rfl
    refine (FieldMap.contains_insert _ _ _ _).2 (named.imp_right fun isId => ?_)
    exact (FieldMap.contains_insert _ _ _ _).2 (.inl isId)

/-- The same time, written in two ways. -/
def soon : Value := .decimal ⟨false, 15000, 4, by decide, by decide⟩

def soonToo : Value := .decimal ⟨false, 150000, 5, by decide, by decide⟩

def taskStore (rows : Table) : MemoryStore := ⟨FieldMap.empty.insert "Tasks" rows, true, 0⟩

/-- Tasks, the last one that is due first and those without a time at the end. -/
def tasksByDue : Table := [task 2 soon, task 3 soonToo, task 1 .null, task 4 .null]

def latestDue : Query := ⟨.and [], [⟨"Due", .descending⟩], none, some 3, none, []⟩

theorem tasksByDue_wellTyped : ∀ row ∈ tasksByDue, tasks.WellTyped row := by
  intro row member
  simp only [tasksByDue, List.mem_cons, List.not_mem_nil, or_false] at member
  rcases member with rfl | rfl | rfl | rfl
  · exact task_wellTyped 2 (.inr (.decimal _))
  · exact task_wellTyped 3 (.inr (.decimal _))
  · exact task_wellTyped 1 (.inl ⟨rfl, rfl⟩)
  · exact task_wellTyped 4 (.inl ⟨rfl, rfl⟩)

theorem tasksByDue_unique : tasksByDue.Pairwise fun a b => ¬ AgreeOn tasks.identity a b := by
  have named : tasksByDue.Pairwise fun a b => (a.valueAt "Id").same (b.valueAt "Id") = false := by
    decide +kernel
  refine named.imp fun differ agree => ?_
  simp [(agree "Id" (.head _)).2.2] at differ

theorem matching_latestDue : latestDue.matching tasks tasksByDue = tasksByDue := by
  have kept : tasksByDue.filter latestDue.filter.selects = tasksByDue := by decide +kernel
  rw [Query.matching, kept]
  exact List.mergeSort_of_pairwise (by decide +kernel)

/-- Tasks come by their due times, however they are stored: times that are equal tie, and the identity
tells them apart, as it does where there is no time. -/
theorem tasks_read :
    ∃ plan, latestDue.planPage tasks default = .ok plan ∧
      (interface.findMany tasks plan
        (taskStore [task 3 soonToo, task 2 soon, task 4 .null, task 1 .null])).1
          = .ok [task 2 soon, task 3 soonToo, task 1 .null] := by
  let store := taskStore tasksByDue
  have typed : ∀ row ∈ store.rows tasks.name, tasks.WellTyped row := tasksByDue_wellTyped
  have unique : (store.rows tasks.name).Pairwise fun a b => ¬ AgreeOn tasks.identity a b :=
    tasksByDue_unique
  have shuffled :
      List.Perm [task 3 soonToo, task 2 soon, task 4 .null, task 1 .null] tasksByDue :=
    .trans (.swap _ _ _) (.cons _ (.cons _ (.swap _ _ _)))
  let plan : Plan :=
    ⟨latestDue.filter, canonicalOrder tasks latestDue.order, none, ⟨.forward, 0, some 3⟩, []⟩
  have planned : latestDue.planPage tasks default = .ok plan := rfl
  have ran : plan.run tasksByDue = [task 2 soon, task 3 soonToo, task 1 .null] := by
    show plan.window (latestDue.matching tasks tasksByDue) = _
    rw [matching_latestDue]
    rfl
  refine ⟨plan, planned, ?_⟩
  obtain ⟨-, reads⟩ := reads_of_perm declare_tasks typed unique
  obtain ⟨found, -⟩ := reads (taskStore _) shuffled rfl latestDue default _ plan planned
  exact found.trans (congrArg Except.ok ran)

end MemoryStore

end RecordStore
