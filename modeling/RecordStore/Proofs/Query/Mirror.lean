import RecordStore.Proofs.Memory.StorageOrder

/-! # Backward is forward in a mirror

A page that is read backward is the page that is read forward in the order turned around, handed over
from its end.  The order has to be free of ties, or rows that tie would keep their places in both.  And the
cursor has to stand at one row: a scan begins at the first of its rows in the order of the plan, and that
is another one when the order is turned around.

* `Plan.window_mirror` turns a window around, `Table.sortRows_backward` the rows that it is cut from.
-/

namespace RecordStore

/-! ## Plans and their mirror images -/

namespace Plan

/-- A plan that reads in a direction. -/
def inDirection (plan : Plan) (direction : ScanDirection) : Plan :=
  { plan with page := { plan.page with direction := direction } }

/-- A plan with every term of its order turned around. -/
def turned (plan : Plan) : Plan := { plan with order := ScanDirection.backward.order plan.order }

theorem window_mirror {plan : Plan} {rows : List Record}
    (single : ∀ cursor, plan.cursor? = some cursor → (rows.filter cursor.isOf).length ≤ 1) :
    (plan.inDirection .backward).window rows
      = ((plan.turned.inDirection .forward).window rows.reverse).reverse :=
  @window_eq (plan.inDirection .backward) rows single

/-- Without a cursor, a page that is read backward has the last rows. -/
theorem window_last {plan : Plan} {n : Nat} (page : plan.page = ⟨.backward, 0, some n⟩)
    (noCursor : plan.cursor? = none) (noDistinct : plan.distinct = []) (rows : List Record) :
    plan.window rows = rows.drop (rows.length - n) := by
  have keepsAll : keepDistinct plan.distinct rows.reverse = rows.reverse := by
    rw [noDistinct]
    rfl
  have cut : plan.paginate rows.reverse = rows.reverse.take n := by
    rw [paginate, keepsAll, page]
    rfl
  have fromAll : plan.fromCursor rows = rows := by
    rw [fromCursor, noCursor]
  unfold window
  simp only [page, fromAll, cut]
  rw [List.take_reverse, List.reverse_reverse]

end Plan

/-! ## Tables with different identities -/

namespace Table

section

variable {entity : Entity} (wellFormed : entity.WellFormed) {rows : Table}
  (wellTyped : ∀ row ∈ rows, entity.WellTyped row)
  (unique : rows.Pairwise fun a b => ¬ AgreeOn entity.identity a b)

include wellFormed wellTyped unique

/-- Rows without ties stand the other way round in the order turned around. -/
theorem sortRows_backward (asked : List OrderTerm) :
    sortRows (ScanDirection.backward.order (canonicalOrder entity asked)) rows
      = (sortRows (canonicalOrder entity asked) rows).reverse := by
  obtain ⟨cmp, _, agrees⟩ := entity.exists_rowOrder (canonicalOrder entity asked)
  have agrees : ∀ a ∈ rows, ∀ b ∈ rows, compareRows (canonicalOrder entity asked) a b = cmp a b :=
    fun a storedA b storedB => agrees a b (wellTyped a storedA) (wellTyped b storedB)
  have turned : ∀ a ∈ rows, ∀ b ∈ rows,
      compareRows (ScanDirection.backward.order (canonicalOrder entity asked)) a b = cmp b a := by
    intro a storedA b storedB
    rw [compareRows_backward, agrees b storedB a storedA]
  have apart : rows.Pairwise fun a b => cmp a b ≠ .eq := by
    apply (pairwise_ne_eq_of_unique wellFormed wellTyped unique asked).imp_of_mem
    intro a b storedA storedB differ tied
    exact differ ((agrees a storedA b storedB).trans tied)
  rw [sortRows_eq_mergeSort agrees, sortRows_eq_mergeSort turned]
  exact mergeSort_swap apart

/-- A plan that reads backward gives the rows of its mirror image, from their end. -/
theorem run_mirror {plan : Plan} {asked : List OrderTerm}
    (ordered : plan.order = canonicalOrder entity asked)
    (single : ∀ cursor, plan.cursor? = some cursor →
      ((rows.filter plan.filter.selects).filter cursor.isOf).length ≤ 1) :
    (plan.inDirection .backward).run rows
      = ((plan.turned.inDirection .forward).run rows).reverse := by
  let selected := rows.filter plan.filter.selects
  have selectedTyped : ∀ row ∈ selected, entity.WellTyped row := fun row member =>
    wellTyped row (List.mem_filter.1 member).1
  have sorted : (sortRows plan.order selected).Perm selected := List.mergeSort_perm _ _
  have singleSorted : ∀ cursor, plan.cursor? = some cursor →
      ((sortRows plan.order selected).filter cursor.isOf).length ≤ 1 := by
    intro cursor isCursor
    rw [(sorted.filter cursor.isOf).length_eq]
    exact single cursor isCursor
  have mirrored := Plan.window_mirror singleSorted
  have turned := sortRows_backward wellFormed selectedTyped (unique.filter _) asked
  rw [← ordered] at turned
  rw [← turned] at mirrored
  exact mirrored

end

end Table

/-! ## Queries -/

namespace Query

variable {entity : Entity} {limits : Limits} {query : Query} {default? : Option Nat} {plan : Plan}

/-- A plan is what its query asks for, and a page within limits. -/
theorem plan_eq_ok (planned : query.plan entity limits default? = .ok plan) :
    ∃ skip direction take?, planSkip limits query.skip? = .ok skip ∧
      planTake limits default? query.cursor?.isSome query.take? = .ok (direction, take?) ∧
      plan = query.planOf entity query.cursor? ⟨direction, skip, take?⟩ := by
  unfold Query.plan at planned
  split at planned
  · contradiction
  · next skip skipPlanned =>
    split at planned
    · contradiction
    · next direction take? takePlanned =>
      cases planned
      exact ⟨skip, direction, take?, skipPlanned, takePlanned, rfl⟩

theorem cursor_fits {arguments : FieldMap Json}
    (read : Query.read entity limits arguments = .ok query) {cursor : Address}
    (isCursor : query.cursor? = some cursor) : cursor.Fits entity := by
  simp only [Query.read, bind_eq_ok, pure_eq_ok] at read
  obtain ⟨_, -, _, -, cursor?, cursorRead, _, -, rfl⟩ := read
  obtain rfl : cursor? = some cursor := isCursor
  obtain ⟨raw, -, addressRead⟩ := optionMapM_eq_ok cursorRead
  exact Address.read_fits addressRead

/-- A negative number of rows to take means the last rows that a query matches. -/
theorem run_last {n : Nat} (planned : query.plan entity limits default? = .ok plan)
    (last : query.take? = some (-(n : Int))) (noCursor : query.cursor? = none)
    (noDistinct : query.distinct = []) (noSkip : query.skip? = none) (rows : List Record) :
    plan.run rows
      = (query.matching entity rows).drop ((query.matching entity rows).length - n) := by
  obtain ⟨skip, direction, take?, skipPlanned, takePlanned, rfl⟩ := plan_eq_ok planned
  rw [noSkip] at skipPlanned
  cases skipPlanned
  rw [last, noCursor] at takePlanned
  rw [run_planOf]
  simp only [planTake, Option.isSome_none, Bool.false_eq_true, and_false, if_false,
    Int.natAbs_neg, Int.natAbs_natCast] at takePlanned
  split at takePlanned
  · contradiction
  · obtain ⟨rfl, rfl⟩ := Prod.mk.inj (Except.ok.inj takePlanned)
    by_cases some : 0 < n
    · apply Plan.window_last _ noCursor noDistinct
      rw [planOf, if_pos (by omega)]
    · -- No rows are taken forward, and none are left behind all of them.
      obtain rfl : n = 0 := by omega
      rw [Nat.sub_zero, List.drop_length]
      rfl

end Query

/-! ## Pages -/

namespace Table

/-- On well-typed rows with different identities, a page that is read backward is the reverse of the
page that is read forward in the order turned around, if the cursor stands at one of the rows that the
plan selects or at none.

So it does for every query that has been read, where no two rows agree on a unique key.  In particular
the last rows that a query matches come in its own order. -/
theorem pages_mirrored {name : String} {fields : List Field} {identity : List String}
    {entity : Entity} (declared : Entity.declare name fields identity = .ok entity) {rows : Table}
    (wellTyped : ∀ row ∈ rows, entity.WellTyped row)
    (unique : rows.Pairwise fun a b => ¬ AgreeOn entity.identity a b) :
    (∀ (plan : Plan) asked, plan.order = canonicalOrder entity asked →
      (∀ cursor, plan.cursor? = some cursor →
        ((rows.filter plan.filter.selects).filter cursor.isOf).length ≤ 1) →
      (plan.inDirection .backward).run rows
        = ((plan.turned.inDirection .forward).run rows).reverse) ∧
    ((∀ key ∈ entity.uniqueKeys, rows.Pairwise fun a b => ¬ AgreeOn key a b) →
      ∀ limits arguments (query : Query) default? (plan : Plan),
        Query.read entity limits arguments = .ok query →
        query.plan entity limits default? = .ok plan →
        (plan.inDirection .backward).run rows
          = ((plan.turned.inDirection .forward).run rows).reverse) ∧
    ∀ limits (query : Query) default? (plan : Plan) (n : Nat),
      query.plan entity limits default? = .ok plan → query.take? = some (-(n : Int)) →
      query.cursor? = none → query.distinct = [] → query.skip? = none →
      plan.run rows
        = (query.matching entity rows).drop ((query.matching entity rows).length - n) := by
  have wellFormed := Entity.declare_wellFormed declared
  refine ⟨?_, ?_, ?_⟩
  · intro plan asked ordered single
    exact run_mirror wellFormed wellTyped unique ordered single
  · intro keys limits arguments query default? plan read planned
    apply run_mirror wellFormed wellTyped unique (Query.order_of_plan planned)
    intro cursor isCursor
    have valid : Valid entity rows := by
      refine ⟨fun row stored name field found => ?_, keys⟩
      exact ((wellTyped row stored).admits_field found).fits
    obtain ⟨skip, direction, take?, -, -, rfl⟩ := Query.plan_eq_ok planned
    have single := valid.length_filter_isOf_le_one (Query.cursor_fits read isCursor)
    exact Nat.le_trans (List.filter_sublist.filter cursor.isOf).length_le single
  · intro limits query default? plan n planned last noCursor noDistinct noSkip
    exact Query.run_last planned last noCursor noDistinct noSkip rows

open MemoryStore

/-- Backward come the tasks without a time, in the order of their numbers; forward, where those without a
time are first, they come the other way round. -/
theorem tasks_mirrored :
    let lastTwo : Query := { latestDue with take? := some (-2) }
    ∃ plan, lastTwo.planPage tasks default = .ok plan ∧
      plan.run tasksByDue = [task 1 .null, task 4 .null] ∧
      (plan.turned.inDirection .forward).run tasksByDue = [task 4 .null, task 1 .null] := by
  intro lastTwo
  let plan : Plan :=
    ⟨latestDue.filter, canonicalOrder tasks latestDue.order, none, ⟨.backward, 0, some 2⟩, []⟩
  have planned : lastTwo.planPage tasks default = .ok plan := rfl
  obtain ⟨mirrored, -, last⟩ :=
    pages_mirrored declare_tasks tasksByDue_wellTyped tasksByDue_unique
  have backward : plan.run tasksByDue = [task 1 .null, task 4 .null] := by
    have matching : lastTwo.matching tasks tasksByDue = tasksByDue := matching_latestDue
    rw [last default lastTwo _ plan 2 planned rfl rfl rfl rfl, matching]
    rfl
  refine ⟨plan, planned, backward, ?_⟩
  have reversed := mirrored plan latestDue.order rfl nofun
  exact List.reverse_injective (reversed.symm.trans backward)

/-- Two manufacturers with different identities have one name, and the cursor stands at both of them.
The scan backward begins at the first of them, and has nothing behind it; forward in the order turned
around, the scan begins at the second one and goes on to the first. -/
theorem namesakes_not_mirrored :
    let rows : Table := [manufacturer 1 "Axis", manufacturer 2 "Axis"]
    let cursor : Address := ⟨FieldMap.empty.insert "Name" (.string "Axis")⟩
    let plan : Plan :=
      ⟨.and [], canonicalOrder manufacturers [], some cursor, ⟨.backward, 0, some 2⟩, []⟩
    Address.read manufacturers (.obj [("Name", .str "Axis")]) = .ok cursor ∧
    (∀ row ∈ rows, manufacturers.WellTyped row) ∧
    (rows.Pairwise fun a b => ¬ AgreeOn manufacturers.identity a b) ∧
    (plan.inDirection .backward).run rows = [manufacturer 1 "Axis"] ∧
    (plan.turned.inDirection .forward).run rows = [manufacturer 2 "Axis", manufacturer 1 "Axis"] ∧
    (plan.inDirection .backward).run rows
      ≠ ((plan.turned.inDirection .forward).run rows).reverse := by
  intro rows cursor plan
  have wellTyped : ∀ row ∈ rows, manufacturers.WellTyped row := by
    rw [List.forall_mem_cons, List.forall_mem_singleton]
    exact ⟨manufacturer_wellTyped 1 "Axis", manufacturer_wellTyped 2 "Axis"⟩
  have unique : rows.Pairwise fun a b => ¬ AgreeOn manufacturers.identity a b := by
    rw [List.pairwise_pair]
    intro agree
    exact absurd (agree "Id" List.mem_cons_self).2.2 (by decide +kernel)
  have selected : rows.filter plan.filter.selects = rows := by decide +kernel
  have sorted : sortRows plan.order rows = rows := List.mergeSort_of_pairwise (by decide +kernel)
  have turned : sortRows plan.turned.order rows = rows.reverse := by
    have mirrored := sortRows_backward (Entity.declare_wellFormed tableManufacturers_eq) wellTyped
      unique []
    exact mirrored.trans (congrArg List.reverse sorted)
  have backward : (plan.inDirection .backward).run rows = [manufacturer 1 "Axis"] := by
    show plan.window (sortRows plan.order (rows.filter plan.filter.selects)) = _
    rw [selected, sorted]
    decide +kernel
  have forward : (plan.turned.inDirection .forward).run rows
      = [manufacturer 2 "Axis", manufacturer 1 "Axis"] := by
    show (plan.turned.inDirection .forward).window
      (sortRows plan.turned.order (rows.filter plan.filter.selects)) = _
    rw [selected, turned]
    decide +kernel
  refine ⟨by decide +kernel, wellTyped, unique, backward, forward, ?_⟩
  rw [backward, forward]
  decide +kernel

end Table

end RecordStore
