import RecordStore.Proofs.Memory.Completeness
import RecordStore.Proofs.Memory.Uniqueness
import RecordStore.Proofs.Query.Paging
import RecordStore.Proofs.Typing.Plans

/-! # Every row once

On the stores that requests lead to, reading page by page gives every row that a query matches once,
and in its order.  Two invariants of these stores are behind it: no two rows agree on a unique key, so
that a cursor stands at one row and the order, which ends with the identity, has no ties; and values
are of their kinds and no NaN, so that a row matches its own addresses.
-/

namespace RecordStore

/-! ## Rows that are told apart -/

namespace Entity

variable {entity : Entity} {row : Record}

theorem WellTyped.admits_field (wellTyped : entity.WellTyped row) {name : String} {field : Field}
    (found : entity.field? name = some field) : field.Admits (row.valueAt name) := by
  obtain ⟨member, rfl⟩ := mem_of_field? found
  exact wellTyped.admits field member

theorem WellTyped.suitsOrder (wellTyped : entity.WellTyped row) {order : List OrderTerm}
    (known : OrderKnown entity order) : SuitsOrder entity order row := by
  intro term member
  obtain ⟨field, found⟩ := known term member
  have admits := wellTyped.admits_field found
  exact ⟨field, found, admits.fits, admits.isNaN_eq_false⟩

theorem WellTyped.identity_present (wellFormed : entity.WellFormed)
    (wellTyped : entity.WellTyped row) :
    ∀ name ∈ entity.identity, (row.valueAt name).isNull = false := by
  intro name member
  obtain ⟨field, found, required⟩ := wellFormed.identity_fields name member
  exact (wellTyped.admits_field found).isNull_eq_false required

/-- Well-typed rows that tie in an order that has the fields of the identity agree on the identity. -/
theorem WellTyped.agreeOn_identity (wellFormed : entity.WellFormed) {a b : Record}
    (wellTypedA : entity.WellTyped a) (wellTypedB : entity.WellTyped b) {order : List OrderTerm}
    (known : OrderKnown entity order)
    (ends : ∀ name ∈ entity.identity, ∃ term ∈ order, term.field = name)
    (tied : compareRows order a b = .eq) : AgreeOn entity.identity a b := by
  rw [compareRows_eq_iff (wellTypedA.suitsOrder known) (wellTypedB.suitsOrder known)] at tied
  refine fun name member => ⟨?_, ?_, ?_⟩
  · exact wellTypedA.identity_present wellFormed name member
  · exact wellTypedB.identity_present wellFormed name member
  · obtain ⟨term, inOrder, rfl⟩ := ends name member
    exact tied term inOrder

/-- The address of a well-typed row under a unique key fits, and the row matches it. -/
theorem WellTyped.fits_of_pointsTo (wellFormed : entity.WellFormed)
    (wellTyped : entity.WellTyped row) {address : Address}
    (points : Address.PointsTo entity row address) :
    address.Fits entity ∧ address.isOf row = true := by
  cases points with
  | read read isOf => exact ⟨Address.read_fits read, isOf⟩
  | values key isKey made =>
    rw [Address.ofRecord?_eq] at made
    split at made
    · next present =>
      cases made
      refine ⟨⟨key, isKey, fun name member => ?_⟩,
        Address.isOf_ofValues_iff.2 fun name member => ?_⟩
      all_goals
        obtain ⟨field, found⟩ := wellFormed.exists_field_of_key isKey member
        have admits := wellTyped.admits_field found
      · refine ⟨row.valueAt name, field, ?_, found, admits.fits.holds (present name member)⟩
        rw [Address.ofValues, FieldMap.get?_ofList_map, if_pos member]
      · exact admits.fits.same_self admits.isNaN_eq_false
    · contradiction

theorem WellTyped.pointsTo_identity (wellFormed : entity.WellFormed)
    (wellTyped : entity.WellTyped row) :
    Address.PointsTo entity row (Address.ofValues row entity.identity) := by
  refine .values _ List.mem_cons_self ?_
  rw [Address.ofRecord?_eq, if_pos (wellTyped.identity_present wellFormed)]

/-- A well-typed row has an address, that of its identity. -/
theorem WellTyped.exists_pointsTo (wellFormed : entity.WellFormed)
    (wellTyped : entity.WellTyped row) : ∃ address, Address.PointsTo entity row address :=
  ⟨_, wellTyped.pointsTo_identity wellFormed⟩

end Entity

namespace Table.Valid

variable {entity : Entity} {rows : Table} (wellFormed : entity.WellFormed)
  (valid : Table.Valid entity rows) (wellTyped : ∀ row ∈ rows, entity.WellTyped row)

include wellFormed valid wellTyped

theorem unambiguous : Query.Unambiguous entity rows := by
  intro row stored address points
  obtain ⟨fits, isOf⟩ := (wellTyped row stored).fits_of_pointsTo wellFormed points
  exact ⟨isOf, valid.length_filter_isOf_le_one fits⟩

/-- No two rows tie in an order that ends with the identity. -/
theorem pairwise_compareRows_ne_eq {order : List OrderTerm} (known : OrderKnown entity order)
    (ends : ∀ name ∈ entity.identity, ∃ term ∈ order, term.field = name) :
    rows.Pairwise fun a b => compareRows order a b ≠ .eq := by
  refine (valid.unique entity.identity List.mem_cons_self).imp_of_mem ?_
  intro a b storedA storedB disagree tied
  exact disagree ((wellTyped a storedA).agreeOn_identity wellFormed (wellTyped b storedB) known ends
    tied)

/-- The rows that a query matches are in strict order. -/
theorem matching_sorted {query : Query} (known : OrderKnown entity query.order) :
    (query.matching entity rows).Pairwise fun a b =>
      compareRows (canonicalOrder entity query.order) a b = .lt := by
  have fields := fun name member =>
    (wellFormed.identity_fields name member).imp fun _ found => found.1
  obtain ⟨orderKnown, -, ends⟩ := extendOrder_known known fields
  have untied := valid.pairwise_compareRows_ne_eq wellFormed wellTyped orderKnown ends
  obtain ⟨cmp, _, onSuited⟩ := compareRows_key entity (canonicalOrder entity query.order)
  have agrees : ∀ a ∈ rows, ∀ b ∈ rows,
      compareRows (canonicalOrder entity query.order) a b = cmp a b :=
    fun a storedA b storedB => onSuited a b ((wellTyped a storedA).suitsOrder orderKnown)
      ((wellTyped b storedB).suitsOrder orderKnown)
  have apart : rows.Pairwise fun a b => cmp a b ≠ .eq :=
    untied.imp_of_mem fun {a b} storedA storedB differ tied =>
      differ ((agrees a storedA b storedB).trans tied)
  have strict := sorted_lt (apart.filter query.filter.selects)
  rw [← sortRows_eq_mergeSort fun a memberA b memberB =>
    agrees a (List.mem_filter.1 memberA).1 b (List.mem_filter.1 memberB).1] at strict
  refine strict.imp_of_mem fun {a b} memberA memberB less => ?_
  rw [agrees a (Query.mem_of_mem_matching memberA) b (Query.mem_of_mem_matching memberB), less]

end Table.Valid

/-! ## Stores -/

namespace MemoryStore

variable {entities : List Entity} {registry : Registry} {store : MemoryStore} {entity : Entity}

/-- A store that is there shows the rows of a plan as they are stored. -/
theorem run_find (wellTyped : ∀ row ∈ store.rows entity.name, entity.WellTyped row)
    (available : store.available = true) (plan : Plan) (clock : Clock) :
    ((Command.find plan false).run interface entity clock store).1
      = .ok (.records (plan.run (store.rows entity.name))) := by
  have asStored : (plan.run (store.rows entity.name)).map entity.complete
      = plan.run (store.rows entity.name) := by
    refine (List.map_congr_left fun row member => ?_).trans (List.map_id _)
    exact Entity.complete_of_wellTyped (wellTyped row (Plan.mem_of_mem_run member))
  rw [result_find entity plan clock available, asStored]

/-- The rows that a query matches are read once each and in order, page by page in either direction,
and at growing offsets as far as the limits let a query skip; the store shows what the plan of a page
gives.

A walk through pages goes on until it reads an empty page, which comes after as many pages as there
are rows at the latest.  At offsets, rows are told apart by the distinct fields, as they are without
pages. -/
theorem rows_paged (registered : Registry.ofEntities entities = .ok registry)
    (declared : ∀ entity ∈ entities,
      ∃ name fields identity, Entity.declare name fields identity = .ok entity)
    (reachable : ReachableFromJson registry store) (member : entity ∈ entities) {limits : Limits}
    {arguments : FieldMap Json} {query : Query}
    (read : Query.read entity limits arguments = .ok query) {size : Nat} (positive : 1 ≤ size)
    (bounded : size ≤ limits.maxPageSize) (skips : 1 ≤ limits.maxSkip) :
    let rows := store.rows entity.name
    let matching := query.matching entity rows
    (matching.Perm (rows.filter query.filter.selects) ∧
      matching.Pairwise fun a b =>
        compareRows (canonicalOrder entity query.order) a b = .lt) ∧
    (store.available = true → ∀ (plan : Plan) (clock : Clock),
      ((Command.find plan false).run interface entity clock store).1
        = .ok (.records (plan.run rows))) ∧
    (query.distinct = [] → ∀ direction pages cursor?,
      Query.PageWalk query entity limits rows direction size pages cursor? →
      pages.length ≤ matching.length ∧
      ∃ page, (query.pageFrom direction size cursor?).readPage entity limits rows = .ok page ∧
        page.length ≤ size ∧
        (page = [] → (direction.arrange pages).flatten = matching) ∧
        (page ≠ [] → ∃ address,
          Query.PageWalk query entity limits rows direction size (pages ++ [page])
            (some address))) ∧
    ∃ whole, query.readAll entity limits rows = .ok whole ∧
      (query.distinct = [] → whole = matching) ∧
      (∀ count, (∀ i < count, i * size ≤ limits.maxSkip) →
        ∃ pages, query.readOffsets entity limits rows size count = .ok pages ∧
          pages.flatten = whole.take (count * size)) ∧
      ∀ offset, limits.maxSkip < offset →
        (query.pageAt size offset).readPage entity limits rows
          = .error (.invalidPagination (.skipTooLarge offset limits.maxSkip)) := by
  intro rows matching
  have wellFormed : ∀ entity ∈ entities, entity.WellFormed := by
    intro entity member
    obtain ⟨name, fields, identity, accepted⟩ := declared entity member
    exact Entity.declare_wellFormed accepted
  have valid := rows_valid registered wellFormed reachable.reachable member
  have wellTyped := rows_wellTyped registered (declared entity member) reachable member
  have wellFormed := wellFormed entity member
  have sorted := valid.matching_sorted wellFormed wellTyped (Query.read_known read)
  refine ⟨⟨List.mergeSort_perm _ _, sorted⟩, fun available => run_find wellTyped available, ?_, _,
    Query.readAll_eq query entity limits rows, ?_, ?_, ?_⟩
  · intro noDistinct direction pages cursor? walk
    obtain ⟨short, page, pageRead, small, last, next⟩ := walk.next noDistinct positive bounded skips
      (valid.unambiguous wellFormed wellTyped)
    refine ⟨short, page, pageRead, small, last, fun nonempty => ?_⟩
    have arranged : direction.arrange page ≠ [] := by
      rwa [← List.length_pos_iff, ScanDirection.length_arrange, List.length_pos_iff]
    have inPage := ScanDirection.mem_arrange.1 (List.getLast_mem arranged)
    have stored := Query.mem_of_mem_readPage pageRead inPage
    obtain ⟨address, points⟩ := (wellTyped _ stored).exists_pointsTo wellFormed
    exact ⟨address, next _ address (List.getLast?_eq_some_getLast arranged) points⟩
  · intro noDistinct
    simp [keepDistinct, noDistinct, matching]
  · exact fun count allowed => Query.readOffsets_eq query entity rows positive bounded allowed
  · exact fun offset refused => Query.readPage_pageAt_of_lt refused

/-! ## Pages of manufacturers -/

def manufacturer (id : Int32) (name : String) : Record :=
  .ofList [("Id", .int id), ("Name", .string name)]

theorem manufacturer_wellTyped (id : Int32) (name : String) :
    manufacturers.WellTyped (manufacturer id name) := by
  apply Entity.Allows.wellTyped (Entity.declare_wellFormed tableManufacturers_eq)
  · exact (manufacturers.allows_empty.insert rfl (.inr (.int id))).insert rfl (.inr (.string name))
  · intro field member
    simp only [manufacturers, List.mem_cons, List.not_mem_nil, or_false] at member
    cases member with
    | inl isId =>
      subst isId
      show (manufacturer id name).contains "Id" = true
      simp [manufacturer, FieldMap.ofList, FieldMap.contains]
    | inr isName =>
      subst isName
      show (manufacturer id name).contains "Name" = true
      simp [manufacturer, FieldMap.ofList, FieldMap.contains]

/-- The store behind a request for three manufacturers. -/
def threeManufacturers : MemoryStore :=
  let named (name : String) : Json := .obj [("Name", .str name)]
  let data : Json := .arr [named "Axis", named "Bosch", named "Hikvision"]
  let request : Request := ⟨"Manufacturers", "createMany", .obj [("data", data)]⟩
  (request.execute interface manufacturerRegistry default (fun _ => default) .never .empty).store

theorem reachable_threeManufacturers :
    ReachableFromJson manufacturerRegistry threeManufacturers :=
  ReachableFromJson.empty.execute _ _ _ (by simp)

def manufacturerTable : Table :=
  [manufacturer 1 "Axis", manufacturer 2 "Bosch", manufacturer 3 "Hikvision"]

theorem rows_threeManufacturers : threeManufacturers.rows "Manufacturers" = manufacturerTable := by
  decide +kernel

/-- The query of all rows, in the order of the identity. -/
def allRows : Query := ⟨.and [], [], none, none, none, []⟩

/-- Limits that let a query skip one row. -/
def oneSkip : Limits := { (default : Limits) with maxSkip := 1 }

theorem read_allRows : Query.read manufacturers oneSkip .empty = .ok allRows := rfl

theorem matching_allRows : allRows.matching manufacturers manufacturerTable = manufacturerTable := by
  have selected : manufacturerTable.filter allRows.filter.selects = manufacturerTable := by
    decide +kernel
  rw [Query.matching, selected]
  exact List.mergeSort_of_pairwise (by decide +kernel)

theorem readPage_allRows (direction : ScanDirection) (cursor? : Option Address) :
    (allRows.pageFrom direction 2 cursor?).readPage manufacturers oneSkip manufacturerTable
      = .ok ((allRows.planOf manufacturers cursor?
          ⟨direction, if cursor?.isSome then 1 else 0, some 2⟩).window manufacturerTable) := by
  have planned := Query.planPage_pageFrom allRows manufacturers direction cursor?
    (by decide : 1 ≤ 2) (by decide : 2 ≤ oneSkip.maxPageSize) (by decide)
  rw [Query.readPage_eq planned, Query.run_planOf, matching_allRows]

/-- Backward in pages of two, the last two manufacturers come first, and then the first one. -/
theorem manufacturers_paged :
    ∃ cursor, Query.PageWalk allRows manufacturers oneSkip
        (threeManufacturers.rows "Manufacturers") .backward 2
        [[manufacturer 2 "Bosch", manufacturer 3 "Hikvision"], [manufacturer 1 "Axis"]]
        (some cursor) ∧
      (allRows.pageFrom .backward 2 (some cursor)).readPage manufacturers oneSkip
        (threeManufacturers.rows "Manufacturers") = .ok [] ∧
      [manufacturer 1 "Axis", manufacturer 2 "Bosch", manufacturer 3 "Hikvision"]
        = allRows.matching manufacturers (threeManufacturers.rows "Manufacturers") := by
  have registered : Registry.ofEntities [manufacturers] = .ok manufacturerRegistry := rfl
  have declared : ∀ entity ∈ [manufacturers],
      ∃ name fields identity, Entity.declare name fields identity = .ok entity := by
    intro entity member
    rw [List.mem_singleton.1 member]
    exact ⟨_, _, _, tableManufacturers_eq⟩
  obtain ⟨-, -, walks, -⟩ := rows_paged registered declared reachable_threeManufacturers
    List.mem_cons_self read_allRows (by decide : 1 ≤ 2) (by decide) (by decide)
  have walks := walks rfl
  have stored : threeManufacturers.rows manufacturers.name = manufacturerTable :=
    rows_threeManufacturers
  rw [stored] at walks
  rw [rows_threeManufacturers]
  have first : Query.PageWalk allRows manufacturers oneSkip manufacturerTable .backward 2
      [[manufacturer 2 "Bosch", manufacturer 3 "Hikvision"]]
      (some (Address.ofValues (manufacturer 2 "Bosch") ["Name"])) := by
    refine .step .start ((readPage_allRows _ _).trans (congrArg _ ?_)) rfl (.values ["Name"] ?_ ?_)
    all_goals decide +kernel
  have second : Query.PageWalk allRows manufacturers oneSkip manufacturerTable .backward 2
      [[manufacturer 2 "Bosch", manufacturer 3 "Hikvision"], [manufacturer 1 "Axis"]]
      (some (Address.ofValues (manufacturer 1 "Axis") ["Id"])) := by
    refine .step first ((readPage_allRows _ _).trans (congrArg _ ?_)) rfl (.values ["Id"] ?_ ?_)
    all_goals decide +kernel
  have last : (allRows.pageFrom .backward 2
      (some (Address.ofValues (manufacturer 1 "Axis") ["Id"]))).readPage manufacturers oneSkip
        manufacturerTable = .ok [] :=
    (readPage_allRows _ _).trans (congrArg _ (by decide +kernel))
  obtain ⟨-, page, read, -, complete, -⟩ := walks .backward _ _ second
  rw [last, Except.ok.injEq] at read
  exact ⟨_, second, last, complete read.symm⟩

/-- Where a query may skip one row only, the third manufacturer is on a page that is refused: no
number of pages at growing offsets holds what the query finds. -/
theorem manufacturers_offset_refused :
    ReachableFromJson manufacturerRegistry threeManufacturers ∧
    Query.read manufacturers oneSkip .empty = .ok allRows ∧
    allRows.readAll manufacturers oneSkip (threeManufacturers.rows "Manufacturers")
      = .ok manufacturerTable ∧
    (allRows.pageAt 2 2).readPage manufacturers oneSkip (threeManufacturers.rows "Manufacturers")
      = .error (.invalidPagination (.skipTooLarge 2 1)) ∧
    ¬ ∃ count pages, allRows.readOffsets manufacturers oneSkip
        (threeManufacturers.rows "Manufacturers") 2 count = .ok pages ∧
      pages.flatten = manufacturerTable := by
  rw [rows_threeManufacturers]
  have refused : (allRows.pageAt 2 2).readPage manufacturers oneSkip manufacturerTable
      = .error (.invalidPagination (.skipTooLarge 2 1)) := rfl
  refine ⟨reachable_threeManufacturers, read_allRows, ?_, refused, ?_⟩
  · rw [Query.readAll_eq, matching_allRows]
    rfl
  · rintro ⟨count, pages, read, complete⟩
    by_cases few : count ≤ 1
    · -- One page has two of the three rows.
      have allowed : ∀ i < count, i * 2 ≤ oneSkip.maxSkip := by
        intro i less
        rw [show i = 0 by omega]
        decide
      obtain ⟨fewer, fewerRead, found⟩ := Query.readOffsets_eq allRows manufacturers
        manufacturerTable (by decide : 1 ≤ 2) (by decide) allowed
      rw [read, Except.ok.injEq] at fewerRead
      subst fewerRead
      have lengths := congrArg List.length (complete.symm.trans found)
      rw [matching_allRows, List.length_take] at lengths
      have three : manufacturerTable.length = 3 := rfl
      omega
    · have related := mapM_eq_ok.1 read
      have atOne : 1 < (List.range count).length := by rw [List.length_range]; omega
      have pageRead := related.get atOne (related.length_eq ▸ atOne)
      rw [List.get_eq_getElem, List.getElem_range] at pageRead
      exact absurd (refused.symm.trans pageRead) nofun

end MemoryStore

end RecordStore
