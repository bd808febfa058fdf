import RecordStore.Proofs.Database.Scan

/-! # A window that a statement cuts

What a statement has scanned it also cuts to a page, unless rows have to be told apart by their
values.  `window_sound` says that the result is the window of the records in memory.
-/

namespace RecordStore

namespace DatabaseStore

variable {entity : Entity} {plan : Plan} {pairs : List Pair}

/-! ## The page -/

/-- In memory a plan returns the page of the same pairs, arranged back. -/
theorem DelegablePairs.run_eq (delegable : DelegablePairs entity plan pairs)
    {cmp : Pair → Pair → Ordering} [Std.TransCmp cmp]
    (order : ScanOrder (plan.page.direction.order plan.order) pairs cmp) :
    plan.run (pairs.map Prod.snd) = plan.page.direction.arrange
      (plan.paginate (plan.fromScan ((passing plan cmp pairs).map Prod.snd))) := by
  have sorted : sortRows plan.order ((pairs.map Prod.snd).filter plan.filter.selects)
      = plan.page.direction.arrange ((passing plan cmp pairs).map Prod.snd) := by
    rw [List.filter_map, passing]
    exact order.sortRows_arrange _
  have passingSingle : ∀ cursor, plan.cursor? = some cursor →
      ((plan.page.direction.arrange ((passing plan cmp pairs).map Prod.snd)).filter
        cursor.isOf).length ≤ 1 := by
    intro cursor given
    rw [ScanDirection.filter_arrange, ScanDirection.length_arrange, List.filter_map,
      List.length_map, passing, List.filter_filter, ← (ScanOrder.perm_sorted.filter _).length_eq]
    refine Nat.le_trans (List.Sublist.length_le ?_) (delegable.cursor_single cursor given)
    exact List.monotone_filter_right pairs fun pair accepted => (Bool.and_eq_true_iff.1 accepted).1
  -- The rows that memory sorts are those of the scan arranged, and arranging twice is no change.
  rw [Plan.run, sorted, Plan.window_eq passingSingle, ScanDirection.arrange_arrange]

theorem cut_eq {page : Page} (bounded : ∀ size, page.take? = some size → size ≤ maxPageBound)
    (rows : StoredTable) : cut page rows = .ok (takeAtMost page.take? (rows.drop page.skip)) := by
  unfold cut
  cases given : page.take? with
  | none => rfl
  | some size => exact if_neg (Nat.not_lt.2 (bounded size given))

theorem map_takeAtMost {α β : Type} (f : α → β) (bound? : Option Nat) (items : List α) :
    (takeAtMost bound? items).map f = takeAtMost bound? (items.map f) := by
  cases bound?
  · rfl
  · exact List.map_take

theorem mem_of_mem_takeAtMost {α : Type} {bound? : Option Nat} {items : List α} {item : α}
    (member : item ∈ takeAtMost bound? items) : item ∈ items := by
  cases bound? with
  | none => exact member
  | some bound => exact List.mem_of_mem_take member

theorem paginate_of_isEmpty {plan : Plan} (noDistinct : plan.distinct.isEmpty = true)
    (rows : List Record) :
    plan.paginate rows = takeAtMost plan.page.take? (rows.drop plan.page.skip) := by
  rw [Plan.paginate, keepDistinct, if_pos noDistinct]

theorem paginate_nil (plan : Plan) : plan.paginate [] = [] := by
  unfold Plan.paginate keepDistinct takeAtMost
  cases plan.page.take? <;> split <;> simp [firstOfEach]

section Page

variable (decided : decides entity plan = true)
  (bounded : ∀ size, plan.page.take? = some size → size ≤ maxPageBound)
  {found : List Pair} (loads : ∀ pair ∈ found, entity.load pair.1 = .ok pair.2)
  {rows : StoredTable} (scanned : scan entity plan rows = .ok (some (found.map Prod.fst)))

include decided bounded loads scanned

theorem window_of_scan : window entity plan rows
    = .ok (plan.page.direction.arrange (plan.paginate (found.map Prod.snd))) := by
  unfold window
  simp only [decided, scanned, Bool.not_true, Bool.false_eq_true, if_false, bind, Except.bind, pure,
    Except.pure]
  split
  · next noDistinct =>
    -- The statement cuts the page before the rows are read, so only these have to be readable.
    have pageLoads : ∀ pair ∈ takeAtMost plan.page.take? (found.drop plan.page.skip),
        entity.load pair.1 = .ok pair.2 :=
      fun pair member => loads pair (List.mem_of_mem_drop (mem_of_mem_takeAtMost member))
    rw [paginate_of_isEmpty noDistinct, cut_eq bounded, ← List.map_drop, ← map_takeAtMost,
      ← List.map_drop, ← map_takeAtMost]
    simp only [Entity.loadAll_pairs pageLoads]
    cases plan.page.direction <;> rfl
  · simp only [Entity.loadAll_pairs loads]
    cases plan.page.direction <;> rfl

theorem countWindow_of_scan : countWindow entity plan rows
    = .ok (plan.paginate (found.map Prod.snd)).length := by
  unfold countWindow
  simp only [decided, scanned, Bool.not_true, Bool.or_false, window_of_scan decided bounded loads
    scanned, bind, Except.bind, pure, Except.pure]
  cases noDistinct : plan.distinct.isEmpty
  · simp
  · simp only [Bool.not_true, Bool.false_eq_true, if_false, cut_eq bounded,
      paginate_of_isEmpty noDistinct, ← List.map_drop, ← map_takeAtMost, List.length_map]

end Page

omit entity plan in
theorem window_of_none {entity : Entity} {plan : Plan} {rows : StoredTable}
    (decided : decides entity plan = true) (scanned : scan entity plan rows = .ok none) :
    window entity plan rows = .ok [] ∧ countWindow entity plan rows = .ok 0 := by
  have empty : window entity plan rows = .ok [] := by
    unfold window
    simp [decided, scanned, bind, Except.bind, pure, Except.pure]
  refine ⟨empty, ?_⟩
  unfold countWindow
  simp [decided, scanned, empty, bind, Except.bind, pure, Except.pure]

/-! ## The window -/

theorem DelegablePairs.window_eq (delegable : DelegablePairs entity plan pairs)
    (checked : plan.Checked entity) (decided : decides entity plan = true)
    (bounded : ∀ size, plan.page.take? = some size → size ≤ maxPageBound) :
    window entity plan (pairs.map Prod.fst) = .ok (plan.run (pairs.map Prod.snd)) ∧
    countWindow entity plan (pairs.map Prod.fst) = .ok (plan.run (pairs.map Prod.snd)).length := by
  obtain ⟨cmp, transCmp, order⟩ :=
    delegable.exists_scanOrder checked decided plan.page.direction
  rw [delegable.run_eq order, ScanDirection.length_arrange]
  rcases scan_eq checked decided delegable order with
    ⟨found, inPairs, scanned, fromScan⟩ | ⟨scanned, nothing⟩
  · have loads := fun pair member => (delegable.each pair (inPairs pair member)).represents.loads
    rw [← fromScan]
    exact ⟨window_of_scan decided bounded loads scanned,
      countWindow_of_scan decided bounded loads scanned⟩
  · rw [nothing, paginate_nil, ScanDirection.arrange_nil]
    exact window_of_none decided scanned

/-- A window that a statement decides is the window of the records in memory, and the statement counts
as many rows.  With a row of the table for its anchor, the clause of the cursor is true of exactly
the rows that do not come before it in the order of the scan. -/
theorem window_sound {name : String} {fields : List Field} {identity : List String}
    {limits : Limits} {arguments : FieldMap Json} {query : Query} {take? : Option Int}
    {default? : Option Nat} (declared : Entity.declare name fields identity = .ok entity)
    (read : Query.read entity limits arguments = .ok query)
    (planned : { query with take? := take? }.plan entity limits default? = .ok plan)
    (bounded : limits.maxPageSize ≤ maxPageBound ∧ ∀ size, default? = some size → size ≤ maxPageBound)
    (decided : decides entity plan = true) {rows : StoredTable} {records : List Record}
    (delegable : Delegable entity plan rows records) :
    window entity plan rows = .ok (plan.run records) ∧
    countWindow entity plan rows = .ok (plan.run records).length ∧
    ∀ anchor ∈ records, ∀ bound,
      let order := plan.page.direction.order plan.order
      let clause := (fromCursor order anchor bound).1
      let parameters := (fromCursor order anchor bound).2
      List.Forall₂ (fun row record =>
        clause.keeps parameters row = (compareRows order anchor record != .gt)) rows records := by
  have wellFormed := Entity.declare_wellFormed declared
  obtain ⟨checked, sized⟩ := Query.plan_checked wellFormed read planned
  have pageBounded : ∀ size, plan.page.take? = some size → size ≤ maxPageBound := by
    intro size given
    rcases sized size given with fromLimit | fromDefault
    · exact fromLimit.trans bounded.1
    · exact bounded.2 size fromDefault
  obtain ⟨pairs, rfl, rfl, onPairs⟩ := delegable.exists_pairs wellFormed
  obtain ⟨found, counted⟩ := onPairs.window_eq checked decided pageBounded
  refine ⟨found, counted, ?_⟩
  rw [List.forall_mem_map]
  intro anchor anchorMember bound
  dsimp only
  rw [List.forall₂_map_left_iff, List.forall₂_map_right_iff, List.forall₂_same]
  intro pair member
  have sortable := (Bool.and_eq_true_iff.1 decided).2
  exact onPairs.fromCursor_keeps checked sortable anchorMember member bound

/-! ## A page of frames -/

/-- The last two frames up to the fourth one, in descending order of their notes, of those without an
`x`. -/
def frameQuery : Query :=
  ⟨.not [.leaf ⟨"Note", .contains ⟨"x", .sensitive⟩⟩], [⟨"Note", .descending⟩],
    some ⟨.ofList [("Id", .int 4)]⟩, some (-2), none, []⟩

def framePlan : Plan :=
  ⟨frameQuery.filter, [⟨"Note", .descending⟩, ⟨"Id", .ascending⟩], frameQuery.cursor?,
    ⟨.backward, 0, some 2⟩, []⟩

/-- Frames in descending order of their notes, in which null is the lowest. -/
def frameTable : List Record :=
  [frame 1 (.string "flux"), frame 2 (.string "dark"), frame 3 (.string "bias"), frame 4 .null]

theorem frameTable_isPlain : ∀ record ∈ frameTable, ∀ name ∈ ["Note", "Id"],
    (record.valueAt name).IsPlain := by
  decide +kernel

theorem frameTable_delegable :
    Delegable frames framePlan (frameTable.map frames.store) frameTable where
  represents := by
    have loads : ∀ record ∈ frameTable, frames.load (frames.store record) = .ok record := by
      decide +kernel
    have plain : ∀ record ∈ frameTable, ∀ note, record.valueAt "Note" = .string note →
        PlainText note := by
      simp only [frameTable, List.forall_mem_cons, List.not_mem_nil, false_implies, implies_true,
        and_true]
      refine ⟨?_, ?_, ?_, ?_⟩ <;> rintro _ ⟨⟩ <;> exact ⟨by decide, by decide⟩
    rw [List.forall₂_map_left_iff, List.forall₂_same]
    intro record member
    refine ⟨⟨loads record member, frames.stores_store record⟩, ?_, ?_⟩
    · intro condition inFilter notDecimal
      obtain rfl := List.mem_singleton.1 inFilter
      exact ⟨⟨by decide, by decide⟩, plain record member⟩
    · rintro cursor ⟨⟩ name value bound
      obtain ⟨rfl, rfl⟩ := Prod.mk.inj (List.mem_singleton.1 (FieldMap.get?_eq_some.1 bound))
      exact (frameTable_isPlain record member "Id" (by simp)).comparesAsStored True.intro
  order_faithful := by
    intro a memberA b memberB term inOrder
    have listed : term.field ∈ ["Note", "Id"] := by
      revert term
      decide
    exact (frameTable_isPlain a memberA _ listed).comparesAsStored
      (frameTable_isPlain b memberB _ listed)
  identities := by decide +kernel
  cursor_single := by
    rintro cursor ⟨⟩
    decide +kernel

/-- A backward page that starts at a null note has the frame before it, and then that frame. -/
theorem frames_page :
    window frames framePlan (frameTable.map frames.store)
      = .ok [frame 3 (.string "bias"), frame 4 .null] ∧
    countWindow frames framePlan (frameTable.map frames.store) = .ok 2 := by
  have declared : Entity.declare "Frames" frames.fields ["Id"] = .ok frames := by decide
  have read : Query.read frames default (.ofList [
      ("where", .obj [("NOT", .obj [("Note", .obj [("contains", .str "x")])])]),
      ("orderBy", .obj [("Note", .str "desc")]),
      ("cursor", .obj [("Id", .int 4)]),
      ("take", .int (-2))]) = .ok frameQuery := rfl
  have planned : { frameQuery with take? := some (-2) }.plan frames default (some 100)
    = .ok framePlan := rfl
  have bounded : (default : Limits).maxPageSize ≤ maxPageBound ∧
      ∀ size, some 100 = some size → size ≤ maxPageBound := by
    refine ⟨by decide, ?_⟩
    rintro _ ⟨⟩
    decide
  have inMemory : framePlan.run frameTable = [frame 3 (.string "bias"), frame 4 .null] := by
    have sorted : sortRows framePlan.order (frameTable.filter framePlan.filter.selects)
        = frameTable.filter framePlan.filter.selects :=
      List.mergeSort_of_pairwise (by decide +kernel)
    rw [Plan.run, sorted]
    decide +kernel
  obtain ⟨found, counted, -⟩ :=
    window_sound declared read planned bounded (by decide) frameTable_delegable
  rw [inMemory] at found counted
  exact ⟨found, counted⟩

end DatabaseStore

end RecordStore
