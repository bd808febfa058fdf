import Mathlib.Data.List.TakeWhile
import RecordStore.Program.Config
import RecordStore.Proofs.Query.Mirror

/-! # Pages are bounded and not cut

A page is refused or returned as it was asked for.  What limits forbid is `Query.Refused`, and
`Query.plan_cases` says that nothing else is refused and that every other query has the plan that it asks
for.

What a page leaves out is seen from the rows that a scan passes, `ScanDirection.Passes`: all rows that
match, or those from the cursor's row on.  `Plan.window_passes` cuts the window from these rows, so that a
page ends before its size only where they end.
-/

namespace RecordStore

/-! ## Limits -/

/-- The default size of a page is allowed by every environment that is accepted. -/
theorem Config.defaultPageSize_le {environment : Environment} {config : Config}
    (configured : Config.read environment = .ok config) :
    config.limits.defaultPageSize ≤ config.limits.maxPageSize := by
  simp only [Config.read, bind_eq_ok, pure_eq_ok] at configured
  obtain ⟨_, -, limits, limitsRead, _, -, rfl⟩ := configured
  simp only [readLimits, bind_eq_ok, check_eq_ok, pure_eq_ok] at limitsRead
  obtain ⟨_, -, _, -, _, -, _, -, within, rfl⟩ := limitsRead
  exact Nat.le_of_not_lt within

namespace Query

/-- Whether limits forbid the page that a query asks for. -/
inductive Refused (limits : Limits) (query : Query) : Prop where
  | negativeSkip {skip : Int} (asked : query.skip? = some skip) (negative : skip < 0)
  | skipTooLarge {skip : Int} (asked : query.skip? = some skip) (large : limits.maxSkip < skip)
  | takeTooLarge {take : Int} (asked : query.take? = some take)
      (large : limits.maxPageSize < take.natAbs)
  | emptyPageWithCursor (asked : query.take? = some 0) (cursor : query.cursor?.isSome = true)

/-- The direction in which a query is read. -/
def direction (query : Query) : ScanDirection :=
  if query.take?.any (· < 0) then .backward else .forward

/-- The number of rows that a query skips. -/
def offset (query : Query) : Nat := (query.skip?.getD 0).natAbs

/-- The number of rows that a query asks for, if it does. -/
def size? (query : Query) : Option Nat := query.take?.map Int.natAbs

end Query

theorem planSkip_cases (limits : Limits) (skip? : Option Int) :
    ((∃ fault, planSkip limits skip? = .error fault) ∧
      ∃ skip, skip? = some skip ∧ (skip < 0 ∨ (limits.maxSkip : Int) < skip)) ∨
    planSkip limits skip? = .ok (skip?.getD 0).natAbs ∧
      ∀ skip, skip? = some skip → 0 ≤ skip ∧ skip ≤ limits.maxSkip := by
  unfold planSkip
  split
  · exact .inr ⟨rfl, nofun⟩
  · next skip =>
    split
    · next negative => exact .inl ⟨⟨_, rfl⟩, skip, rfl, .inl negative⟩
    · split
      · next large => exact .inl ⟨⟨_, rfl⟩, skip, rfl, .inr (by omega)⟩
      · next nonneg within =>
        refine .inr ⟨rfl, ?_⟩
        rintro _ ⟨⟩
        omega

theorem planTake_cases (limits : Limits) (default? : Option Nat) (hasCursor : Bool)
    (take? : Option Int) :
    ((∃ fault, planTake limits default? hasCursor take? = .error fault) ∧
      ∃ take, take? = some take ∧
        (limits.maxPageSize < take.natAbs ∨ take = 0 ∧ hasCursor = true)) ∨
    planTake limits default? hasCursor take?
      = .ok (if take?.any (· < 0) then .backward else .forward, (take?.map Int.natAbs).or default?) ∧
      ∀ take, take? = some take →
        take.natAbs ≤ limits.maxPageSize ∧ ¬ (take = 0 ∧ hasCursor = true) := by
  unfold planTake
  split
  · exact .inr ⟨rfl, nofun⟩
  · next take =>
    split
    · next empty => exact .inl ⟨⟨_, rfl⟩, take, rfl, .inr empty⟩
    · next sized =>
      split
      · next large => exact .inl ⟨⟨_, rfl⟩, take, rfl, .inl large⟩
      · next within =>
        refine .inr ⟨by simp, ?_⟩
        rintro _ ⟨⟩
        exact ⟨Nat.le_of_not_lt within, sized⟩

/-- A query is refused for its page, where limits forbid the page, and has the plan of its page in every
other case. -/
theorem Query.plan_cases (query : Query) (entity : Entity) (limits : Limits)
    (default? : Option Nat) :
    (query.Refused limits ∧
      ∃ fault, query.plan entity limits default? = .error (.invalidPagination fault)) ∨
    ¬ query.Refused limits ∧
      query.plan entity limits default? = .ok (query.planOf entity query.cursor?
        ⟨query.direction, query.offset, query.size?.or default?⟩) := by
  unfold Query.plan
  rcases planSkip_cases limits query.skip? with ⟨⟨fault, refused⟩, skip, asked, bad⟩ | ⟨skips, skipFine⟩
  · rw [refused]
    refine .inl ⟨?_, fault, rfl⟩
    exact bad.elim (.negativeSkip asked) (.skipTooLarge asked)
  rw [skips]
  rcases planTake_cases limits default? query.cursor?.isSome query.take? with
    ⟨⟨fault, refused⟩, take, asked, bad⟩ | ⟨takes, takeFine⟩
  · rw [refused]
    refine .inl ⟨?_, fault, rfl⟩
    rcases bad with large | ⟨rfl, cursor⟩
    · exact .takeTooLarge asked large
    · exact .emptyPageWithCursor asked cursor
  · rw [takes]
    refine .inr ⟨?_, rfl⟩
    rintro (⟨asked, negative⟩ | ⟨asked, large⟩ | ⟨asked, large⟩ | ⟨asked, cursor⟩)
    · have := skipFine _ asked
      omega
    · have := skipFine _ asked
      omega
    · exact absurd large (Nat.not_lt.2 (takeFine _ asked).1)
    · exact (takeFine _ asked).2 ⟨rfl, cursor⟩

namespace Query

variable {query : Query} {limits : Limits}

theorem plan_refused_iff (entity : Entity) (default? : Option Nat) :
    (∃ fault, query.plan entity limits default? = .error (.invalidPagination fault)) ↔
      query.Refused limits := by
  rcases query.plan_cases entity limits default? with ⟨refused, failed⟩ | ⟨allowed, planned⟩
  · exact iff_of_true failed refused
  · refine iff_of_false ?_ allowed
    rintro ⟨fault, failed⟩
    rw [planned] at failed
    contradiction

theorem plan_of_allowed (allowed : ¬ query.Refused limits) (entity : Entity) (default? : Option Nat) :
    query.plan entity limits default? = .ok (query.planOf entity query.cursor?
      ⟨query.direction, query.offset, query.size?.or default?⟩) := by
  rcases query.plan_cases entity limits default? with ⟨refused, -⟩ | ⟨-, planned⟩
  · exact absurd refused allowed
  · exact planned

theorem planPage_of_allowed (allowed : ¬ query.Refused limits) (entity : Entity) :
    query.planPage entity limits = .ok (query.planOf entity query.cursor?
      ⟨query.direction, query.offset, some (query.size?.getD limits.defaultPageSize)⟩) := by
  rw [planPage, plan_of_allowed allowed, Option.or_some]

/-- A query that does not say how many rows to take has all of them in its window. -/
theorem planWindow_of_allowed (allowed : ¬ query.Refused limits) (noTake : query.take? = none)
    (entity : Entity) :
    query.planWindow entity limits
      = .ok (query.planOf entity query.cursor? ⟨.forward, query.offset, none⟩) := by
  rw [planWindow, plan_of_allowed allowed, direction, size?, noTake]
  rfl

theorem size_le (allowed : ¬ query.Refused limits)
    (default : limits.defaultPageSize ≤ limits.maxPageSize) :
    query.size?.getD limits.defaultPageSize ≤ limits.maxPageSize := by
  cases asked : query.take? with
  | none =>
    rw [size?, asked]
    exact default
  | some take =>
    rw [size?, asked]
    exact Nat.le_of_not_lt fun large => allowed (.takeTooLarge asked large)

end Query

/-! ## Scans -/

/-- The rows that a scan passes, one after the other, of rows in the order of a plan.  It starts at the
first row that the cursor addresses, and nowhere if there is no such row. -/
inductive ScanDirection.Passes (rows : List Record) :
    ScanDirection → Option Address → List Record → Prop where
  | all (direction : ScanDirection) : Passes rows direction none (direction.arrange rows)
  | onward {cursor : Address} {front back : List Record} {row : Record}
      (parts : rows = front ++ row :: back) (isOf : cursor.isOf row = true)
      (first : ∀ other ∈ front, cursor.isOf other = false) :
      Passes rows .forward (some cursor) (row :: back)
  | backward {cursor : Address} {front back : List Record} {row : Record}
      (parts : rows = front ++ row :: back) (isOf : cursor.isOf row = true)
      (first : ∀ other ∈ front, cursor.isOf other = false) :
      Passes rows .backward (some cursor) (row :: front.reverse)
  | nowhere {direction : ScanDirection} {cursor : Address}
      (absent : ∀ row ∈ rows, cursor.isOf row = false) : Passes rows direction (some cursor) []

namespace Plan

theorem upTo_of_absent {test : Record → Bool} {rows : List Record}
    (absent : ∀ row ∈ rows, test row = false) : upTo test rows = [] := by
  induction rows with
  | nil => rfl
  | cons row rest ih =>
    obtain ⟨here, there⟩ := List.forall_mem_cons.1 absent
    rw [upTo, here, ih there]
    rfl

theorem upTo_of_parts {test : Record → Bool} {front back : List Record} {row : Record}
    (accepted : test row = true) (first : ∀ other ∈ front, test other = false) :
    upTo test (front ++ row :: back) = front ++ [row] := by
  induction front with
  | nil => rw [List.nil_append, upTo, if_pos accepted, List.nil_append]
  | cons other front ih =>
    obtain ⟨here, there⟩ := List.forall_mem_cons.1 first
    rw [List.cons_append, upTo, here, ih there, List.cons_append]
    cases front <;> rfl

/-- A window is a page of the rows that the scan passes, handed over in the order of the plan. -/
theorem window_passes (plan : Plan) (rows : List Record) :
    ∃ passed, ScanDirection.Passes rows plan.page.direction plan.cursor? passed ∧
      plan.window rows = plan.page.direction.arrange (plan.paginate passed) := by
  unfold window fromCursor
  cases hcursor : plan.cursor? with
  | none =>
    refine ⟨_, .all _, ?_⟩
    cases plan.page.direction <;> rfl
  | some cursor =>
    cases found : rows.find? cursor.isOf with
    | none =>
      have absent : ∀ row ∈ rows, cursor.isOf row = false := by simpa using found
      refine ⟨[], .nowhere absent, ?_⟩
      have passed : (rows.dropWhile fun row => !cursor.isOf row) = [] :=
        List.dropWhile_eq_nil_iff.2 fun row member => by simp [absent row member]
      cases plan.page.direction <;> simp only [upTo_of_absent absent, passed] <;> rfl
    | some row =>
      obtain ⟨isOf, front, back, rfl, first⟩ := List.find?_eq_some_iff_append.1 found
      have first : ∀ other ∈ front, cursor.isOf other = false := by simpa using first
      have passed : (front ++ row :: back).dropWhile (fun row => !cursor.isOf row) = row :: back := by
        rw [List.dropWhile_append_of_pos (by simpa using first),
          List.dropWhile_cons_of_neg (by simp [isOf])]
      cases plan.page.direction with
      | forward =>
        refine ⟨_, .onward rfl isOf first, ?_⟩
        simp only [passed]
        rfl
      | backward =>
        refine ⟨_, .backward rfl isOf first, ?_⟩
        simp only [upTo_of_parts isOf first, List.reverse_append]
        rfl

/-- Nothing is read from a cursor that addresses none of the rows. -/
theorem window_of_absent {plan : Plan} {rows : List Record} {cursor : Address}
    (isCursor : plan.cursor? = some cursor) (absent : ∀ row ∈ rows, cursor.isOf row = false) :
    plan.window rows = [] := by
  obtain ⟨passed, passes, window⟩ := plan.window_passes rows
  obtain rfl : passed = [] := by
    rw [isCursor] at passes
    generalize plan.page.direction = direction at passes
    cases passes with
    | nowhere => rfl
    | onward parts isOf | backward parts isOf =>
      rw [absent _ (parts ▸ List.mem_append_right _ List.mem_cons_self)] at isOf
      contradiction
  rw [window, List.sublist_nil.1 (plan.paginate_sublist []), ScanDirection.arrange_nil]

variable (plan : Plan) (rows : List Record)

theorem length_window_le {size : Nat} (sized : plan.page.take? = some size) :
    (plan.window rows).length ≤ size := by
  obtain ⟨passed, -, window⟩ := plan.window_passes rows
  rw [window, ScanDirection.length_arrange, paginate, sized]
  exact List.length_take_le _ _

theorem paginate_of_noDistinct (noDistinct : plan.distinct = []) :
    plan.paginate rows = takeAtMost plan.page.take? (rows.drop plan.page.skip) := by
  rw [paginate, noDistinct]
  rfl

/-- Without distinct fields, what follows a page are the rows that the scan passes behind it: none, if the
page is shorter than it may be. -/
theorem exists_beyond_window (noDistinct : plan.distinct = []) {size : Nat}
    (sized : plan.page.take? = some size) :
    ∃ passed skipped beyond, ScanDirection.Passes rows plan.page.direction plan.cursor? passed ∧
      passed = skipped ++ plan.page.direction.arrange (plan.window rows) ++ beyond ∧
      skipped.length = min plan.page.skip passed.length ∧
      ((plan.window rows).length < size → beyond = []) := by
  obtain ⟨passed, passes, window⟩ := plan.window_passes rows
  have page : plan.page.direction.arrange (plan.window rows)
      = (passed.drop plan.page.skip).take size := by
    rw [window, ScanDirection.arrange_arrange, plan.paginate_of_noDistinct passed noDistinct, sized]
    rfl
  refine ⟨passed, passed.take plan.page.skip, (passed.drop plan.page.skip).drop size, passes, ?_,
    List.length_take, fun short => ?_⟩
  · rw [page, List.append_assoc, List.take_append_drop, List.take_append_drop]
  · rw [← ScanDirection.length_arrange plan.page.direction, page, List.length_take] at short
    exact List.drop_eq_nil_of_le (by omega)

/-- Without distinct fields and a size of the page, a forward window has all rows that the scan passes
behind the skipped ones. -/
theorem window_unbounded (noDistinct : plan.distinct = []) (unsized : plan.page.take? = none)
    (forward : plan.page.direction = .forward) :
    ∃ passed, ScanDirection.Passes rows .forward plan.cursor? passed ∧
      plan.window rows = passed.drop plan.page.skip := by
  obtain ⟨passed, passes, window⟩ := plan.window_passes rows
  rw [forward] at passes window
  refine ⟨passed, passes, ?_⟩
  rw [window, plan.paginate_of_noDistinct passed noDistinct, unsized]
  rfl

end Plan

/-! ## Operations -/

namespace Operation

variable {entity : Entity} {limits : Limits} {arguments : Arguments} {query : Query}
  (read : Query.read entity limits arguments = .ok query)

include read

theorem check_findMany : check ⟨.findMany, arguments⟩ entity limits
    = (query.planPage entity limits).map fun plan => .find plan false := by
  change (Query.read entity limits arguments >>= _) = _
  rw [read]
  change (query.planPage entity limits >>= _) = _
  cases query.planPage entity limits <;> rfl

theorem check_count : check ⟨.count, arguments⟩ entity limits
    = (query.planWindow entity limits).map .count := by
  change (Query.read entity limits arguments >>= _) = _
  rw [read]
  change (query.planWindow entity limits >>= _) = _
  cases query.planWindow entity limits <;> rfl

theorem check_aggregate {selection : Selection}
    (selected : Selection.read entity arguments = .ok selection) :
    check ⟨.aggregate, arguments⟩ entity limits
      = (query.planWindow entity limits).map fun plan => .aggregate ⟨plan, selection⟩ := by
  change ((Query.read entity limits arguments >>= _) >>= _) = _
  rw [read]
  change ((query.planWindow entity limits >>= _) >>= _) = _
  cases query.planWindow entity limits with
  | error => rfl
  | ok plan =>
    change ((Selection.read entity arguments >>= _) >>= _) = _
    rw [selected]
    rfl

end Operation

/-! ## Stores -/

namespace MemoryStore

/-- Where an environment is accepted, the rows of a table are read in pages that are bounded and not cut.

A query that has been read is rejected for its page where it skips a negative number of rows or more than
allowed, takes more rows than allowed in either direction, or takes none behind a cursor, and in no other
case.  A page that is accepted has no more rows than allowed.  Unless rows are told apart by fields, it
follows the rows that are skipped, in the direction of the scan, and has fewer rows than were asked for, or
than a page has by default, only where no row follows it.  Without a number of rows to take, all rows that
follow the skipped ones are counted and reduced.

The rows of the scan are those that the query matches, from the row of the cursor on.  A cursor that
addresses none of them has no place among them, and nothing is read behind it. -/
theorem pages_bounded {environment : Config.Environment} {config : Config}
    (configured : Config.read environment = .ok config) {entity : Entity} {arguments : Arguments}
    {query : Query} (read : Query.read entity config.limits arguments = .ok query)
    {store : MemoryStore} (available : store.available = true) (clock : Clock) :
    let limits := config.limits
    let matching := query.matching entity (store.rows entity.name)
    let result (command : Command) := (command.run interface entity clock store).1
    ((∃ fault, Operation.check ⟨.findMany, arguments⟩ entity limits
        = .error (.invalidPagination fault)) ↔ query.Refused limits) ∧
    (¬ query.Refused limits → ∃ command page,
      Operation.check ⟨.findMany, arguments⟩ entity limits = .ok command ∧
      result command = .ok (.records (page.map entity.complete)) ∧
      page.length ≤ limits.maxPageSize ∧
      (query.distinct = [] → ∃ passed skipped beyond,
        ScanDirection.Passes matching query.direction query.cursor? passed ∧
        passed = skipped ++ query.direction.arrange page ++ beyond ∧
        skipped.length = min query.offset passed.length ∧
        (page.length < query.size?.getD limits.defaultPageSize → beyond = []))) ∧
    (¬ query.Refused limits → query.take? = none → query.distinct = [] → ∃ passed,
      ScanDirection.Passes matching .forward query.cursor? passed ∧
      (∃ command, Operation.check ⟨.count, arguments⟩ entity limits = .ok command ∧
        result command = .ok (.count (passed.drop query.offset).length)) ∧
      ∀ selection, Selection.read entity arguments = .ok selection → ∃ command,
        Operation.check ⟨.aggregate, arguments⟩ entity limits = .ok command ∧
        result command = (selection.evaluate (passed.drop query.offset)).map .aggregate) := by
  intro limits matching result
  refine ⟨?_, fun allowed => ?_, fun allowed noTake noDistinct => ?_⟩
  · rw [← Query.plan_refused_iff entity (some limits.defaultPageSize),
      Operation.check_findMany read, Query.planPage]
    cases query.plan entity limits (some limits.defaultPageSize) <;> simp [Except.map]
  · let size := query.size?.getD limits.defaultPageSize
    let plan := query.planOf entity query.cursor? ⟨query.direction, query.offset, some size⟩
    have bounded : size ≤ limits.maxPageSize :=
      Query.size_le allowed (Config.defaultPageSize_le configured)
    refine ⟨.find plan false, plan.run (store.rows entity.name), ?_, result_find _ _ _ available, ?_,
      fun distinct => ?_⟩
    · rw [Operation.check_findMany read, Query.planPage_of_allowed allowed]
      rfl
    · exact (plan.length_window_le matching rfl).trans bounded
    · exact plan.exists_beyond_window matching distinct rfl
  · let plan := query.planOf entity query.cursor? ⟨.forward, query.offset, none⟩
    have planned : query.planWindow entity limits = .ok plan :=
      Query.planWindow_of_allowed allowed noTake entity
    obtain ⟨passed, passes, window⟩ : ∃ passed,
        ScanDirection.Passes matching .forward query.cursor? passed ∧
          plan.run (store.rows entity.name) = passed.drop query.offset :=
      plan.window_unbounded matching noDistinct rfl rfl
    refine ⟨passed, passes, ⟨.count plan, ?_, ?_⟩, fun selection selected =>
      ⟨.aggregate ⟨plan, selection⟩, ?_, ?_⟩⟩
    · rw [Operation.check_count read, planned]
      rfl
    · rw [← window]
      exact result_count entity plan clock available
    · rw [Operation.check_aggregate read selected, planned]
      rfl
    · rw [← window]
      exact result_aggregate entity plan clock available selection

/-! ### Pages of manufacturers -/

/-- A store with two manufacturers. -/
def twoManufacturers : MemoryStore :=
  ⟨FieldMap.empty.insert "Manufacturers" [manufacturer 1 "Axis", manufacturer 2 "Bosch"], true, 0⟩

/-- Five manufacturers from the second one on. -/
def fiveFromBosch : Arguments := .ofList [("cursor", .obj [("Id", .int 2)]), ("take", .int 5)]

/-- The least number of rows that a request can name is refused for its size, and five rows are not. -/
theorem manufacturers_bounded :
    (∃ fault, Operation.check ⟨.findMany, .ofList [("take", .int (-9223372036854775808))]⟩
      manufacturers default = .error (.invalidPagination fault)) ∧
    ∃ command, ∃ page : List Record,
      Operation.check ⟨.findMany, fiveFromBosch⟩ manufacturers default = .ok command ∧
      (command.run interface manufacturers (fun _ => default) twoManufacturers).1
        = .ok (.records (page.map manufacturers.complete)) ∧
      page.length ≤ 1000 := by
  have configured : Config.read (fun _ => none)
      = .ok ⟨"sqlite://./data/zoneminder.db", 10, default, 3⟩ := rfl
  have available : twoManufacturers.available = true := rfl
  constructor
  · have read : Query.read manufacturers default (.ofList [("take", .int (-9223372036854775808))])
        = .ok ⟨.and [], [], none, some (-9223372036854775808), none, []⟩ := rfl
    have bounded := pages_bounded configured read available fun _ => default
    exact bounded.1.2 (.takeTooLarge rfl (by decide))
  · have read : Query.read manufacturers default fiveFromBosch
        = .ok ⟨.and [], [], some ⟨.ofList [("Id", .int 2)]⟩, some 5, none, []⟩ := rfl
    have bounded := pages_bounded configured read available fun _ => default
    have allowed : ¬ Query.Refused default
        ⟨.and [], [], some ⟨.ofList [("Id", .int 2)]⟩, some 5, none, []⟩ := by
      rintro (⟨⟨⟩, -⟩ | ⟨⟨⟩, -⟩ | ⟨⟨⟩, large⟩ | ⟨asked, -⟩)
      · exact absurd large (by decide)
      · contradiction
    obtain ⟨command, page, checked, ran, short, -⟩ := bounded.2.1 allowed
    exact ⟨command, page, checked, ran, short⟩

/-- The manufacturers behind the first one, from the first one on. -/
def othersFromAxis : Arguments :=
  .ofList [("cursor", .obj [("Id", .int 1)]), ("where", .obj [("Id", .obj [("gt", .int 1)])])]

/-- A cursor at a row that the filter does not match is at none of the rows that are read.  The second
manufacturer matches and stands behind the first one, where the cursor is; but the page is empty, and no
row is counted. -/
theorem othersFromAxis_empty :
    let filter : Filter := .leaf ⟨"Id", .gt (.int 1)⟩
    let cursor : Address := ⟨.ofList [("Id", .int 1)]⟩
    let plan (size? : Option Nat) : Plan :=
      ⟨filter, canonicalOrder manufacturers [], some cursor, ⟨.forward, 0, size?⟩, []⟩
    let result (command : Command) :=
      (command.run interface manufacturers (fun _ => default) twoManufacturers).1
    Query.read manufacturers default othersFromAxis = .ok ⟨filter, [], some cursor, none, none, []⟩ ∧
    cursor.isOf (manufacturer 1 "Axis") = true ∧
    filter.selects (manufacturer 2 "Bosch") = true ∧
    compareRows (canonicalOrder manufacturers []) (manufacturer 1 "Axis") (manufacturer 2 "Bosch")
      = .lt ∧
    Operation.check ⟨.findMany, othersFromAxis⟩ manufacturers default
      = .ok (.find (plan (some 100)) false) ∧
    Operation.check ⟨.count, othersFromAxis⟩ manufacturers default = .ok (.count (plan none)) ∧
    result (.find (plan (some 100)) false) = .ok (.records []) ∧
    result (.count (plan none)) = .ok (.count 0) := by
  intro filter cursor plan result
  have stored : twoManufacturers.rows manufacturers.name
      = [manufacturer 1 "Axis", manufacturer 2 "Bosch"] := by decide +kernel
  have selected : ([manufacturer 1 "Axis", manufacturer 2 "Bosch"] : Table).filter filter.selects
      = [manufacturer 2 "Bosch"] := by decide +kernel
  have absent : ∀ row ∈ [manufacturer 2 "Bosch"], cursor.isOf row = false := by decide +kernel
  have empty : ∀ size?, (plan size?).run (twoManufacturers.rows manufacturers.name) = [] := by
    intro size?
    show (plan size?).window (sortRows _ ((twoManufacturers.rows _).filter filter.selects)) = []
    rw [stored, selected, sortRows, List.mergeSort_singleton]
    exact Plan.window_of_absent rfl absent
  refine ⟨rfl, by decide +kernel, by decide +kernel, by decide +kernel, rfl, rfl, ?_, ?_⟩
  · rw [← List.map_nil, ← empty (some 100)]
    exact result_find manufacturers _ _ rfl
  · rw [← List.length_nil, ← empty none]
    exact result_count manufacturers _ _ rfl

end MemoryStore

end RecordStore
