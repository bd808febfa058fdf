import RecordStore.Proofs.Query.Windows

/-! # Reading page by page

A client that wants every row a query matches asks for it in pages, in one of two ways.  It names the
row where the last page ended as the cursor of the next one and skips that row, or it skips all rows
that it has had.

* `PageWalk` is the first way.  `PageWalk.covers` says what a walk keeps: the pages read so far and
  the rows still to come are all the rows that match, and the cursor stands between the two.
* `readOffsets` is the second way; it goes as far as the limits let a query skip.
-/

namespace RecordStore

/-- The size of a page as it is asked for: negative, where the page is read backward. -/
def ScanDirection.signed (direction : ScanDirection) (size : Nat) : Int :=
  match direction with
  | .forward => size
  | .backward => -size

theorem ScanDirection.flatten_arrange {α : Type} (direction : ScanDirection)
    (pages : List (List α)) :
    (direction.arrange pages).flatten
      = direction.arrange (pages.map direction.arrange).flatten := by
  cases direction with
  | forward => exact congrArg List.flatten (List.map_id pages).symm
  | backward =>
    have turned : pages.map (ScanDirection.arrange .backward) = pages.map List.reverse := rfl
    rw [turned, arrange, arrange, List.reverse_flatten, List.map_map]
    simp

@[simp] theorem ScanDirection.mem_arrange {α : Type} {direction : ScanDirection} {rows : List α}
    {row : α} : row ∈ direction.arrange rows ↔ row ∈ rows := by
  cases direction
  · rfl
  · exact List.mem_reverse

/-- An address of a row: what the row has in a unique key, or what a request gives and the row
matches. -/
inductive Address.PointsTo (entity : Entity) (row : Record) : Address → Prop where
  | values (key : List String) {address : Address} (isKey : key ∈ entity.uniqueKeys)
      (made : Address.ofRecord? row key = some address) : PointsTo entity row address
  | read {raw : Json} {address : Address} (read : Address.read entity raw = .ok address)
      (isOf : address.isOf row = true) : PointsTo entity row address

namespace Query

/-! ## Pages -/

/-- The page that a query reads of a table. -/
def readPage (query : Query) (entity : Entity) (limits : Limits) (rows : List Record) :
    Except ValidationError (List Record) :=
  (query.planPage entity limits).map fun plan => plan.run rows

/-- The rows that a query matches, in its order. -/
def matching (query : Query) (entity : Entity) (rows : List Record) : List Record :=
  sortRows (canonicalOrder entity query.order) (rows.filter query.filter.selects)

/-- The query of a page: the first one in a direction, or the one behind a cursor. -/
def pageFrom (query : Query) (direction : ScanDirection) (size : Nat)
    (cursor? : Option Address) : Query :=
  { query with
    cursor? := cursor?
    take? := some (direction.signed size)
    skip? := cursor?.map fun _ => 1 }

/-- The query of the page at an offset. -/
def pageAt (query : Query) (size offset : Nat) : Query :=
  { query with cursor? := none, take? := some size, skip? := some offset }

/-- Everything that a query finds, as it is reduced or counted, without pages. -/
def readAll (query : Query) (entity : Entity) (limits : Limits) (rows : List Record) :
    Except ValidationError (List Record) :=
  let whole := { query with cursor? := none, take? := none, skip? := none }
  (whole.planWindow entity limits).map fun plan => plan.run rows

/-- The pages at the first so many multiples of the size. -/
def readOffsets (query : Query) (entity : Entity) (limits : Limits) (rows : List Record)
    (size count : Nat) : Except ValidationError (List (List Record)) :=
  (List.range count).mapM fun i => (query.pageAt size (i * size)).readPage entity limits rows

/-- The plan of a query with a cursor and a page of its own. -/
def planOf (query : Query) (entity : Entity) (cursor? : Option Address) (page : Page) : Plan :=
  ⟨query.filter, canonicalOrder entity query.order, cursor?, page, query.distinct⟩

variable {query : Query} {entity : Entity} {limits : Limits} {rows : List Record}
  {direction : ScanDirection} {size : Nat} {cursor? : Option Address}

theorem planTake_signed (direction : ScanDirection) (positive : 1 ≤ size)
    (bounded : size ≤ limits.maxPageSize) (default? : Option Nat) (hasCursor : Bool) :
    planTake limits default? hasCursor (some (direction.signed size))
      = .ok (direction, some size) := by
  have nonzero : direction.signed size ≠ 0 := by
    cases direction <;> simp only [ScanDirection.signed] <;> omega
  have magnitude : (direction.signed size).natAbs = size := by
    cases direction <;> simp only [ScanDirection.signed] <;> omega
  have sign : (if direction.signed size < 0 then ScanDirection.backward else .forward)
      = direction := by
    cases direction
    · exact if_neg (by simp [ScanDirection.signed])
    · exact if_pos (by simp only [ScanDirection.signed]; omega)
  simp only [planTake, magnitude, sign]
  rw [if_neg fun both => nonzero both.1, if_neg (Nat.not_lt.2 bounded)]

theorem planSkip_of_le {offset : Nat} (allowed : offset ≤ limits.maxSkip) :
    planSkip limits (some offset) = .ok offset := by
  simp only [planSkip, Int.natAbs_natCast]
  rw [if_neg (by omega), if_neg (Nat.not_lt.2 allowed)]

theorem readPage_eq {plan : Plan} (planned : query.planPage entity limits = .ok plan) :
    query.readPage entity limits rows = .ok (plan.run rows) := by
  rw [readPage, planned]
  rfl

theorem mem_of_mem_readPage {page : List Record} {row : Record}
    (read : query.readPage entity limits rows = .ok page) (member : row ∈ page) : row ∈ rows := by
  unfold readPage at read
  cases planned : query.planPage entity limits with
  | error => rw [planned] at read; contradiction
  | ok plan =>
    rw [planned] at read
    cases read
    exact Plan.mem_of_mem_run member

theorem run_planOf (query : Query) (page : Page) :
    (query.planOf entity cursor? page).run rows
      = (query.planOf entity cursor? page).window (query.matching entity rows) := rfl

theorem mem_of_mem_matching {row : Record} (member : row ∈ query.matching entity rows) :
    row ∈ rows :=
  (List.mem_filter.1 ((List.mergeSort_perm _ _).mem_iff.1 member)).1

theorem filter_matching_le (query : Query) (test : Record → Bool)
    (single : (rows.filter test).length ≤ 1) :
    ((query.matching entity rows).filter test).length ≤ 1 := by
  have sorted : (query.matching entity rows).Perm (rows.filter query.filter.selects) :=
    List.mergeSort_perm _ _
  rw [(sorted.filter test).length_eq]
  exact Nat.le_trans (List.filter_sublist.filter test).length_le single

/-! ## Walks -/

/-- Whether the addresses of the rows of a table each match their row and no other. -/
def Unambiguous (entity : Entity) (rows : List Record) : Prop :=
  ∀ row ∈ rows, ∀ address, Address.PointsTo entity row address →
    address.isOf row = true ∧ (rows.filter address.isOf).length ≤ 1

/-- The pages that a walk has read, the last one last, and the cursor of the page that comes next.
The cursor is any address of the row at which the last page ends in the direction of the walk. -/
inductive PageWalk (query : Query) (entity : Entity) (limits : Limits) (rows : List Record)
    (direction : ScanDirection) (size : Nat) : List (List Record) → Option Address → Prop where
  | start : PageWalk query entity limits rows direction size [] none
  | step {pages : List (List Record)} {cursor? : Option Address} {page : List Record}
      {edge : Record} {address : Address}
      (before : PageWalk query entity limits rows direction size pages cursor?)
      (read : (query.pageFrom direction size cursor?).readPage entity limits rows = .ok page)
      (last : (direction.arrange page).getLast? = some edge)
      (points : Address.PointsTo entity edge address) :
      PageWalk query entity limits rows direction size (pages ++ [page]) (some address)

/-- Where a cursor stands when some rows have been read. -/
def StandsBehind (entity : Entity) (cursor? : Option Address) (consumed : List Record) : Prop :=
  match cursor? with
  | none => consumed = []
  | some address => ∃ edge, consumed.getLast? = some edge ∧ Address.PointsTo entity edge address

theorem planPage_pageFrom (query : Query) (entity : Entity) (direction : ScanDirection)
    (cursor? : Option Address) (positive : 1 ≤ size) (bounded : size ≤ limits.maxPageSize)
    (skips : 1 ≤ limits.maxSkip) :
    (query.pageFrom direction size cursor?).planPage entity limits
      = .ok (query.planOf entity cursor?
          ⟨direction, if cursor?.isSome then 1 else 0, some size⟩) := by
  simp only [planPage, Query.plan, pageFrom, planTake_signed direction positive bounded]
  cases cursor? with
  | none => rfl
  | some address => simp only [Option.map_some]; rw [← Nat.cast_one, planSkip_of_le skips]; rfl

/-- Only one item of the list is accepted, so the items before it are dropped and no more. -/
theorem dropWhile_of_single {α : Type} {test : α → Bool} {front back : List α} {item : α}
    (accepted : test item = true)
    (single : ((front ++ item :: back).filter test).length ≤ 1) :
    (front ++ item :: back).dropWhile (fun other => !test other) = item :: back := by
  have others : ∀ other ∈ front, (!test other) = true := by
    intro other member
    rw [List.filter_append, List.filter_cons_of_pos accepted, List.length_append,
      List.length_cons] at single
    have none := List.length_eq_zero_iff.1 (show (front.filter test).length = 0 by omega)
    simpa using List.filter_eq_nil_iff.1 none other member
  rw [List.dropWhile_append_of_pos others, List.dropWhile_cons_of_neg (by simp [accepted])]

section Walks

variable (noDistinct : query.distinct = []) (positive : 1 ≤ size)
  (bounded : size ≤ limits.maxPageSize) (skips : 1 ≤ limits.maxSkip)
  (unambiguous : Unambiguous entity rows)

include noDistinct positive bounded skips unambiguous

/-- A page holds the next rows of the walk. -/
theorem readPage_pageFrom {consumed rest : List Record}
    (scanned : direction.arrange (query.matching entity rows) = consumed ++ rest)
    (stands : StandsBehind entity cursor? consumed) :
    (query.pageFrom direction size cursor?).readPage entity limits rows
      = .ok (direction.arrange (rest.take size)) := by
  have planned := planPage_pageFrom query entity direction cursor? positive bounded skips
  rw [readPage_eq planned, run_planOf, Except.ok.injEq]
  cases cursor? with
  | none =>
    obtain rfl : consumed = [] := stands
    rw [Plan.window_eq (by intro cursor given; cases given)]
    simp [planOf, scanned, Plan.fromScan, Plan.paginate, keepDistinct, noDistinct, takeAtMost]
  | some address =>
    obtain ⟨edge, last, points⟩ := stands
    obtain ⟨front, rfl⟩ := List.getLast?_eq_some_iff.1 last
    have split : direction.arrange (query.matching entity rows) = front ++ edge :: rest := by
      rw [scanned, List.append_assoc, List.singleton_append]
    have stored : edge ∈ rows := by
      have inScan : edge ∈ direction.arrange (query.matching entity rows) := by simp [split]
      exact mem_of_mem_matching (ScanDirection.mem_arrange.1 inScan)
    obtain ⟨isOf, single⟩ := unambiguous edge stored address points
    have single : ((query.matching entity rows).filter address.isOf).length ≤ 1 :=
      filter_matching_le query address.isOf single
    have fromEdge : (direction.arrange (query.matching entity rows)).dropWhile
        (fun row => !address.isOf row) = edge :: rest := by
      rw [split]
      refine dropWhile_of_single isOf ?_
      rwa [← split, ScanDirection.filter_arrange, ScanDirection.length_arrange]
    rw [Plan.window_eq (by rintro _ ⟨⟩; exact single)]
    -- The walk has had the row of the cursor, which is the one that the query skips.
    simp [planOf, fromEdge, Plan.fromScan, Plan.paginate, keepDistinct, noDistinct, takeAtMost]

/-- The pages that a walk has read and the rows that are left make up what the query matches; none of
the pages is empty, and the cursor stands behind them. -/
theorem PageWalk.covers {pages : List (List Record)}
    (walk : PageWalk query entity limits rows direction size pages cursor?) :
    ∃ rest, direction.arrange (query.matching entity rows)
        = (pages.map direction.arrange).flatten ++ rest ∧
      pages.length ≤ (pages.map direction.arrange).flatten.length ∧
      StandsBehind entity cursor? (pages.map direction.arrange).flatten := by
  induction walk with
  | start => exact ⟨_, rfl, Nat.le_refl 0, rfl⟩
  | @step pages cursor? page edge address _ read last points ih =>
    obtain ⟨rest, scanned, short, stands⟩ := ih
    rw [readPage_pageFrom noDistinct positive bounded skips unambiguous scanned stands,
      Except.ok.injEq] at read
    subst read
    rw [ScanDirection.arrange_arrange] at last
    have nonempty : rest.take size ≠ [] := by
      intro empty
      rw [empty] at last
      contradiction
    have length := List.length_pos_iff.2 nonempty
    simp only [List.map_append, List.map_cons, List.map_nil, List.flatten_append,
      List.flatten_cons, List.flatten_nil, List.append_nil, ScanDirection.arrange_arrange]
    refine ⟨rest.drop size, ?_, ?_, edge, ?_, points⟩
    · rw [scanned, List.append_assoc, List.take_append_drop]
    · simp only [List.length_append, List.length_cons, List.length_nil]
      omega
    · rw [List.getLast?_append, last]
      rfl

/-- A walk reads no more pages than there are rows, the next page can always be read and is of the
size that was asked for at most, and when it is empty the pages put in order are the rows that match. -/
theorem PageWalk.next {pages : List (List Record)}
    (walk : PageWalk query entity limits rows direction size pages cursor?) :
    pages.length ≤ (query.matching entity rows).length ∧
    ∃ page, (query.pageFrom direction size cursor?).readPage entity limits rows = .ok page ∧
      page.length ≤ size ∧
      (page = [] → (direction.arrange pages).flatten = query.matching entity rows) ∧
      ∀ edge address, (direction.arrange page).getLast? = some edge →
        Address.PointsTo entity edge address →
        PageWalk query entity limits rows direction size (pages ++ [page]) (some address) := by
  obtain ⟨rest, scanned, short, stands⟩ :=
    walk.covers noDistinct positive bounded skips unambiguous
  have read := readPage_pageFrom noDistinct positive bounded skips unambiguous scanned stands
  refine ⟨?_, _, read, ?_, ?_, fun edge address last points => walk.step read last points⟩
  · have total := congrArg List.length scanned
    rw [ScanDirection.length_arrange, List.length_append] at total
    omega
  · rw [ScanDirection.length_arrange]
    exact List.length_take_le size rest
  · intro empty
    have nothing : rest = [] := by
      have taken := congrArg List.length empty
      rw [ScanDirection.length_arrange, List.length_take, List.length_nil] at taken
      exact List.length_eq_zero_iff.1 (by omega)
    rw [nothing, List.append_nil] at scanned
    rw [ScanDirection.flatten_arrange, ← scanned, ScanDirection.arrange_arrange]

end Walks

/-! ## Offsets -/

theorem readAll_eq (query : Query) (entity : Entity) (limits : Limits) (rows : List Record) :
    query.readAll entity limits rows
      = .ok (keepDistinct query.distinct (query.matching entity rows)) := rfl

theorem readPage_pageAt {offset : Nat} (positive : 1 ≤ size) (bounded : size ≤ limits.maxPageSize)
    (allowed : offset ≤ limits.maxSkip) :
    (query.pageAt size offset).readPage entity limits rows
      = .ok (((keepDistinct query.distinct (query.matching entity rows)).drop offset).take
          size) := by
  have planned : (query.pageAt size offset).planPage entity limits
      = .ok (query.planOf entity none ⟨.forward, offset, some size⟩) := by
    have taken : planTake limits (some limits.defaultPageSize) false (some (size : Int))
        = .ok (.forward, some size) := planTake_signed .forward positive bounded _ _
    simp only [planPage, Query.plan, pageAt, planSkip_of_le allowed, Option.isSome_none, taken]
    rfl
  rw [readPage_eq planned]
  rfl

theorem readPage_pageAt_of_lt {offset : Nat} (refused : limits.maxSkip < offset) :
    (query.pageAt size offset).readPage entity limits rows
      = .error (.invalidPagination (.skipTooLarge offset limits.maxSkip)) := by
  simp only [readPage, planPage, Query.plan, pageAt, planSkip, Int.natAbs_natCast]
  rw [if_neg (by omega), if_pos refused]
  rfl

theorem flatten_take_drop {α : Type} (items : List α) (size count : Nat) :
    ((List.range count).map fun i => (items.drop (i * size)).take size).flatten
      = items.take (count * size) := by
  induction count with
  | zero => simp
  | succ count ih =>
    rw [List.range_succ, List.map_append, List.flatten_append, ih]
    simp [Nat.succ_mul, List.take_add]

/-- Pages at growing offsets are the front of what the query finds. -/
theorem readOffsets_eq (query : Query) (entity : Entity) (rows : List Record) {count : Nat}
    (positive : 1 ≤ size) (bounded : size ≤ limits.maxPageSize)
    (allowed : ∀ i < count, i * size ≤ limits.maxSkip) :
    ∃ pages, query.readOffsets entity limits rows size count = .ok pages ∧
      pages.flatten = (keepDistinct query.distinct (query.matching entity rows)).take
        (count * size) := by
  refine ⟨_, mapM_eq_ok.2 ?_, flatten_take_drop _ size count⟩
  rw [List.forall₂_map_right_iff, List.forall₂_same]
  intro i member
  exact readPage_pageAt positive bounded (allowed i (List.mem_range.1 member))

end Query

end RecordStore
