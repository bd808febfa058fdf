import RecordStore.Proofs.Database.Cursor
import RecordStore.Proofs.Database.Matching
import RecordStore.Proofs.Query.Windows
import Mathlib.Data.List.Find

/-! # Scans

A statement whose filter is exact and whose order has no decimals finds the rows of a plan: the
clauses of the filter and the cursor choose them, and they are sorted in the direction of the scan.
`scan_eq` says that these are the records in memory from the cursor on.

Both sides are brought to one list, the pairs of stored rows and records in the order of the scan.
Identities are distinct, so nothing ties and there is one such list: filtering before or after the
sort makes no difference, and the rows at and behind the anchor are a suffix of it.
-/

namespace RecordStore

/-! ## The order of a scan -/

theorem ScanDirection.mem_order {direction : ScanDirection} {order : List OrderTerm}
    {term : OrderTerm} (member : term ∈ direction.order order) :
    ∃ original ∈ order, original.field = term.field := by
  cases direction with
  | forward => exact ⟨term, member, rfl⟩
  | backward =>
    obtain ⟨original, originalMember, rfl⟩ := List.mem_map.1 member
    exact ⟨original, originalMember, rfl⟩

theorem ScanDirection.exists_order (direction : ScanDirection) {order : List OrderTerm}
    {original : OrderTerm} (member : original ∈ order) :
    ∃ term ∈ direction.order order, term.field = original.field := by
  cases direction with
  | forward => exact ⟨original, member, rfl⟩
  | backward => exact ⟨_, List.mem_map_of_mem member, rfl⟩

theorem Entity.canSort_scan {entity : Entity} {order : List OrderTerm}
    (sortable : entity.canSort order = true) (direction : ScanDirection) :
    entity.canSort (direction.order order) = true := by
  rw [canSort, List.all_eq_true] at sortable ⊢
  intro term member
  obtain ⟨original, originalMember, same⟩ := ScanDirection.mem_order member
  exact same ▸ sortable original originalMember

theorem OrderKnown.scan {entity : Entity} {order : List OrderTerm} (known : OrderKnown entity order)
    (direction : ScanDirection) : OrderKnown entity (direction.order order) := by
  intro term member
  obtain ⟨original, originalMember, same⟩ := ScanDirection.mem_order member
  exact same ▸ known original originalMember

theorem OrderFaithful.scan {order : List OrderTerm} {a b : Record}
    (faithful : OrderFaithful order a b) (direction : ScanDirection) :
    OrderFaithful (direction.order order) a b := by
  intro term member
  obtain ⟨original, originalMember, same⟩ := ScanDirection.mem_order member
  exact same ▸ faithful original originalMember

theorem OrderFaithful.suitsOrder {entity : Entity} {order : List OrderTerm} {record : Record}
    (known : OrderKnown entity order) (fits : entity.Fits record)
    (faithful : OrderFaithful order record record) : SuitsOrder entity order record := by
  intro term member
  obtain ⟨field, found⟩ := known term member
  refine ⟨field, found, fits _ field found, ?_⟩
  have compares := faithful term member
  cases value : record.valueAt term.field with
  | float x => rw [value] at compares; exact compares.1
  | _ => rfl

/-- A stored row and the record that it represents. -/
abbrev Pair := StoredRow × Record

/-- Whether a comparison of pairs is that of their rows and of their records in an order, and tells
the pairs of a list apart. -/
structure ScanOrder (order : List OrderTerm) (pairs : List Pair) (cmp : Pair → Pair → Ordering) :
    Prop where
  rows : ∀ p ∈ pairs, ∀ q ∈ pairs, compareStoredRows order p.1 q.1 = cmp p q
  records : ∀ p ∈ pairs, ∀ q ∈ pairs, compareRows order p.2 q.2 = cmp p q
  apart : pairs.Pairwise fun p q => cmp p q ≠ .eq

namespace ScanOrder

variable {order : List OrderTerm} {pairs : List Pair} {cmp : Pair → Pair → Ordering}
  [Std.TransCmp cmp]

/-- The pairs in the order of the scan. -/
def sorted (cmp : Pair → Pair → Ordering) (pairs : List Pair) : List Pair :=
  pairs.mergeSort fun p q => cmp p q != .gt

omit [Std.TransCmp cmp] in
theorem perm_sorted : pairs.Perm (sorted cmp pairs) := (List.mergeSort_perm pairs _).symm

theorem sortStoredRows_eq (scan : ScanOrder order pairs cmp) (test : Pair → Bool) :
    sortStoredRows order ((pairs.filter test).map Prod.fst)
      = ((sorted cmp pairs).filter test).map Prod.fst := by
  rw [sorted, ← filter_mergeSort scan.apart, sortStoredRows]
  refine (List.map_mergeSort fun p hp q hq => ?_).symm
  rw [scan.rows p (List.mem_filter.1 hp).1 q (List.mem_filter.1 hq).1]

theorem sortRows_eq (scan : ScanOrder order pairs cmp) (test : Pair → Bool) :
    sortRows order ((pairs.filter test).map Prod.snd)
      = ((sorted cmp pairs).filter test).map Prod.snd := by
  rw [sorted, ← filter_mergeSort scan.apart, sortRows]
  refine (List.map_mergeSort fun p hp q hq => ?_).symm
  rw [scan.records p (List.mem_filter.1 hp).1 q (List.mem_filter.1 hq).1]

/-- In memory the rows are sorted in the order of the plan, from which a backward scan reads them in
reverse. -/
theorem sortRows_arrange {direction : ScanDirection}
    (scan : ScanOrder (direction.order order) pairs cmp) (test : Pair → Bool) :
    sortRows order ((pairs.filter test).map Prod.snd)
      = direction.arrange (((sorted cmp pairs).filter test).map Prod.snd) := by
  cases direction with
  | forward => exact scan.sortRows_eq test
  | backward =>
    have swapped : sortRows order ((pairs.filter test).map Prod.snd)
        = ((pairs.filter test).mergeSort fun p q => cmp q p != .gt).map Prod.snd := by
      refine (List.map_mergeSort fun p hp q hq => ?_).symm
      rw [← compareRows_backward, scan.records q (List.mem_filter.1 hq).1 p (List.mem_filter.1 hp).1]
    rw [swapped, mergeSort_swap (scan.apart.filter test), filter_mergeSort scan.apart,
      List.map_reverse]
    rfl

end ScanOrder

/-! ## Tables that a plan can be left to -/

namespace DatabaseStore

/-- Whether a plan can be left to a database, on a table: the rows represent records with distinct
identities, and what the plan compares can be compared as stored.  A cursor addresses one row at most.
-/
structure Delegable (entity : Entity) (plan : Plan) (rows : StoredTable) (records : List Record) :
    Prop where
  represents : List.Forall₂ (fun row record => entity.Represents row record ∧
    plan.filter.Faithful entity record ∧
    ∀ cursor, plan.cursor? = some cursor → cursor.Faithful entity row record) rows records
  order_faithful : ∀ a ∈ records, ∀ b ∈ records, OrderFaithful plan.order a b
  identities : records.Pairwise fun a b =>
    ∃ name ∈ entity.identity, (a.valueAt name).same (b.valueAt name) = false
  cursor_single : ∀ cursor, plan.cursor? = some cursor → (records.filter cursor.isOf).length ≤ 1

variable {entity : Entity} {plan : Plan} {pairs : List Pair}

/-- What is asked of a row and its record, in a table that a plan can be left to. -/
structure DelegablePair (entity : Entity) (plan : Plan) (pair : Pair) : Prop where
  represents : entity.Represents pair.1 pair.2
  fits : entity.Fits pair.2
  filter_faithful : plan.filter.Faithful entity pair.2
  cursor_faithful : ∀ cursor, plan.cursor? = some cursor → cursor.Faithful entity pair.1 pair.2

/-- A table that a plan can be left to, as pairs. -/
structure DelegablePairs (entity : Entity) (plan : Plan) (pairs : List Pair) : Prop where
  each : ∀ pair ∈ pairs, DelegablePair entity plan pair
  order_faithful : ∀ p ∈ pairs, ∀ q ∈ pairs, OrderFaithful plan.order p.2 q.2
  identities : pairs.Pairwise fun p q =>
    ∃ name ∈ entity.identity, (p.2.valueAt name).same (q.2.valueAt name) = false
  cursor_single : ∀ cursor, plan.cursor? = some cursor →
    (pairs.filter fun pair => cursor.isOf pair.2).length ≤ 1

theorem Delegable.exists_pairs (wellFormed : entity.WellFormed) {rows : StoredTable}
    {records : List Record} (delegable : Delegable entity plan rows records) :
    ∃ pairs : List Pair, rows = pairs.map Prod.fst ∧ records = pairs.map Prod.snd ∧
      DelegablePairs entity plan pairs := by
  obtain ⟨pairs, rfl, rfl, each⟩ := RecordStore.exists_pairs delegable.represents
  refine ⟨pairs, rfl, rfl, ?_, ?_, List.pairwise_map.1 delegable.identities, ?_⟩
  · intro pair member
    obtain ⟨represents, filterFaithful, cursorFaithful⟩ := each pair member
    exact ⟨represents, Entity.load_fits wellFormed represents.loads, filterFaithful, cursorFaithful⟩
  · exact fun p hp q hq => delegable.order_faithful p.2 (List.mem_map_of_mem hp) q.2
      (List.mem_map_of_mem hq)
  · intro cursor given
    have atMostOne := delegable.cursor_single cursor given
    rwa [List.filter_map, List.length_map] at atMostOne

theorem DelegablePairs.exists_scanOrder (delegable : DelegablePairs entity plan pairs)
    (checked : plan.Checked entity) (decided : decides entity plan = true)
    (direction : ScanDirection) :
    ∃ cmp, Std.TransCmp cmp ∧ ScanOrder (direction.order plan.order) pairs cmp := by
  have known := checked.order_known.scan direction
  have sortable := Entity.canSort_scan (Bool.and_eq_true_iff.1 decided).2 direction
  have suits : ∀ p ∈ pairs, SuitsOrder entity (direction.order plan.order) p.2 := fun p hp =>
    OrderFaithful.suitsOrder known (delegable.each p hp).fits
      ((delegable.order_faithful p hp p hp).scan direction)
  obtain ⟨cmp, transCmp, agrees⟩ := compareRows_key entity (direction.order plan.order)
  have byRecord : ∀ p ∈ pairs, ∀ q ∈ pairs,
      compareRows (direction.order plan.order) p.2 q.2 = cmp p.2 q.2 :=
    fun p hp q hq => agrees p.2 q.2 (suits p hp) (suits q hq)
  refine ⟨fun p q => cmp p.2 q.2, ?_, ?_, byRecord, ?_⟩
  · exact {
      eq_swap := fun {p q} => @Std.OrientedCmp.eq_swap _ cmp _ p.2 q.2
      isLE_trans := fun {p q r} => @Std.TransCmp.isLE_trans _ cmp _ p.2 q.2 r.2 }
  · intro p hp q hq
    rw [← byRecord p hp q hq]
    have pairP := delegable.each p hp
    have pairQ := delegable.each q hq
    exact compareStoredRows_eq known sortable pairP.fits pairQ.fits pairP.represents.stores
      pairQ.represents.stores ((delegable.order_faithful p hp q hq).scan direction)
  · refine delegable.identities.imp_of_mem fun {p q} hp hq different tied => ?_
    -- The order ends with the identity, by which any two records are told apart.
    obtain ⟨name, inIdentity, notSame⟩ := different
    obtain ⟨original, originalMember, rfl⟩ := checked.order_ends name inIdentity
    obtain ⟨term, member, same⟩ := direction.exists_order originalMember
    rw [← byRecord p hp q hq, compareRows_eq_iff (suits p hp) (suits q hq)] at tied
    have equal := tied term member
    rw [same, notSame] at equal
    contradiction

/-! ## The statement of a scan -/

theorem narrowing_keeps (checked : plan.Checked entity) (exact : plan.filter.isExact entity = true)
    {pair : Pair} (delegable : DelegablePair entity plan pair) {bound final : Bound}
    (later : (plan.filter.narrowing entity bound).2 <+: final) :
    (plan.filter.narrowing entity bound).1.eval final pair.1 = some true ↔
      plan.filter.selects pair.2 = true := by
  have stands := Predicate.narrowing_eval checked.filter_suits delegable.fits
    delegable.represents.stores delegable.filter_faithful later
  rw [stands.eq_some exact, Option.some.injEq]

theorem selects_of_isAlways {filter : Filter} (always : filter.isAlways = true) (record : Record) :
    filter.selects record = true := by
  unfold Predicate.isAlways at always
  split at always
  · rfl
  · contradiction

theorem filterClauses_eval (checked : plan.Checked entity)
    (exact : plan.filter.isExact entity = true) {pair : Pair}
    (delegable : DelegablePair entity plan pair) {final : Bound}
    (later : (filterClauses entity plan.filter).2 <+: final) :
    Clause.evalAll final pair.1 (filterClauses entity plan.filter).1 = some true ↔
      plan.filter.selects pair.2 = true := by
  unfold filterClauses at later ⊢
  split
  · next always => simp [Clause.evalAll, selects_of_isAlways always]
  · next other =>
    rw [if_neg other] at later
    exact Clause.evalAll_singleton.trans (narrowing_keeps checked exact delegable later)

theorem keeps_iff {clause : Clause} {bound : Bound} {row : StoredRow} :
    clause.keeps bound row = true ↔ clause.eval bound row = some true := by
  simp [Clause.keeps]

/-- The clause of a cursor keeps the rows at and behind the anchor in the order of the scan. -/
theorem DelegablePairs.fromCursor_keeps (delegable : DelegablePairs entity plan pairs)
    (checked : plan.Checked entity) (sortable : entity.canSort plan.order = true)
    {anchor pair : Pair} (anchorMember : anchor ∈ pairs) (member : pair ∈ pairs) (bound : Bound) :
    (fromCursor (plan.page.direction.order plan.order) anchor.2 bound).1.keeps
        (fromCursor (plan.page.direction.order plan.order) anchor.2 bound).2 pair.1
      = (compareRows (plan.page.direction.order plan.order) anchor.2 pair.2 != .gt) := by
  rw [Bool.eq_iff_iff, keeps_iff, bne_iff_ne]
  exact fromCursor_eval (checked.order_known.scan _) (Entity.canSort_scan sortable _)
    (delegable.each anchor anchorMember).fits (delegable.each pair member).fits
    (delegable.each pair member).represents.stores
    ((delegable.order_faithful pair member anchor anchorMember).scan _) List.prefix_rfl

/-- The record of the cursor is that of the first pair that it matches and that passes the filter. -/
theorem anchor_eq (checked : plan.Checked entity) (exact : plan.filter.isExact entity = true)
    (each : ∀ pair ∈ pairs, DelegablePair entity plan pair) {cursor : Address}
    (given : plan.cursor? = some cursor) :
    anchor entity plan.filter cursor (pairs.map Prod.fst)
      = .ok ((pairs.find? fun pair => cursor.isOf pair.2 && plan.filter.selects pair.2).map
          Prod.snd) := by
  have matches_iff : ∀ pair ∈ pairs, ∀ final, (cursor.clause []).2 <+: final →
      ((cursor.clause []).1.eval final pair.1 = some true ↔ cursor.isOf pair.2 = true) :=
    fun pair member final later => Address.clause_eval (checked.cursor_holds cursor given)
      (each pair member).fits (each pair member).represents.stores
      ((each pair member).cursor_faithful cursor given) later
  have found : ∀ keep : StoredRow → Bool, (∀ pair ∈ pairs,
      keep pair.1 = (cursor.isOf pair.2 && plan.filter.selects pair.2)) →
      ((pairs.map Prod.fst).find? keep).mapM entity.load
        = .ok ((pairs.find? fun pair => cursor.isOf pair.2 && plan.filter.selects pair.2).map
          Prod.snd) := by
    intro keep agrees
    have sameFirst : pairs.find? (keep ∘ Prod.fst)
        = pairs.find? fun pair => cursor.isOf pair.2 && plan.filter.selects pair.2 :=
      List.find?_congr agrees
    rw [List.find?_map, sameFirst]
    cases first : pairs.find? fun pair => cursor.isOf pair.2 && plan.filter.selects pair.2 with
    | none => rfl
    | some pair =>
      have loads := (each pair (List.mem_of_find?_eq_some first)).represents.loads
      simp [loads]
  unfold anchor
  simp only
  split
  · next always =>
    refine found _ fun pair member => ?_
    rw [selects_of_isAlways always, Bool.and_true, Bool.eq_iff_iff, keeps_iff]
    exact matches_iff pair member _ List.prefix_rfl
  · refine found _ fun pair member => ?_
    rw [Bool.eq_iff_iff, keeps_iff, Clause.eval, Clause.evalAll, Truth.and_eq_true,
      Clause.evalAll_singleton, Bool.and_eq_true, narrowing_keeps checked exact (each pair member)
        List.prefix_rfl, matches_iff pair member _ (Predicate.narrowing_extends entity _ _)]

section Scan

variable {cmp : Pair → Pair → Ordering}

/-- The pairs that pass the filter, in the order of the scan. -/
def passing (plan : Plan) (cmp : Pair → Pair → Ordering) (pairs : List Pair) : List Pair :=
  (ScanOrder.sorted cmp pairs).filter fun pair => plan.filter.selects pair.2

theorem mem_passing {pair : Pair} :
    pair ∈ passing plan cmp pairs ↔ pair ∈ pairs ∧ plan.filter.selects pair.2 = true := by
  rw [passing, List.mem_filter, ScanOrder.sorted, List.mem_mergeSort]

variable [Std.TransCmp cmp] (checked : plan.Checked entity) (decided : decides entity plan = true)
  (delegable : DelegablePairs entity plan pairs)
  (order : ScanOrder (plan.page.direction.order plan.order) pairs cmp)

include checked decided delegable order

/-- A statement reads the pairs from the cursor on, or nothing where the cursor's row is missing. -/
theorem scan_eq :
    (∃ found : List Pair, (∀ pair ∈ found, pair ∈ pairs) ∧
      scan entity plan (pairs.map Prod.fst) = .ok (some (found.map Prod.fst)) ∧
      found.map Prod.snd = plan.fromScan ((passing plan cmp pairs).map Prod.snd)) ∨
    (scan entity plan (pairs.map Prod.fst) = .ok none ∧
      plan.fromScan ((passing plan cmp pairs).map Prod.snd) = []) := by
  obtain ⟨exact, sortable⟩ := Bool.and_eq_true_iff.1 decided
  have ordered : ∀ clauses bound test,
      (∀ pair ∈ pairs, (Clause.all clauses).keeps bound pair.1 = test pair) →
      sortStoredRows (plan.page.direction.order plan.order)
          ((pairs.map Prod.fst).filter ((Clause.all clauses).keeps bound))
        = ((ScanOrder.sorted cmp pairs).filter test).map Prod.fst := by
    intro clauses bound test agrees
    rw [List.filter_map, ← order.sortStoredRows_eq]
    exact congrArg _ (congrArg _ (List.filter_congr agrees))
  unfold scan Plan.fromScan
  cases given : plan.cursor? with
  | none =>
    refine .inl ⟨passing plan cmp pairs, fun pair member => (mem_passing.1 member).1, ?_, rfl⟩
    refine congrArg (Except.ok ∘ some) (ordered _ _ _ fun pair member => ?_)
    rw [Bool.eq_iff_iff, keeps_iff, Clause.eval]
    exact filterClauses_eval checked exact (delegable.each pair member) List.prefix_rfl
  | some cursor =>
    simp only [anchor_eq checked exact delegable.each given]
    cases first : pairs.find? fun pair => cursor.isOf pair.2 && plan.filter.selects pair.2 with
    | none =>
      refine .inr ⟨rfl, ?_⟩
      rw [List.dropWhile_eq_nil_iff, List.forall_mem_map]
      intro pair member
      obtain ⟨inPairs, passes⟩ := mem_passing.1 member
      have unmatched := List.find?_eq_none.1 first pair inPairs
      simpa [passes] using unmatched
    | some anchor =>
      have inPairs := List.mem_of_find?_eq_some first
      have accepted := List.find?_some first
      obtain ⟨isOf, passes⟩ : cursor.isOf anchor.2 = true ∧ plan.filter.selects anchor.2 = true := by
        simpa using accepted
      -- At most one pair is the cursor's, so dropping the pairs before it keeps those that do not come
      -- before the anchor.
      have strict : (passing plan cmp pairs).Pairwise fun p q => cmp p q = .lt :=
        (sorted_lt order.apart).filter _
      have suffix := dropWhile_eq_filter strict (fun pair => cursor.isOf pair.2)
        (mem_passing.2 ⟨inPairs, passes⟩) isOf fun pair member pairIsOf =>
          eq_of_length_filter_le_one (delegable.cursor_single cursor given) (mem_passing.1 member).1
            inPairs pairIsOf isOf
      refine .inl ⟨(passing plan cmp pairs).filter fun pair => cmp anchor pair != .gt,
        fun pair member => (mem_passing.1 (List.mem_filter.1 member).1).1, ?_, ?_⟩
      · rw [passing, List.filter_filter]
        refine congrArg (Except.ok ∘ some) (ordered _ _ _ fun pair member => ?_)
        have atOrBehind := delegable.fromCursor_keeps checked sortable inPairs member
          (filterClauses entity plan.filter).2
        rw [order.records anchor inPairs pair member, Bool.eq_iff_iff, keeps_iff] at atOrBehind
        rw [Bool.eq_iff_iff, keeps_iff, Clause.eval, Clause.evalAll_append,
          Clause.evalAll_singleton, Bool.and_eq_true, and_comm, atOrBehind,
          filterClauses_eval checked exact (delegable.each pair member) (fromCursor_extends _ _ _)]
      · rw [← suffix, List.dropWhile_map]
        rfl

end Scan

end DatabaseStore

end RecordStore
