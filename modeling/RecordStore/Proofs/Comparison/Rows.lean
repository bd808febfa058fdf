import RecordStore.Proofs.Typing.Rows
import RecordStore.Query.Order
import RecordStore.Sql.Scan
import Mathlib.Data.List.Pairwise

/-! # Orders of rows are transitive

Rows are sorted by a comparison that goes through the fields of an order.  It is no order on all
records: values of different kinds do not compare, and a NaN ties with everything.  On records that
suit an order it is one: `compareRows_key` gives a comparison that is transitive everywhere and the
same on those records.

* `compareRows_backward` turns an order around.
* `compareRows_eq_iff` says that rows tie exactly when they have the same values.
* `sorted_lt`, `filter_mergeSort`, `mergeSort_swap` are about lists without ties, where sorting has
  one result.
-/

namespace RecordStore

/-! ## Comparing rows -/

theorem OrderTerm.compare_swap (term : OrderTerm) (a b : Record) :
    term.compare b a = (term.compare a b).swap := by
  unfold OrderTerm.compare
  rw [Value.sortOrder_swap (a.valueAt term.field)]
  cases term.direction <;> rfl

theorem compareRows_swap (order : List OrderTerm) (a b : Record) :
    compareRows order b a = (compareRows order a b).swap := by
  induction order with
  | nil => rfl
  | cons term rest ih => rw [compareRows, compareRows, term.compare_swap a b, ih, Ordering.swap_then]

theorem compareRows_append (front back : List OrderTerm) (a b : Record) :
    compareRows (front ++ back) a b = (compareRows front a b).then (compareRows back a b) := by
  induction front with
  | nil => rfl
  | cons term rest ih => rw [List.cons_append, compareRows, compareRows, ih, Ordering.then_assoc]

/-- Where rows tie up to a field that one of them has as null and the other has not, the null is first
in ascending and last in descending direction. -/
theorem compareRows_of_null {front back : List OrderTerm} {term : OrderTerm} {a b : Record}
    (tied : compareRows front a b = .eq) (null : (a.valueAt term.field).isNull = true)
    (present : (b.valueAt term.field).isNull = false) :
    compareRows (front ++ term :: back) a b
      = if term.direction = .ascending then .lt else .gt := by
  rw [compareRows_append, tied, compareRows, OrderTerm.compare, Value.sortOrder, null, present]
  cases term.direction <;> rfl

/-- A backward scan compares rows the other way round. -/
theorem compareRows_backward (order : List OrderTerm) (a b : Record) :
    compareRows (ScanDirection.backward.order order) a b = compareRows order b a := by
  induction order with
  | nil => rfl
  | cons term rest ih =>
    -- A term turned around swaps what it has compared, or no longer swaps it.
    have turned : OrderTerm.compare { term with direction := term.direction.reverse } a b
        = term.compare b a := by
      rw [term.compare_swap]
      unfold OrderTerm.compare
      cases term.direction
      · rfl
      · exact (Ordering.swap_swap).symm
    rw [compareRows, ← ih, ← turned]
    rfl

/-! ## Records that suit an order -/

/-- Whether an order can be trusted with a record: its fields are known, and hold null or a value of
their kind that is not a NaN. -/
def SuitsOrder (entity : Entity) (order : List OrderTerm) (record : Record) : Prop :=
  ∀ term ∈ order, ∃ field, entity.field? term.field = some field ∧
    field.kind.Fits (record.valueAt term.field) ∧ (record.valueAt term.field).isNaN = false

variable {entity : Entity}

theorem SuitsOrder.subset {order part : List OrderTerm} {record : Record}
    (suits : SuitsOrder entity order record) (less : part ⊆ order) :
    SuitsOrder entity part record := fun term member => suits term (less member)

theorem OrderTerm.compare_key (entity : Entity) (term : OrderTerm) :
    ∃ cmp : Record → Record → Ordering, Std.TransCmp cmp ∧
      ∀ a b, SuitsOrder entity [term] a → SuitsOrder entity [term] b →
        term.compare a b = cmp a b := by
  cases found : entity.field? term.field with
  | none =>
    -- No record suits an order by a field that is not there, so any comparison will do.
    refine ⟨compareOn fun _ => (), inferInstance, fun a _ suits _ => ?_⟩
    obtain ⟨field, known, -⟩ := suits term List.mem_cons_self
    rw [found] at known
    contradiction
  | some field =>
    obtain ⟨κ, _, _, key, sorts⟩ := field.kind.sortOrder_key
    have sorts : ∀ a b, SuitsOrder entity [term] a → SuitsOrder entity [term] b →
        (a.valueAt term.field).sortOrder (b.valueAt term.field)
          = compareOn (fun record : Record => key (record.valueAt term.field)) a b := by
      intro a b suitsA suitsB
      obtain ⟨_, knownA, fitsA, numberA⟩ := suitsA term List.mem_cons_self
      obtain ⟨_, knownB, fitsB, numberB⟩ := suitsB term List.mem_cons_self
      cases found.symm.trans knownA
      cases found.symm.trans knownB
      exact sorts _ _ fitsA fitsB numberA numberB
    cases direction : term.direction with
    | ascending =>
      refine ⟨compareOn fun record : Record => key (record.valueAt term.field), inferInstance,
        fun a b suitsA suitsB => ?_⟩
      rw [OrderTerm.compare, direction]
      exact sorts a b suitsA suitsB
    | descending =>
      -- A descending term compares the keys of the two records in exchange.
      refine ⟨fun a b => compareOn (fun record : Record => key (record.valueAt term.field)) b a,
        Std.TransCmp.opposite, fun a b suitsA suitsB => ?_⟩
      rw [OrderTerm.compare, direction, ← Value.sortOrder_swap]
      exact sorts b a suitsB suitsA

theorem compareRows_key (entity : Entity) (order : List OrderTerm) :
    ∃ cmp : Record → Record → Ordering, Std.TransCmp cmp ∧
      ∀ a b, SuitsOrder entity order a → SuitsOrder entity order b →
        compareRows order a b = cmp a b := by
  induction order with
  | nil => exact ⟨compareOn fun _ => (), inferInstance, fun _ _ _ _ => rfl⟩
  | cons term rest ih =>
    obtain ⟨first, _, firstEq⟩ := term.compare_key entity
    obtain ⟨others, _, othersEq⟩ := ih
    refine ⟨compareLex first others, inferInstance, fun a b suitsA suitsB => ?_⟩
    have head : [term] ⊆ term :: rest := by simp
    have tail : rest ⊆ term :: rest := by simp
    rw [compareRows, firstEq a b (suitsA.subset head) (suitsB.subset head),
      othersEq a b (suitsA.subset tail) (suitsB.subset tail)]
    rfl

/-- Rows tie exactly when they have the same values in every field of the order. -/
theorem compareRows_eq_iff {order : List OrderTerm} {a b : Record}
    (suitsA : SuitsOrder entity order a) (suitsB : SuitsOrder entity order b) :
    compareRows order a b = .eq ↔
      ∀ term ∈ order, (a.valueAt term.field).same (b.valueAt term.field) = true := by
  induction order with
  | nil => simp [compareRows]
  | cons term rest ih =>
    have tail : rest ⊆ term :: rest := by simp
    obtain ⟨field, knownA, fitsA, numberA⟩ := suitsA term List.mem_cons_self
    obtain ⟨_, knownB, fitsB, numberB⟩ := suitsB term List.mem_cons_self
    cases knownA.symm.trans knownB
    rw [compareRows, Ordering.then_eq_eq, ih (suitsA.subset tail) (suitsB.subset tail),
      List.forall_mem_cons, ← FieldKind.sortOrder_eq_iff fitsA fitsB numberA numberB]
    refine and_congr_left fun _ => ?_
    unfold OrderTerm.compare
    cases term.direction
    · rfl
    · exact Ordering.swap_eq_eq

/-- Items are sorted by any comparison that agrees with theirs. -/
theorem mergeSort_eq_of_agrees {α : Type} {cmp cmp' : α → α → Ordering} {items : List α}
    (agrees : ∀ a ∈ items, ∀ b ∈ items, cmp a b = cmp' a b) :
    items.mergeSort (fun a b => cmp a b != .gt) = items.mergeSort fun a b => cmp' a b != .gt := by
  have mapped := List.map_mergeSort (f := id) (r := fun a b => cmp a b != .gt)
    (s := fun a b => cmp' a b != .gt) (l := items) fun a memberA b memberB => by
      rw [id, id, agrees a memberA b memberB]
  rwa [List.map_id, List.map_id] at mapped

theorem sortRows_eq_mergeSort {order : List OrderTerm} {cmp : Record → Record → Ordering}
    {rows : List Record} (agrees : ∀ a ∈ rows, ∀ b ∈ rows, compareRows order a b = cmp a b) :
    sortRows order rows = rows.mergeSort fun a b => cmp a b != .gt :=
  mergeSort_eq_of_agrees agrees

/-! ## Lists without ties -/

section Sorting

variable {α : Type} {cmp : α → α → Ordering}

theorem lt_of_ne_gt {order : Ordering} (le : order ≠ .gt) (apart : order ≠ .eq) : order = .lt := by
  cases order
  · rfl
  · contradiction
  · contradiction

variable [Std.TransCmp cmp]

/-- Sorting brings every item before those behind it, or level with them. -/
theorem sorted_ne_gt (items : List α) :
    (items.mergeSort fun a b => cmp a b != .gt).Pairwise fun a b => cmp a b ≠ .gt := by
  have sorted : (items.mergeSort fun a b => cmp a b != .gt).Pairwise fun a b => cmp a b != .gt := by
    apply List.pairwise_mergeSort
    · intro a b c ab bc
      simp only [bne_iff_ne, ne_eq, ← Ordering.isLE_iff_ne_gt] at *
      exact Std.TransCmp.isLE_trans ab bc
    · intro a b
      rw [@Std.OrientedCmp.eq_swap _ cmp _ b]
      cases cmp a b <;> rfl
  exact sorted.imp fun le => by simpa using le

/-- Sorting a list without ties brings every item strictly before those behind it. -/
theorem sorted_lt {items : List α} (apart : items.Pairwise fun a b => cmp a b ≠ .eq) :
    (items.mergeSort fun a b => cmp a b != .gt).Pairwise fun a b => cmp a b = .lt := by
  have untied : (items.mergeSort fun a b => cmp a b != .gt).Pairwise fun a b => cmp a b ≠ .eq := by
    refine (List.mergeSort_perm items _).symm.pairwise apart ?_
    intro a b ab ba
    exact ab (Std.OrientedCmp.eq_comm.1 ba)
  exact ((sorted_ne_gt items).and untied).imp fun ⟨le, apart⟩ => lt_of_ne_gt le apart

/-- There is one way to bring a list without ties into order. -/
theorem eq_of_perm_of_lt {as bs : List α} (perm : as.Perm bs)
    (sortedA : as.Pairwise fun a b => cmp a b = .lt)
    (sortedB : bs.Pairwise fun a b => cmp a b = .lt) : as = bs := by
  refine perm.eq_of_pairwise ?_ sortedA sortedB
  intro a b _ _ ab ba
  rw [@Std.OrientedCmp.eq_swap _ cmp, ba] at ab
  contradiction

theorem filter_mergeSort {items : List α} (apart : items.Pairwise fun a b => cmp a b ≠ .eq)
    (test : α → Bool) :
    (items.filter test).mergeSort (fun a b => cmp a b != .gt)
      = (items.mergeSort fun a b => cmp a b != .gt).filter test := by
  refine eq_of_perm_of_lt ?_ (sorted_lt (apart.filter test))
    ((sorted_lt apart).filter test)
  exact (List.mergeSort_perm _ _).trans ((List.mergeSort_perm items _).symm.filter test)

theorem mergeSort_swap {items : List α} (apart : items.Pairwise fun a b => cmp a b ≠ .eq) :
    items.mergeSort (fun a b => cmp b a != .gt)
      = (items.mergeSort fun a b => cmp a b != .gt).reverse := by
  have turned : Std.TransCmp fun a b => cmp b a := Std.TransCmp.opposite
  have apart' : items.Pairwise fun a b => cmp b a ≠ .eq :=
    apart.imp fun ab ba => ab (Std.OrientedCmp.eq_comm.1 ba)
  refine eq_of_perm_of_lt ?_ (sorted_lt apart') ?_
  · exact (List.mergeSort_perm _ _).trans
      ((List.mergeSort_perm items _).symm.trans (List.reverse_perm _).symm)
  · rw [List.pairwise_reverse]
    exact sorted_lt apart

/-- In a sorted list, the items from one of them on are those that do not come before it. -/
theorem dropWhile_eq_filter {items : List α} (sorted : items.Pairwise fun a b => cmp a b = .lt)
    (test : α → Bool) {first : α} (member : first ∈ items) (accepted : test first = true)
    (only : ∀ item ∈ items, test item = true → item = first) :
    items.dropWhile (fun item => !test item)
      = items.filter fun item => cmp first item != .gt := by
  induction items with
  | nil => contradiction
  | cons item rest ih =>
    obtain ⟨before, restSorted⟩ := List.pairwise_cons.1 sorted
    cases tested : test item with
    | true =>
      -- This is the first item to be accepted, and what stands behind it comes after it.
      cases only item List.mem_cons_self tested
      have kept : ∀ other ∈ first :: rest, (cmp first other != .gt) = true := by
        intro other otherMember
        rcases List.mem_cons.1 otherMember with rfl | behind
        · simp [@Std.ReflCmp.compare_self _ cmp]
        · simp [before other behind]
      rw [List.dropWhile_cons_of_neg (by simp [tested]), List.filter_eq_self.2 kept]
    | false =>
      -- The item is before the first one to be accepted, so both sides leave it out.
      have inRest : first ∈ rest := by
        rcases List.mem_cons.1 member with rfl | inRest
        · rw [accepted] at tested
          contradiction
        · exact inRest
      have dropped : (cmp first item != .gt) = false := by
        rw [@Std.OrientedCmp.eq_swap _ cmp, before first inRest]
        rfl
      rw [List.dropWhile_cons_of_pos (by simp [tested]),
        List.filter_cons_of_neg (by simp [dropped])]
      exact ih restSorted inRest fun other otherMember =>
        only other (List.mem_cons_of_mem _ otherMember)

end Sorting

end RecordStore
