import RecordStore.Proofs.Typing.Filters
import RecordStore.Query.Plan

/-! # What a plan is made of

A plan that comes of a query has a filter that suits its entity, an order of known fields that ends
with the identity, a cursor with values of the kinds of its fields, and a page within the limits.
`Plan.Checked` collects that, `Query.plan_checked` proves it.
-/

namespace RecordStore

variable {entity : Entity}

/-! ## Orders -/

/-- Whether every term of an order names a field of an entity. -/
def OrderKnown (entity : Entity) (order : List OrderTerm) : Prop :=
  ∀ term ∈ order, ∃ field, entity.field? term.field = some field

theorem OrderKnown.append {order : List OrderTerm} (known : OrderKnown entity order) {name : String}
    {field : Field} (found : entity.field? name = some field) (direction : Direction) :
    OrderKnown entity (order ++ [⟨name, direction⟩]) := by
  intro term member
  rcases List.mem_append.1 member with before | last
  · exact known term before
  · rw [List.mem_singleton.1 last]
    exact ⟨field, found⟩

theorem readOrderTerms_known {entries : List (String × Json)} {order result : List OrderTerm}
    (known : OrderKnown entity order) (read : readOrderTerms entity entries order = .ok result) :
    OrderKnown entity result := by
  induction entries generalizing order with
  | nil => cases read; exact known
  | cons entry rest ih =>
    obtain ⟨name, raw⟩ := entry
    unfold readOrderTerms at read
    split at read
    · contradiction
    · next isField =>
      obtain ⟨field, found⟩ := Option.ne_none_iff_exists'.1 (by simpa using isField)
      simp only at read
      split at read
      · contradiction
      · split at read
        · contradiction
        · exact ih (known.append found _) read

theorem readOrderObjects_known {items : List Json} {order result : List OrderTerm}
    (known : OrderKnown entity order) (read : readOrderObjects entity items order = .ok result) :
    OrderKnown entity result := by
  induction items generalizing order with
  | nil => cases read; exact known
  | cons item rest ih =>
    unfold readOrderObjects at read
    split at read
    · contradiction
    · next equal =>
      cases equal
      obtain ⟨next, termsRead, restRead⟩ := bind_eq_ok.1 read
      exact ih (readOrderTerms_known known termsRead) restRead
    · contradiction

theorem readOrder_known {raw : Json} {order : List OrderTerm}
    (read : readOrder entity raw = .ok order) : OrderKnown entity order := by
  unfold readOrder at read
  split at read
  · cases read
    simp [OrderKnown]
  · exact readOrderObjects_known (by simp [OrderKnown]) read
  · exact readOrderObjects_known (by simp [OrderKnown]) read

/-- An order that is extended keeps its terms, and has one for every field that it is extended by. -/
theorem extendOrder_extends (order : List OrderTerm) (names : List String) :
    (∀ term ∈ order, term ∈ extendOrder order names) ∧
      ∀ name ∈ names, ∃ term ∈ extendOrder order names, term.field = name := by
  induction names generalizing order with
  | nil => exact ⟨fun _ member => member, by simp⟩
  | cons name rest ih =>
    rw [extendOrder, List.foldl_cons, ← extendOrder]
    split
    · next listed =>
      obtain ⟨keeps, ends⟩ := ih order
      refine ⟨keeps, List.forall_mem_cons.2 ⟨?_, ends⟩⟩
      obtain ⟨term, member, named⟩ := List.any_eq_true.1 listed
      exact ⟨term, keeps term member, by simpa using named⟩
    · obtain ⟨keeps, ends⟩ := ih (order ++ [⟨name, .ascending⟩])
      refine ⟨fun term member => keeps term (List.mem_append_left _ member),
        List.forall_mem_cons.2 ⟨?_, ends⟩⟩
      exact ⟨⟨name, .ascending⟩, keeps _ (by simp), rfl⟩

/-- What is asked of fields that extend an order, the extended order has, and every one of them. -/
theorem extendOrder_known {order : List OrderTerm} {names : List String}
    (known : OrderKnown entity order)
    (fields : ∀ name ∈ names, ∃ field, entity.field? name = some field) :
    OrderKnown entity (extendOrder order names) ∧
      (∀ term ∈ order, term ∈ extendOrder order names) ∧
      ∀ name ∈ names, ∃ term ∈ extendOrder order names, term.field = name := by
  refine ⟨?_, extendOrder_extends order names⟩
  induction names generalizing order with
  | nil => exact known
  | cons name rest ih =>
    obtain ⟨⟨field, found⟩, others⟩ := List.forall_mem_cons.1 fields
    rw [extendOrder, List.foldl_cons, ← extendOrder]
    split
    · exact ih known others
    · exact ih (known.append found .ascending) others

theorem mem_extendOrder {order : List OrderTerm} {names : List String} {term : OrderTerm}
    (member : term ∈ extendOrder order names) : term ∈ order ∨ term.field ∈ names := by
  induction names generalizing order with
  | nil => exact .inl member
  | cons name rest ih =>
    rw [extendOrder, List.foldl_cons, ← extendOrder] at member
    rcases ih member with before | behind
    · split at before
      · exact .inl before
      · rcases List.mem_append.1 before with before | last
        · exact .inl before
        · exact .inr (List.mem_singleton.1 last ▸ List.mem_cons_self)
    · exact .inr (List.mem_cons_of_mem _ behind)

theorem readFieldNames_known {names earlier result : List String}
    (known : ∀ name ∈ earlier, ∃ field, entity.field? name = some field)
    (read : readFieldNames entity names earlier = .ok result) :
    ∀ name ∈ result, ∃ field, entity.field? name = some field := by
  induction names generalizing earlier with
  | nil =>
    cases read
    exact known
  | cons name rest ih =>
    rw [readFieldNames] at read
    split at read
    · contradiction
    · next present =>
      refine ih (fun other member => ?_) read
      split at member
      · exact known other member
      · rcases List.mem_append.1 member with before | last
        · exact known other before
        · rw [List.mem_singleton.1 last]
          exact Option.ne_none_iff_exists'.1 (by simpa using present)

/-! ## Plans -/

/-- What is checked of a plan. -/
structure Plan.Checked (entity : Entity) (plan : Plan) : Prop where
  filter_suits : ∀ condition ∈ plan.filter.leaves, condition.Suits entity
  order_known : OrderKnown entity plan.order
  order_ends : ∀ name ∈ entity.identity, ∃ term ∈ plan.order, term.field = name
  cursor_holds : ∀ cursor, plan.cursor? = some cursor → ∀ name value,
    cursor.key.get? name = some value →
      ∃ field, entity.field? name = some field ∧ field.kind.Holds value

theorem Query.read_known {limits : Limits} {arguments : FieldMap Json} {query : Query}
    (read : Query.read entity limits arguments = .ok query) : OrderKnown entity query.order := by
  simp only [Query.read, bind_eq_ok, pure_eq_ok] at read
  obtain ⟨_, -, order, orderRead, _, -, _, -, rfl⟩ := read
  exact readOrder_known orderRead

/-- A plan has the order that was asked for, ended with the identity. -/
theorem Query.order_of_plan {query : Query} {limits : Limits} {default? : Option Nat} {plan : Plan}
    (planned : query.plan entity limits default? = .ok plan) :
    plan.order = canonicalOrder entity query.order := by
  unfold Query.plan at planned
  split at planned
  · contradiction
  split at planned
  · contradiction
  · cases planned
    rfl

theorem planTake_le {limits : Limits} {default? : Option Nat} {hasCursor : Bool}
    {take? : Option Int} {direction : ScanDirection} {size : Nat}
    (planned : planTake limits default? hasCursor take? = .ok (direction, some size)) :
    size ≤ limits.maxPageSize ∨ default? = some size := by
  unfold planTake at planned
  split at planned
  · cases planned
    exact .inr rfl
  · split at planned
    · contradiction
    · split at planned
      · contradiction
      · cases planned
        exact .inl (by omega)

/-- A query that has been read gives a checked plan, with a page of at most the maximal size or of the
default size. -/
theorem Query.plan_checked (wellFormed : entity.WellFormed) {limits : Limits}
    {arguments : FieldMap Json} {query : Query} (read : Query.read entity limits arguments = .ok query)
    {take? : Option Int} {default? : Option Nat} {plan : Plan}
    (planned : { query with take? := take? }.plan entity limits default? = .ok plan) :
    plan.Checked entity ∧
      ∀ size, plan.page.take? = some size → size ≤ limits.maxPageSize ∨ default? = some size := by
  simp only [Query.read, bind_eq_ok, pure_eq_ok] at read
  obtain ⟨filter, filterRead, order, orderRead, cursor?, cursorRead, distinct, -, rfl⟩ := read
  unfold Query.plan at planned
  split at planned
  · contradiction
  split at planned
  · contradiction
  · next page =>
    cases planned
    have fields := fun name member =>
      (wellFormed.identity_fields name member).imp fun _ found => found.1
    obtain ⟨known, -, ends⟩ := extendOrder_known (readOrder_known orderRead) fields
    refine ⟨⟨Filter.read_suits filterRead, known, ends, ?_⟩, ?_⟩
    · rintro cursor rfl
      obtain ⟨raw, -, cursorRead⟩ := optionMapM_eq_ok cursorRead
      exact (Address.read_holds cursorRead).1
    · rintro size rfl
      exact planTake_le page

end RecordStore
