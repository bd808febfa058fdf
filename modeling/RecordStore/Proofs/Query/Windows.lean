import RecordStore.Proofs.Comparison.Rows
import RecordStore.Query.Window

/-! # Windows in the direction of the scan

A backward window is cut by a walk up to the cursor and read from its end.  `Plan.window_eq` says that
this is the forward rule on reversed rows: arrange the rows in the direction of the scan, drop those
before the cursor, take the page, and arrange it back.  An address that two rows have spoils it, for
then the two walks stop at different rows.
-/

namespace RecordStore

theorem filter_eq_singleton {α : Type} {test : α → Bool} {items : List α}
    (single : (items.filter test).length ≤ 1) {a : α} (member : a ∈ items)
    (accepted : test a = true) : items.filter test = [a] := by
  have inFilter := List.mem_filter.2 ⟨member, accepted⟩
  obtain ⟨only, found⟩ :=
    List.length_eq_one_iff.1 (Nat.le_antisymm single (List.length_pos_of_mem inFilter))
  rw [found, List.mem_singleton] at inFilter
  rw [found, inFilter]

theorem eq_of_length_filter_le_one {α : Type} {test : α → Bool} {items : List α}
    (single : (items.filter test).length ≤ 1) {a b : α} (memberA : a ∈ items) (memberB : b ∈ items)
    (acceptedA : test a = true) (acceptedB : test b = true) : a = b := by
  have inA := List.mem_filter.2 ⟨memberA, acceptedA⟩
  rw [filter_eq_singleton single memberB acceptedB, List.mem_singleton] at inA
  exact inA

theorem find?_eq_some_of_single {α : Type} {test : α → Bool} {items : List α}
    (single : (items.filter test).length ≤ 1) {a : α} (member : a ∈ items)
    (accepted : test a = true) : items.find? test = some a := by
  rw [← List.head?_filter, filter_eq_singleton single member accepted]
  rfl

/-- Rows in the direction of a scan; twice, the rows as they were. -/
def ScanDirection.arrange {α : Type} (direction : ScanDirection) (rows : List α) : List α :=
  match direction with
  | .forward => rows
  | .backward => rows.reverse

theorem ScanDirection.filter_arrange {α : Type} (direction : ScanDirection) (test : α → Bool)
    (rows : List α) : (direction.arrange rows).filter test = direction.arrange (rows.filter test) := by
  cases direction
  · rfl
  · exact List.filter_reverse

@[simp] theorem ScanDirection.arrange_arrange {α : Type} (direction : ScanDirection)
    (rows : List α) : direction.arrange (direction.arrange rows) = rows := by
  cases direction
  · rfl
  · exact List.reverse_reverse rows

@[simp] theorem ScanDirection.arrange_nil {α : Type} (direction : ScanDirection) :
    direction.arrange ([] : List α) = [] := by
  cases direction <;> rfl

@[simp] theorem ScanDirection.length_arrange {α : Type} (direction : ScanDirection)
    (rows : List α) : (direction.arrange rows).length = rows.length := by
  cases direction
  · rfl
  · exact List.length_reverse

namespace Plan

/-- The rows from the cursor on, of rows in the direction of the scan. -/
def fromScan (plan : Plan) (rows : List Record) : List Record :=
  match plan.cursor? with
  | none => rows
  | some cursor => rows.dropWhile fun row => !cursor.isOf row

theorem upTo_reverse {test : Record → Bool} {rows : List Record}
    (single : (rows.filter test).length ≤ 1) :
    (upTo test rows).reverse = rows.reverse.dropWhile fun row => !test row := by
  induction rows with
  | nil => rfl
  | cons row rest ih =>
    rw [List.reverse_cons, upTo]
    cases accepted : test row with
    | true =>
      -- The walk stops here, and in the reversed rows nothing before this row is accepted.
      have others : ∀ other ∈ rest.reverse, (!test other) = true := by
        rw [List.filter_cons_of_pos accepted, List.length_cons] at single
        have none := List.length_eq_zero_iff.1 (Nat.le_zero.1 (Nat.le_of_succ_le_succ single))
        intro other member
        simpa using List.filter_eq_nil_iff.1 none other (List.mem_reverse.1 member)
      rw [if_pos rfl, List.dropWhile_append_of_pos others,
        List.dropWhile_cons_of_neg (by simp [accepted])]
      rfl
    | false =>
      rw [List.filter_cons_of_neg (by simp [accepted])] at single
      have ih := ih single
      rw [if_neg Bool.false_ne_true, List.dropWhile_append, ← ih]
      cases upTo test rest with
      | nil => simp [accepted]
      | cons first others => simp

theorem window_eq {plan : Plan} {rows : List Record}
    (single : ∀ cursor, plan.cursor? = some cursor → (rows.filter cursor.isOf).length ≤ 1) :
    plan.window rows = plan.page.direction.arrange
      (plan.paginate (plan.fromScan (plan.page.direction.arrange rows))) := by
  unfold window fromCursor fromScan
  cases hdirection : plan.page.direction <;> cases hcursor : plan.cursor?
  case backward.some cursor =>
    simp only [ScanDirection.arrange, upTo_reverse (single cursor hcursor)]
  all_goals rfl

/-! ## Rows of a window -/

theorem keepDistinct_sublist (fields : List String) (rows : List Record) :
    (keepDistinct fields rows).Sublist rows := by
  have firsts : ∀ seen rows, (firstOfEach fields seen rows).Sublist rows := by
    intro seen rows
    induction rows generalizing seen with
    | nil => exact .slnil
    | cons row rest ih =>
      rw [firstOfEach]
      split
      · exact (ih seen).cons row
      · exact (ih _).cons_cons row
  unfold keepDistinct
  split
  · exact .refl rows
  · exact firsts [] rows

theorem takeAtMost_sublist {α : Type} (bound? : Option Nat) (items : List α) :
    (takeAtMost bound? items).Sublist items := by
  unfold takeAtMost
  split
  · exact .refl _
  · exact List.take_sublist _ _

theorem paginate_sublist_keepDistinct (plan : Plan) (rows : List Record) :
    (plan.paginate rows).Sublist (keepDistinct plan.distinct rows) :=
  (takeAtMost_sublist _ _).trans (List.drop_sublist _ _)

theorem paginate_sublist (plan : Plan) (rows : List Record) :
    (plan.paginate rows).Sublist rows :=
  (plan.paginate_sublist_keepDistinct rows).trans (keepDistinct_sublist _ _)

theorem upTo_sublist (test : Record → Bool) (rows : List Record) :
    (upTo test rows).Sublist rows := by
  induction rows with
  | nil => exact .slnil
  | cons row rest ih =>
    unfold upTo
    split
    · simp
    · cases tail : upTo test rest with
      | nil => simp
      | cons first others =>
        rw [tail] at ih
        exact ih.cons_cons row

theorem fromCursor_sublist (plan : Plan) (rows : List Record) :
    (plan.fromCursor rows).Sublist rows := by
  unfold fromCursor
  split
  · exact .refl rows
  · split
    · exact List.dropWhile_sublist _
    · exact upTo_sublist _ rows

theorem window_sublist (plan : Plan) (rows : List Record) : (plan.window rows).Sublist rows := by
  have cursor := plan.fromCursor_sublist rows
  unfold window
  split
  · exact (plan.paginate_sublist _).trans cursor
  · have backward := (plan.paginate_sublist (plan.fromCursor rows).reverse).reverse
    rw [List.reverse_reverse] at backward
    exact backward.trans cursor

/-- A plan gives only rows of the table. -/
theorem mem_of_mem_run {plan : Plan} {rows : List Record} {row : Record}
    (member : row ∈ plan.run rows) : row ∈ rows := by
  have sorted := (plan.window_sublist _).subset member
  exact (List.mem_filter.1 ((List.mergeSort_perm _ _).mem_iff.1 sorted)).1

end Plan

end RecordStore
