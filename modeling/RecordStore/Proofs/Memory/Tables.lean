import RecordStore.Proofs.Memory.Addresses

/-! # What the operations on a table do

One lemma for each operation on one row says everything that the operation can do, its checks
included: it writes once and succeeds, or it fails and has not written.  The operations on several
rows are made of these, so that what holds of a table after one step holds after a batch.

* `Changes.Makes` says what changes do to a row, field by field.
* `insert_cases`, `changeAt_cases` take a step apart.
* `updateFrom_induction`, `insertMany_induction` carry a property of tables through a batch, also
  through one that breaks off.
* `insertMany_cons` takes a batch of insertions apart at its first row, and `insertMany_append_of_ok`
  behind any of them.
-/

namespace RecordStore

/-! ## Changes of a row -/

namespace Changes

/-- Whether a row is another one with changes: a field that they name has what its change makes of
the old value, and every other field is as it was. -/
structure Makes (changes : Changes) (row changed : Record) : Prop where
  named : ∀ name change, changes.byField.get? name = some change →
    ∃ value, change.apply name (row.valueAt name) = .ok value ∧ changed.get? name = some value
  others : ∀ name, changes.byField.get? name = none → changed.get? name = row.get? name

theorem applyFrom_get? {before row result : Record} {entries : List (String × Change)}
    (sorted : entries.Pairwise fun a b => a.1 < b.1)
    (applied : applyFrom before entries row = .ok result) (name : String) :
    match lookupEntry name entries with
    | none => result.get? name = row.get? name
    | some change => ∃ value,
        change.apply name (before.valueAt name) = .ok value ∧ result.get? name = some value := by
  induction entries generalizing row with
  | nil => cases applied; rfl
  | cons entry rest ih =>
    obtain ⟨first, change⟩ := entry
    obtain ⟨behind, restSorted⟩ := List.pairwise_cons.1 sorted
    unfold applyFrom at applied
    split at applied
    · contradiction
    · next value changed =>
      have later := ih restSorted applied
      rw [lookupEntry]
      by_cases same : name = first
      · -- The names behind are greater, so that what has been changed here stays.
        rw [same, lookupEntry_of_forall_lt behind, FieldMap.get?_insert, if_pos rfl] at later
        rw [if_pos same, same]
        exact ⟨value, changed, later⟩
      · rw [FieldMap.get?_insert, if_neg same] at later
        rw [if_neg same]
        exact later

variable {changes : Changes} {row changed : Record}

theorem apply_makes (applied : changes.apply row = .ok changed) : changes.Makes row changed where
  named name change bound := by
    have effect := applyFrom_get? changes.byField.sorted applied name
    rw [FieldMap.get?] at bound
    rwa [bound] at effect
  others name unbound := by
    have effect := applyFrom_get? changes.byField.sorted applied name
    rw [FieldMap.get?] at unbound
    rwa [unbound] at effect

theorem Makes.valueAt (makes : changes.Makes row changed) (name : String) :
    match changes.byField.get? name with
    | none => changed.valueAt name = row.valueAt name
    | some change => change.apply name (row.valueAt name) = .ok (changed.valueAt name) := by
  cases bound : changes.byField.get? name with
  | none => rw [FieldMap.valueAt, FieldMap.valueAt, makes.others name bound]
  | some change =>
    obtain ⟨value, made, found⟩ := makes.named name change bound
    rw [FieldMap.valueAt, found]
    exact made

/-- A list of changes is refused for one of them. -/
theorem applyFrom_eq_error {before row : Record} {entries : List (String × Change)}
    {error : StoreError} (refused : applyFrom before entries row = .error error) :
    ∃ entry ∈ entries, entry.2.apply entry.1 (before.valueAt entry.1) = .error error := by
  induction entries generalizing row with
  | nil => contradiction
  | cons entry rest ih =>
    unfold applyFrom at refused
    split at refused
    · next failed =>
      cases refused
      exact ⟨entry, List.mem_cons_self, failed⟩
    · obtain ⟨other, member, failed⟩ := ih refused
      exact ⟨other, List.mem_cons_of_mem _ member, failed⟩

/-- Changes are refused where arithmetic has no result. -/
theorem apply_eq_error {error : StoreError} (refused : changes.apply row = .error error) :
    ∃ name op operand, changes.byField.get? name = some (.relative op operand) ∧
      Value.arithmetic? op (row.valueAt name) operand = none ∧
      error = .query (.arithmetic (Change.operatorName op) name operand.text) := by
  obtain ⟨⟨name, change⟩, member, failed⟩ := applyFrom_eq_error refused
  cases change with
  | set => contradiction
  | relative op operand =>
    simp only [Change.apply] at failed
    split at failed
    · contradiction
    · next none =>
      cases failed
      exact ⟨name, op, operand, FieldMap.get?_eq_some.2 member, none, rfl⟩

end Changes

namespace Table

/-! ## Looking a row up -/

theorem splitAtFirst_eq_some {test : Record → Bool} {rows front back : Table} {row : Record}
    (split : splitAtFirst test rows = some (front, row, back)) :
    rows = front ++ row :: back ∧ test row = true ∧ ∀ other ∈ front, test other = false := by
  induction rows generalizing front with
  | nil => contradiction
  | cons first rest ih =>
    unfold splitAtFirst at split
    split at split
    · next accepted => cases split; exact ⟨rfl, accepted, by simp⟩
    · next rejected =>
      obtain ⟨⟨restFront, found, restBack⟩, restSplit, equal⟩ := Option.map_eq_some_iff.1 split
      simp only [Prod.mk.injEq] at equal
      obtain ⟨rfl, rfl, rfl⟩ := equal
      obtain ⟨rfl, accepted, before⟩ := ih restSplit
      refine ⟨rfl, accepted, ?_⟩
      rw [List.forall_mem_cons]
      exact ⟨by simpa using rejected, before⟩

theorem map_splitAtFirst (test : Record → Bool) (rows : Table) :
    (splitAtFirst test rows).map (fun parts => parts.2.1) = rows.find? test := by
  induction rows with
  | nil => rfl
  | cons first rest ih =>
    unfold splitAtFirst
    cases accepted : test first with
    | true => simp [accepted]
    | false => simp [accepted, ← ih, Function.comp_def]

theorem splitAtFirst_eq_none_iff {test : Record → Bool} {rows : Table} :
    splitAtFirst test rows = none ↔ ∀ row ∈ rows, test row = false := by
  rw [← Option.map_eq_none_iff, map_splitAtFirst]
  simp

/-! ## Refusals -/

theorem checkUnique_eq_error {entity : Entity} {others : Table} {row : Record} {error : StoreError}
    (refused : checkUnique entity others row = .error error) :
    ∃ key, collision? entity others row = some key ∧ error = .uniqueViolation key := by
  unfold checkUnique at refused
  split at refused
  · contradiction
  · next key collided =>
    cases refused
    exact ⟨key, collided, rfl⟩

/-- A number is refused where there is none, and never for the key that it would be part of. -/
theorem assignNumbers_eq_error {entity : Entity} {rows : Table} {fields : List String} {row : Record}
    {error : StoreError} (refused : assignNumbers entity rows fields row = .error error) :
    ∃ field, error = .query (.sequenceExhausted field) := by
  induction fields generalizing row with
  | nil => contradiction
  | cons field rest ih =>
    unfold assignNumbers at refused
    split at refused
    · next full =>
      cases refused
      unfold nextNumber at full
      simp only at full
      split at full
      · contradiction
      · cases full
        exact ⟨field, rfl⟩
    · exact ih refused

/-! ## Steps on one row -/

theorem insert_cases (entity : Entity) (now : Readings) (insertion : Insertion) (rows : Table) :
    (∃ row, newRow entity now insertion rows = .ok row ∧ checkUnique entity rows row = .ok () ∧
      insert entity now insertion rows = (.ok row, rows ++ [row])) ∨
    (∃ error, (newRow entity now insertion rows = .error error ∨
        ∃ row, newRow entity now insertion rows = .ok row ∧
          checkUnique entity rows row = .error error) ∧
      insert entity now insertion rows = (.error error, rows)) := by
  unfold insert
  cases new : newRow entity now insertion rows with
  | error error => exact .inr ⟨error, .inl rfl, rfl⟩
  | ok row =>
    simp only
    cases checked : checkUnique entity rows row with
    | error error => exact .inr ⟨error, .inr ⟨row, rfl, checked⟩, rfl⟩
    | ok => exact .inl ⟨row, rfl, checked, rfl⟩

theorem changeAt_cases (entity : Entity) (changes : Changes) (front : Table) (row : Record)
    (back : Table) :
    (∃ changed, changes.apply row = .ok changed ∧
      checkUnique entity (front ++ back) changed = .ok () ∧
      changeAt entity changes front row back = (.ok changed, front ++ changed :: back)) ∨
    (∃ error, (changes.apply row = .error error ∨
        ∃ changed, changes.apply row = .ok changed ∧
          checkUnique entity (front ++ back) changed = .error error) ∧
      changeAt entity changes front row back = (.error error, front ++ row :: back)) := by
  unfold changeAt
  cases applied : changes.apply row with
  | error error => exact .inr ⟨error, .inl rfl, rfl⟩
  | ok changed =>
    simp only
    cases checked : checkUnique entity (front ++ back) changed with
    | error error => exact .inr ⟨error, .inr ⟨changed, rfl, checked⟩, rfl⟩
    | ok => exact .inl ⟨changed, rfl, checked, rfl⟩

/-! ## Batches -/

/-- What every insertion keeps, a batch of insertions keeps. -/
theorem insertMany_induction {entity : Entity} {clock : Clock} {skipDuplicates : Bool}
    (motive : Table → Prop) {n : Nat} {insertions : List Insertion}
    (step : ∀ now, ∀ insertion ∈ insertions, ∀ rows, motive rows →
      motive (insert entity now insertion rows).2)
    {rows : Table} (start : motive rows) :
    motive (insertMany entity clock skipDuplicates n insertions rows).2 := by
  induction insertions generalizing n rows with
  | nil => exact start
  | cons insertion rest ih =>
    -- The first insertion has written or not; either way the rest starts from a table of the motive.
    have first := step (clock n) insertion List.mem_cons_self rows start
    have others : ∀ n rows, motive rows →
        motive (insertMany entity clock skipDuplicates n rest rows).2 := fun _ _ =>
      ih (fun now other member => step now other (List.mem_cons_of_mem _ member))
    unfold insertMany
    split
    · next inserted =>
      rw [inserted] at first
      have done := others (n + 1) _ first
      split <;> next batch => rw [batch] at done; exact done
    · next refused =>
      rw [refused] at first
      split
      · exact others (n + 1) _ first
      · exact first
    · next refused =>
      rw [refused] at first
      exact first

/-- What comes of a batch that goes on behind rows that have been counted. -/
def countOn (count : Nat) (answer : Except StoreError Nat × Table) : Except StoreError Nat × Table :=
  (answer.1.map (count + ·), answer.2)

theorem countOn_zero (answer : Except StoreError Nat × Table) : countOn 0 answer = answer := by
  rcases answer with ⟨_ | _, _⟩ <;> simp [countOn, Except.map]

theorem countOn_countOn (m n : Nat) (answer : Except StoreError Nat × Table) :
    countOn m (countOn n answer) = countOn (m + n) answer := by
  rcases answer with ⟨_ | _, _⟩ <;> simp [countOn, Except.map, Nat.add_assoc]

theorem countOn_eq_ok_iff {count total : Nat} {answer : Except StoreError Nat × Table} {after : Table} :
    countOn count answer = (.ok total, after) ↔
      ∃ more, answer = (.ok more, after) ∧ total = count + more := by
  rcases answer with ⟨_ | _, _⟩ <;> simp [countOn, Except.map, eq_comm, and_comm]

theorem countOn_eq_error_iff {count : Nat} {answer : Except StoreError Nat × Table}
    {error : StoreError} : (countOn count answer).1 = .error error ↔ answer.1 = .error error := by
  rcases answer with ⟨_ | _, _⟩ <;> simp [countOn, Except.map]

/-- Whether a batch ends where a row is refused: one that skips duplicates goes on behind a collision. -/
def endsBatch (skipDuplicates : Bool) : StoreError → Bool
  | .uniqueViolation _ => !skipDuplicates
  | _ => true

theorem endsBatch_eq_false_iff {skipDuplicates : Bool} {error : StoreError} :
    endsBatch skipDuplicates error = false ↔
      skipDuplicates = true ∧ ∃ key, error = .uniqueViolation key := by
  cases error <;> simp [endsBatch]

/-- A batch does what its first row does, and goes on unless that ends it. -/
theorem insertMany_cons (entity : Entity) (clock : Clock) (skipDuplicates : Bool) (n : Nat)
    (insertion : Insertion) (rest : List Insertion) (rows : Table) :
    insertMany entity clock skipDuplicates n (insertion :: rest) rows =
      match (insert entity (clock n) insertion rows).1 with
      | .ok row => countOn 1 (insertMany entity clock skipDuplicates (n + 1) rest (rows ++ [row]))
      | .error error =>
        if endsBatch skipDuplicates error then (.error error, rows)
        else countOn 0 (insertMany entity clock skipDuplicates (n + 1) rest rows) := by
  rw [insertMany]
  cases insert_cases entity (clock n) insertion rows with
  | inl stored =>
    obtain ⟨row, -, -, run⟩ := stored
    rw [run]
    simp only
    rcases insertMany entity clock skipDuplicates (n + 1) rest (rows ++ [row]) with ⟨_ | _, _⟩ <;>
      simp [countOn, Except.map, Nat.add_comm]
  | inr refused =>
    obtain ⟨error, -, run⟩ := refused
    rw [run, countOn_zero]
    cases error with
    | uniqueViolation key => cases skipDuplicates <;> rfl
    | _ => rfl

/-- A batch goes on behind its first row, which it has stored or skipped, or it ends there. -/
theorem insertMany_cons_cases (entity : Entity) (clock : Clock) (skipDuplicates : Bool) (n : Nat)
    (insertion : Insertion) (rows : Table) :
    (∃ row, insert entity (clock n) insertion rows = (.ok row, rows ++ [row]) ∧
      ∀ rest, insertMany entity clock skipDuplicates n (insertion :: rest) rows
        = countOn 1 (insertMany entity clock skipDuplicates (n + 1) rest (rows ++ [row]))) ∨
    (∃ key, insert entity (clock n) insertion rows = (.error (.uniqueViolation key), rows) ∧
      ∀ rest, insertMany entity clock skipDuplicates n (insertion :: rest) rows
        = countOn 0 (insertMany entity clock skipDuplicates (n + 1) rest rows)) ∨
    ∃ error, insert entity (clock n) insertion rows = (.error error, rows) ∧
      ∀ rest, insertMany entity clock skipDuplicates n (insertion :: rest) rows
        = (.error error, rows) := by
  simp only [insertMany_cons]
  cases insert_cases entity (clock n) insertion rows with
  | inl stored =>
    obtain ⟨row, -, -, run⟩ := stored
    left
    exact ⟨row, run, fun rest => by rw [run]⟩
  | inr refused =>
    obtain ⟨error, -, run⟩ := refused
    right
    cases ends : endsBatch skipDuplicates error with
    | true =>
      right
      exact ⟨error, run, fun rest => by rw [run]; simp only [ends, if_true]⟩
    | false =>
      obtain ⟨-, key, rfl⟩ := endsBatch_eq_false_iff.1 ends
      left
      exact ⟨key, run, fun rest => by rw [run]; simp only [ends, Bool.false_eq_true, if_false]⟩

/-- A batch goes on with the table that its first row has left, or it ends there. -/
theorem insertMany_cons_goesOn_or (entity : Entity) (clock : Clock) (skipDuplicates : Bool) (n : Nat)
    (insertion : Insertion) (rows : Table) :
    (∃ count, ∀ rest, insertMany entity clock skipDuplicates n (insertion :: rest) rows
      = countOn count (insertMany entity clock skipDuplicates (n + 1) rest
          (insert entity (clock n) insertion rows).2)) ∨
    ∃ error, insert entity (clock n) insertion rows = (.error error, rows) ∧
      ∀ rest, insertMany entity clock skipDuplicates n (insertion :: rest) rows
        = (.error error, rows) := by
  rcases insertMany_cons_cases entity clock skipDuplicates n insertion rows with
    ⟨row, run, goesOn⟩ | ⟨key, run, goesOn⟩ | ends
  · exact .inl ⟨1, by rwa [run]⟩
  · exact .inl ⟨0, by rwa [run]⟩
  · exact .inr ends

/-- A batch finds the table that the rows in front of it have left. -/
theorem insertMany_append_of_ok {entity : Entity} {clock : Clock} {skipDuplicates : Bool}
    {n count : Nat} {front : List Insertion} {rows table : Table}
    (ran : insertMany entity clock skipDuplicates n front rows = (.ok count, table))
    (back : List Insertion) :
    insertMany entity clock skipDuplicates n (front ++ back) rows
      = countOn count (insertMany entity clock skipDuplicates (n + front.length) back table) := by
  induction front generalizing n rows count with
  | nil =>
    cases ran
    exact (countOn_zero _).symm
  | cons insertion front ih =>
    have place : n + (insertion :: front).length = n + 1 + front.length := by
      rw [List.length_cons]
      omega
    rw [List.cons_append, place]
    rcases insertMany_cons_goesOn_or entity clock skipDuplicates n insertion rows with
      ⟨first, goesOn⟩ | ⟨error, -, ends⟩
    · rw [goesOn, countOn_eq_ok_iff] at ran
      obtain ⟨more, restRan, rfl⟩ := ran
      rw [goesOn, ih restRan, countOn_countOn]
    · rw [ends] at ran
      cases ran

/-- What every change of one row keeps, a change of many rows keeps. -/
theorem updateFrom_induction {entity : Entity} {changes : Changes} {test : Record → Bool}
    (motive : Table → Prop)
    (step : ∀ front row back, motive (front ++ row :: back) →
      motive (changeAt entity changes front row back).2)
    {done rows : Table} (start : motive (done ++ rows)) :
    motive (updateFrom entity changes test done rows).2 := by
  induction rows generalizing done with
  | nil => simpa [updateFrom] using start
  | cons row rest ih =>
    unfold updateFrom
    split
    · have changedOne := step done row rest start
      rcases changeAt_cases entity changes done row rest with
        ⟨changed, -, -, run⟩ | ⟨error, -, run⟩
      · rw [run] at changedOne ⊢
        -- The row that was changed joins those that are done, and the table is the same.
        have whole : motive ((done ++ [changed]) ++ rest) := by simpa using changedOne
        have all := ih whole
        simp only
        split <;> next batch => rw [batch] at all; exact all
      · rw [run] at changedOne ⊢
        exact changedOne
    · exact ih (by simpa using start)

end Table

end RecordStore
