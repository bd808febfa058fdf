import RecordStore.Proofs.Memory.Effects
import RecordStore.Proofs.Memory.Paging

/-! # A batch of creations is one creation after another

A batch works on a copy of a table and ends at the first row that it neither stores nor skips.  Creating
the same rows one by one works on the table itself and stops at nothing.  The two come to the same as
long as the batch goes on; where it ends, it leaves nothing behind, and fails for the reason for which
the creation of that row fails.

* `insertEach` are the attempts to store rows one by one.
* `insertMany_of_goesOn` and `insertMany_of_ends` compare a batch with them, by induction on the rows.
-/

namespace RecordStore

/-! ## Tables -/

namespace Table

variable {entity : Entity} {clock : Clock} {skipDuplicates : Bool}

/-- Attempts to store new rows one after the other, whatever comes of each; the `n`-th row has the
`n`-th readings of the clock. -/
def insertEach (entity : Entity) (clock : Clock) :
    Nat → List Insertion → Table → List (Except StoreError Record) × Table
  | _, [], rows => ([], rows)
  | n, insertion :: rest, rows =>
    let attempt := insert entity (clock n) insertion rows
    let later := insertEach entity clock (n + 1) rest attempt.2
    (attempt.1 :: later.1, later.2)

/-- The rows that attempts have stored. -/
def stored (attempts : List (Except StoreError Record)) : Table :=
  attempts.filterMap Except.toOption

/-- Whether a batch goes on behind an attempt: it has stored a row, or left out one that collides. -/
def GoesOn (skipDuplicates : Bool) (attempt : Except StoreError Record) : Prop :=
  ∀ error, attempt = .error error → endsBatch skipDuplicates error = false

theorem goesOn_ok (skipDuplicates : Bool) (row : Record) : GoesOn skipDuplicates (.ok row) := nofun

theorem goesOn_error_iff {error : StoreError} :
    GoesOn skipDuplicates (.error error) ↔ endsBatch skipDuplicates error = false := by
  constructor
  · intro goesOn
    exact goesOn error rfl
  · intro skipped other same
    cases same
    exact skipped

/-- A batch that skips nothing goes on behind rows that are stored, and behind nothing else. -/
theorem goesOn_false_iff {attempt : Except StoreError Record} :
    GoesOn false attempt ↔ ∃ row, attempt = .ok row := by
  cases attempt with
  | ok row => simp [goesOn_ok]
  | error error =>
    rw [goesOn_error_iff, endsBatch_eq_false_iff]
    simp

theorem exists_first_end {attempts : List (Except StoreError Record)}
    (ends : ¬ ∀ attempt ∈ attempts, GoesOn skipDuplicates attempt) :
    ∃ front error back, attempts = front ++ .error error :: back ∧
      (∀ attempt ∈ front, GoesOn skipDuplicates attempt) ∧ endsBatch skipDuplicates error = true := by
  induction attempts with
  | nil => simp at ends
  | cons attempt rest ih =>
    by_cases goesOn : GoesOn skipDuplicates attempt
    · rw [List.forall_mem_cons] at ends
      obtain ⟨front, error, back, rfl, before, atEnd⟩ := ih fun all => ends ⟨goesOn, all⟩
      refine ⟨attempt :: front, error, back, rfl, ?_, atEnd⟩
      rw [List.forall_mem_cons]
      exact ⟨goesOn, before⟩
    · cases attempt with
      | ok row => exact absurd (goesOn_ok _ row) goesOn
      | error error =>
        rw [goesOn_error_iff, Bool.not_eq_false] at goesOn
        exact ⟨[], error, rest, rfl, by simp, goesOn⟩

theorem length_stored {attempts : List (Except StoreError Record)}
    (all : ∀ attempt ∈ attempts, ∃ row, attempt = .ok row) :
    (stored attempts).length = attempts.length := by
  induction attempts with
  | nil => rfl
  | cons attempt rest ih =>
    obtain ⟨⟨row, rfl⟩, restAll⟩ := List.forall_mem_cons.1 all
    exact congrArg Nat.succ (ih restAll)

section Attempts

variable (entity clock) (n : Nat) (insertions : List Insertion) (rows : Table)

/-- The rows that attempts have stored stand behind the others. -/
theorem insertEach_table :
    (insertEach entity clock n insertions rows).2
      = rows ++ stored (insertEach entity clock n insertions rows).1 := by
  induction insertions generalizing n rows with
  | nil => exact (List.append_nil rows).symm
  | cons insertion rest ih =>
    simp only [insertEach]
    rw [ih]
    cases insert_cases entity (clock n) insertion rows with
    | inl succeeded =>
      obtain ⟨row, -, -, run⟩ := succeeded
      rw [run, List.append_assoc]
      rfl
    | inr refused =>
      obtain ⟨error, -, run⟩ := refused
      rw [run]
      rfl

theorem insertEach_append (more : List Insertion) :
    (insertEach entity clock n (insertions ++ more) rows).1
      = (insertEach entity clock n insertions rows).1 ++
        (insertEach entity clock (n + insertions.length) more
          (insertEach entity clock n insertions rows).2).1 := by
  induction insertions generalizing n rows with
  | nil => rfl
  | cons insertion rest ih =>
    have place : n + (insertion :: rest).length = n + 1 + rest.length := by
      rw [List.length_cons]
      omega
    rw [List.cons_append, place]
    simp only [insertEach]
    rw [ih]
    rfl

end Attempts

variable {n : Nat} {insertions : List Insertion} {rows : Table}

/-- A batch that never ends comes to what the attempts come to. -/
theorem insertMany_of_goesOn
    (goesOn : ∀ attempt ∈ (insertEach entity clock n insertions rows).1,
      GoesOn skipDuplicates attempt) :
    insertMany entity clock skipDuplicates n insertions rows
      = (.ok (stored (insertEach entity clock n insertions rows).1).length,
          (insertEach entity clock n insertions rows).2) := by
  induction insertions generalizing n rows with
  | nil => rfl
  | cons insertion rest ih =>
    simp only [insertEach, List.forall_mem_cons] at goesOn ⊢
    obtain ⟨first, others⟩ := goesOn
    rw [insertMany_cons]
    cases insert_cases entity (clock n) insertion rows with
    | inl succeeded =>
      obtain ⟨row, -, -, run⟩ := succeeded
      rw [run] at others ⊢
      simp only
      rw [ih others, countOn_eq_ok_iff]
      exact ⟨_, rfl, Nat.add_comm _ _⟩
    | inr refused =>
      obtain ⟨error, -, run⟩ := refused
      rw [run] at first others ⊢
      simp only [goesOn_error_iff.1 first, Bool.false_eq_true, if_false]
      rw [ih others, countOn_zero]
      rfl

/-- A batch that ends fails for the reason of the first attempt that ends it. -/
theorem insertMany_of_ends {front back : List (Except StoreError Record)} {error : StoreError}
    (attempts : (insertEach entity clock n insertions rows).1 = front ++ .error error :: back)
    (goesOn : ∀ attempt ∈ front, GoesOn skipDuplicates attempt)
    (ends : endsBatch skipDuplicates error = true) :
    (insertMany entity clock skipDuplicates n insertions rows).1 = .error error := by
  induction insertions generalizing n rows front with
  | nil => simp [insertEach] at attempts
  | cons insertion rest ih =>
    simp only [insertEach] at attempts
    rw [insertMany_cons]
    cases front with
    | nil =>
      obtain ⟨first, -⟩ := List.cons.inj attempts
      rw [first]
      simp only [ends, if_true]
    | cons attempt front =>
      obtain ⟨rfl, later⟩ := List.cons.inj attempts
      obtain ⟨firstGoesOn, others⟩ := List.forall_mem_cons.1 goesOn
      cases insert_cases entity (clock n) insertion rows with
      | inl succeeded =>
        obtain ⟨row, -, -, run⟩ := succeeded
        rw [run] at later ⊢
        simp only [countOn_eq_error_iff]
        exact ih later others
      | inr refused =>
        obtain ⟨other, -, run⟩ := refused
        rw [run] at firstGoesOn later ⊢
        simp only [goesOn_error_iff.1 firstGoesOn, Bool.false_eq_true, if_false,
          countOn_eq_error_iff]
        exact ih later others

/-- A row is refused as a duplicate where it has its numbers and agrees with another row on a key. -/
theorem insert_eq_uniqueViolation_iff {now : Readings} {insertion : Insertion} :
    (∃ key, (insert entity now insertion rows).1 = .error (.uniqueViolation key)) ↔
      ∃ row, newRow entity now insertion rows = .ok row ∧
        ∃ key ∈ entity.uniqueKeys, ∃ other ∈ rows, AgreeOn key other row := by
  unfold insert
  cases new : newRow entity now insertion rows with
  | error error =>
    obtain ⟨field, rfl⟩ := assignNumbers_eq_error new
    simp
  | ok row =>
    simp only [Except.ok.injEq, exists_eq_left']
    cases checked : checkUnique entity rows row with
    | ok =>
      have apart := checkUnique_eq_ok_iff.1 checked
      simp only [reduceCtorEq, exists_false, false_iff]
      rintro ⟨key, isKey, other, member, agree⟩
      exact apart key isKey other member agree
    | error error =>
      obtain ⟨key, collided, rfl⟩ := checkUnique_eq_error checked
      obtain ⟨agrees, front, back, parted, -⟩ := collision?_eq_some_iff.1 collided
      have isKey : key ∈ entity.uniqueKeys := by
        rw [parted]
        simp
      exact ⟨fun _ => ⟨key, isKey, agrees⟩, fun _ => ⟨key, rfl⟩⟩

end Table

/-! ## Stores -/

namespace MemoryStore

open Table

variable {entity : Entity} {clock : Clock} {store : MemoryStore}

/-- Creates rows one after the other, whatever comes of each; the `n`-th call is given the clock as it
is from the `n`-th row on. -/
def createEach (entity : Entity) (clock : Clock) :
    Nat → List Insertion → MemoryStore → List (Except StoreError Record) × MemoryStore
  | _, [], store => ([], store)
  | n, insertion :: rest, store =>
    let attempt := interface.create entity (fun row => clock (n + row)) insertion store
    let later := createEach entity clock (n + 1) rest attempt.2
    (attempt.1 :: later.1, later.2)

theorem createEach_of_available (entity : Entity) (clock : Clock) (available : store.available = true)
    (n : Nat) (insertions : List Insertion) :
    (createEach entity clock n insertions store).1
      = (insertEach entity clock n insertions (store.rows entity.name)).1 ∧
    (createEach entity clock n insertions store).2.rows entity.name
      = (insertEach entity clock n insertions (store.rows entity.name)).2 := by
  induction insertions generalizing n store with
  | nil => exact ⟨rfl, rfl⟩
  | cons insertion rest ih =>
    simp only [createEach, insertEach]
    obtain ⟨result, table⟩ := change_of_available entity (Table.insert entity (clock n) insertion)
      available
    have stays : (change entity (Table.insert entity (clock n) insertion) store).2.available = true :=
      (available_change _ _ _).trans available
    obtain ⟨attempts, final⟩ := ih stays (n + 1)
    rw [table] at attempts final
    exact ⟨congrArg₂ List.cons result attempts, final⟩

theorem createEach_of_off (entity : Entity) (clock : Clock) (off : ¬ store.available = true) (n : Nat)
    (insertions : List Insertion) :
    ∀ attempt ∈ (createEach entity clock n insertions store).1,
      attempt = .error (.unavailable unavailableReason) := by
  induction insertions generalizing n store with
  | nil => simp [createEach]
  | cons insertion rest ih =>
    have refused := change_of_off entity (Table.insert entity (clock (n + 0)) insertion) off
    simp only [createEach, List.forall_mem_cons]
    refine ⟨congrArg Prod.fst refused, ?_⟩
    apply ih
    show ¬ (change entity (Table.insert entity (clock (n + 0)) insertion) store).2.available = true
    rw [refused]
    exact off

theorem rows_createEach_of_ne {name : String} (other : name ≠ entity.name) (n : Nat)
    (insertions : List Insertion) :
    (createEach entity clock n insertions store).2.rows name = store.rows name := by
  induction insertions generalizing n store with
  | nil => rfl
  | cons insertion rest ih => exact (ih _).trans (rows_change_of_ne _ store other)

theorem length_createEach (n : Nat) (insertions : List Insertion) :
    (createEach entity clock n insertions store).1.length = insertions.length := by
  induction insertions generalizing n store with
  | nil => rfl
  | cons insertion rest ih => exact congrArg Nat.succ (ih _)

/-- Single creations make a table longer by the rows that they store. -/
theorem length_rows_createEach (entity : Entity) (clock : Clock) (insertions : List Insertion)
    (available : store.available = true) :
    let each := createEach entity clock 0 insertions store
    (each.2.rows entity.name).length = (store.rows entity.name).length + (stored each.1).length := by
  intro each
  obtain ⟨attempts, final⟩ := createEach_of_available entity clock available 0 insertions
  rw [final, insertEach_table, ← attempts, List.length_append]

section Batches

variable {insertions : List Insertion} {skipDuplicates : Bool}

/-- A batch that never ends comes to what single creations come to. -/
theorem createMany_of_goesOn (available : store.available = true)
    (goesOn : ∀ attempt ∈ (createEach entity clock 0 insertions store).1,
      GoesOn skipDuplicates attempt) :
    let each := createEach entity clock 0 insertions store
    let batch := interface.createMany entity clock insertions skipDuplicates store
    batch.1 = .ok (stored each.1).length ∧ ∀ name, batch.2.rows name = each.2.rows name := by
  intro each batch
  obtain ⟨attempts, final⟩ := createEach_of_available entity clock available 0 insertions
  rw [attempts] at goesOn
  have ran := insertMany_of_goesOn goesOn
  obtain ⟨result, table⟩ := change_of_available entity
    (staged (Table.insertMany entity clock skipDuplicates 0 insertions)) available
  rw [staged, ran] at result table
  refine ⟨by rw [attempts]; exact result, fun name => ?_⟩
  by_cases named : name = entity.name
  · rw [named, final]
    exact table
  · rw [rows_createEach_of_ne named]
    exact rows_change_of_ne _ store named

/-- A batch that ends fails for the reason of the first creation that ends it. -/
theorem createMany_of_ends (available : store.available = true)
    {front back : List (Except StoreError Record)} {error : StoreError}
    (attempts : (createEach entity clock 0 insertions store).1 = front ++ .error error :: back)
    (goesOn : ∀ attempt ∈ front, GoesOn skipDuplicates attempt)
    (ends : endsBatch skipDuplicates error = true) :
    (interface.createMany entity clock insertions skipDuplicates store).1 = .error error := by
  rw [(createEach_of_available entity clock available 0 insertions).1] at attempts
  have failed := insertMany_of_ends attempts goesOn ends
  obtain ⟨result, -⟩ := change_of_available entity
    (staged (Table.insertMany entity clock skipDuplicates 0 insertions)) available
  rw [staged_result] at result
  exact result.trans failed

/-- A batch succeeds where it never ends. -/
theorem createMany_ok_iff :
    (∃ count, (interface.createMany entity clock insertions skipDuplicates store).1 = .ok count) ↔
      store.available = true ∧
        ∀ attempt ∈ (createEach entity clock 0 insertions store).1,
          GoesOn skipDuplicates attempt := by
  constructor
  · rintro ⟨count, succeeded⟩
    have available := available_of_change_eq_ok succeeded
    refine ⟨available, ?_⟩
    by_contra ends
    obtain ⟨front, error, back, attempts, goesOn, atEnd⟩ := exists_first_end ends
    have failed := createMany_of_ends available attempts goesOn atEnd
    exact absurd (failed.symm.trans succeeded) nofun
  · rintro ⟨available, goesOn⟩
    exact ⟨_, (createMany_of_goesOn available goesOn).1⟩

theorem createMany_of_ok {count : Nat}
    (succeeded : (interface.createMany entity clock insertions skipDuplicates store).1 = .ok count) :
    let each := createEach entity clock 0 insertions store
    let batch := interface.createMany entity clock insertions skipDuplicates store
    count = (stored each.1).length ∧ ∀ name, batch.2.rows name = each.2.rows name := by
  intro each batch
  obtain ⟨available, goesOn⟩ := createMany_ok_iff.1 ⟨count, succeeded⟩
  obtain ⟨result, tables⟩ := createMany_of_goesOn available goesOn
  exact ⟨Except.ok.inj (succeeded.symm.trans result), tables⟩

theorem createMany_of_error (available : store.available = true) {error : StoreError}
    (failed : (interface.createMany entity clock insertions skipDuplicates store).1 = .error error) :
    ∃ front back, (createEach entity clock 0 insertions store).1 = front ++ .error error :: back ∧
      (∀ attempt ∈ front, GoesOn skipDuplicates attempt) ∧ endsBatch skipDuplicates error = true := by
  have ends : ¬ ∀ attempt ∈ (createEach entity clock 0 insertions store).1,
      GoesOn skipDuplicates attempt := by
    intro goesOn
    obtain ⟨count, succeeded⟩ := createMany_ok_iff.2 ⟨available, goesOn⟩
    exact absurd (succeeded.symm.trans failed) nofun
  obtain ⟨front, first, back, attempts, goesOn, atEnd⟩ := exists_first_end ends
  obtain rfl := Except.error.inj
    ((createMany_of_ends available attempts goesOn atEnd).symm.trans failed)
  exact ⟨front, back, attempts, goesOn, atEnd⟩

/-- A creation is refused as a duplicate where its row agrees on a unique key with a stored row, or with
one that has been created before. -/
theorem createEach_skips_iff (front : List Insertion) (insertion : Insertion)
    (back : List Insertion) :
    let each := createEach entity clock 0 (front ++ insertion :: back) store
    let table := store.rows entity.name ++ stored (createEach entity clock 0 front store).1
    (∃ key, each.1[front.length]? = some (.error (.uniqueViolation key))) ↔
      store.available = true ∧
        ∃ row, Table.newRow entity (clock front.length) insertion table = .ok row ∧
          ∃ key ∈ entity.uniqueKeys, ∃ other ∈ table, AgreeOn key other row := by
  intro each table
  by_cases available : store.available = true
  · obtain ⟨before, -⟩ := createEach_of_available entity clock available 0 front
    have length := @length_createEach entity clock store 0 front
    have attempts : each.1 = (createEach entity clock 0 front store).1 ++
        (insertEach entity clock (0 + front.length) (insertion :: back) table).1 := by
      show (createEach entity clock 0 (front ++ insertion :: back) store).1 = _
      rw [(createEach_of_available entity clock available 0 _).1, insertEach_append,
        insertEach_table, ← before]
    have attempt : each.1[front.length]?
        = some (Table.insert entity (clock front.length) insertion table).1 := by
      rw [attempts, List.getElem?_append_right (Nat.le_of_eq length), length, Nat.sub_self,
        Nat.zero_add]
      rfl
    simp only [attempt, Option.some.injEq, available, true_and]
    exact insert_eq_uniqueViolation_iff
  · simp only [available, Bool.false_eq_true, false_and, iff_false]
    rintro ⟨key, refused⟩
    have unavailable := createEach_of_off entity clock available 0 _ _ (List.mem_of_getElem? refused)
    cases unavailable

end Batches

/-- A batch of creations succeeds if single creations of the same rows would go on, and comes to the
same; otherwise it fails as the first of them would that does not go on, and changes nothing.

Where duplicates are skipped, creations go on that are refused for a unique key, and otherwise only those
that succeed.  A row is skipped exactly where it agrees on a unique key with a stored row, or with an
earlier row of the batch that has been stored.  The count is by how much the table grows.  A store that is
switched off refuses every batch, also one without rows. -/
theorem createMany_one_by_one (entity : Entity) (clock : Clock) (insertions : List Insertion)
    (store : MemoryStore) :
    let rows := store.rows entity.name
    let each := createEach entity clock 0 insertions store
    let batch (skipDuplicates : Bool) :=
      interface.createMany entity clock insertions skipDuplicates store
    (∀ skipDuplicates,
      ((∃ count, (batch skipDuplicates).1 = .ok count) ↔
        store.available = true ∧ ∀ attempt ∈ each.1, GoesOn skipDuplicates attempt) ∧
      (∀ count, (batch skipDuplicates).1 = .ok count →
        count = (stored each.1).length ∧
        ((batch skipDuplicates).2.rows entity.name).length = rows.length + count ∧
        ∀ name, (batch skipDuplicates).2.rows name = each.2.rows name) ∧
      ∀ error, (batch skipDuplicates).1 = .error error →
        (∀ name, (batch skipDuplicates).2.rows name = store.rows name) ∧
        (store.available = false ∧ error = .unavailable unavailableReason ∧
            (∀ attempt ∈ each.1, attempt = .error error) ∨
          ∃ front back, each.1 = front ++ .error error :: back ∧
            (∀ attempt ∈ front, GoesOn skipDuplicates attempt) ∧
            endsBatch skipDuplicates error = true)) ∧
    ((∃ count, (batch false).1 = .ok count) ↔
      store.available = true ∧ ∀ attempt ∈ each.1, ∃ row, attempt = .ok row) ∧
    (∀ count, (batch false).1 = .ok count → count = insertions.length) ∧
    ∀ front insertion back, insertions = front ++ insertion :: back →
      let table := rows ++ stored (createEach entity clock 0 front store).1
      (∃ key, each.1[front.length]? = some (.error (.uniqueViolation key))) ↔
        store.available = true ∧
          ∃ row, Table.newRow entity (clock front.length) insertion table = .ok row ∧
            ∃ key ∈ entity.uniqueKeys, ∃ other ∈ table, AgreeOn key other row := by
  intro rows each batch
  refine ⟨fun skipDuplicates => ⟨createMany_ok_iff, ?_, ?_⟩, ?_, ?_, ?_⟩
  · intro count succeeded
    obtain ⟨counted, tables⟩ := createMany_of_ok succeeded
    have grown := length_rows_createEach entity clock insertions
      (available_of_change_eq_ok succeeded)
    refine ⟨counted, ?_, tables⟩
    rw [tables, grown, counted]
  · intro error failed
    refine ⟨rows_change_of_error (staged_atomic _) failed, ?_⟩
    by_cases available : store.available = true
    · exact .inr (createMany_of_error available failed)
    · have refused := congrArg Prod.fst (change_of_off entity
        (staged (Table.insertMany entity clock skipDuplicates 0 insertions)) available)
      obtain rfl := Except.error.inj (failed.symm.trans refused)
      exact .inl ⟨Bool.eq_false_iff.2 available, rfl,
        createEach_of_off entity clock available 0 insertions⟩
  · simp only [batch, createMany_ok_iff, goesOn_false_iff]
    rfl
  · intro count succeeded
    have created := (createMany_ok_iff.1 ⟨count, succeeded⟩).2
    simp only [goesOn_false_iff] at created
    rw [(createMany_of_ok succeeded).1, length_stored created, length_createEach]
  · rintro front insertion back rfl
    exact createEach_skips_iff front insertion back

/-- Manufacturers with one number left. -/
def oneNumberLeft : MemoryStore :=
  let given : Record := .ofList [("Id", .int 2147483646), ("Name", .string "Axis")]
  (interface.create manufacturers (fun _ => default) ⟨given⟩ .empty).2

/-- Of two manufacturers, one can be created where one number is left, and no creation is refused as a
duplicate; the batch that skips duplicates stores none of them and gives no count.  Where the store is
switched off, a batch of no rows is refused, although it asks for no creation. -/
theorem manufacturers_exhausted_batch :
    let named (name : String) : Insertion := ⟨FieldMap.empty.insert "Name" (.string name)⟩
    let insertions := [named "Bosch", named "Dahua"]
    let each := createEach manufacturers (fun _ => default) 0 insertions oneNumberLeft
    let batch := interface.createMany manufacturers (fun _ => default) insertions true oneNumberLeft
    let off := oneNumberLeft.setAvailable false
    (insertions.map fun insertion => Except.ok insertion)
      = [.obj [("Name", .str "Bosch")], .obj [("Name", .str "Dahua")]].map
          (Insertion.read manufacturers) ∧
    each.1 = [.ok (manufacturer 2147483647 "Bosch"), .error (.query (.sequenceExhausted "Id"))] ∧
    batch.1 ≠ .ok (stored each.1).length ∧
    batch.2.rows "Manufacturers" ≠ each.2.rows "Manufacturers" ∧
    (createEach manufacturers (fun _ => default) 0 [] off).1 = [] ∧
    ¬ ∃ count, (interface.createMany manufacturers (fun _ => default) [] false off).1 = .ok count := by
  intro named insertions each batch off
  have attempts : each.1
      = [.ok (manufacturer 2147483647 "Bosch"), .error (.query (.sequenceExhausted "Id"))] := by
    decide +kernel
  have refused : (interface.createMany manufacturers (fun _ => default) [] false off).1
      = .error (.unavailable unavailableReason) := rfl
  refine ⟨by decide +kernel, attempts, by decide +kernel, by decide +kernel, rfl, ?_⟩
  rintro ⟨count, succeeded⟩
  rw [refused] at succeeded
  contradiction

end MemoryStore

end RecordStore
