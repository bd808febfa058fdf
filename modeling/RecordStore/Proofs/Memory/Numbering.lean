import RecordStore.Proofs.Memory.Creation

/-! # New numbers are fresh

A field that is left to the table gets a number that is greater than all in its column, whatever has
been given, removed or skipped before.  So a new row agrees with no other one on a key that such a field
belongs to, and the numbers of a batch increase; only a column that has the greatest number of its kind
is the end of it.

* `insert_numbered` says so of one new row.
* `insertMany_exhausted_iff` and `insertMany_stored` carry it through a batch, each row of which finds
  those that the batch has stored before.
-/

namespace RecordStore

/-- Whether an insertion is what a payload is read as. -/
def Insertion.IsPayload (insertion : Insertion) (entity : Entity) : Prop :=
  ∃ raw : Json, raw.Proper ∧ Insertion.read entity raw = .ok insertion

theorem Insertion.IsPayload.given {insertion : Insertion} {entity : Entity}
    (payload : insertion.IsPayload entity) : ∀ field ∈ entity.fields, field.isRequired = true →
      insertion.given.contains field.name = true := by
  obtain ⟨raw, proper, read⟩ := payload
  exact (Insertion.read_allows proper read).2

namespace Table

variable {entity : Entity} {rows : Table} {field : Field} {insertion : Insertion}

/-! ## The next number -/

/-- Whether a value can be a new number of a field: it has the kind of the field, and every other value
in the column is less. -/
structure Fresh (rows : Table) (field : Field) (value : Value) : Prop where
  holds : field.kind.Holds value
  greatest : ∀ row ∈ rows, (row.valueAt field.name).isNull = false →
    (row.valueAt field.name).compare? value = some .lt

theorem lt_nextInteger {name : String} {n : Int} (member : n ∈ column rows name) :
    n < nextInteger rows name := by
  unfold nextInteger
  cases greatest : (column rows name).max? with
  | none =>
    rw [List.max?_eq_none_iff.1 greatest] at member
    contradiction
  | some m =>
    have bound := (List.max?_eq_some_iff.1 greatest).2 n member
    rw [Option.getD_some]
    omega

/-- An integer in the range of a kind is a value of it, and compares as the integer. -/
theorem number_spec {kind : FieldKind} (integral : kind = .int ∨ kind = .bigInt) {n : Int}
    (inRange : -kind.numberLimit ≤ n ∧ n < kind.numberLimit) :
    kind.Holds (kind.number n) ∧ ∀ value, kind.Holds value → ∃ m, value.integer? = some m ∧
      value.compare? (kind.number n) = some (compare m n) := by
  rcases integral with rfl | rfl
  · have word : (Int32.ofInt n).toInt = n := int32?_eq_some.1 (if_pos inRange)
    refine ⟨.int _, fun value holds => ?_⟩
    cases holds with
    | int w => exact ⟨w.toInt, rfl, congrArg (fun m => some (compare w.toInt m)) word⟩
  · have word : (Int64.ofInt n).toInt = n := int64?_eq_some.1 (if_pos inRange)
    refine ⟨.bigInt _, fun value holds => ?_⟩
    cases holds with
    | bigInt w => exact ⟨w.toInt, rfl, congrArg (fun m => some (compare w.toInt m)) word⟩

theorem fresh_nextValue (found : entity.field? field.name = some field)
    (integral : field.kind = .int ∨ field.kind = .bigInt) (fits : ∀ row ∈ rows, entity.Fits row)
    (room : ¬ Exhausted rows field) : Fresh rows field (nextValue rows field) := by
  obtain ⟨holds, compares⟩ := number_spec integral
    ((nextInteger_inRange_iff found integral fits).2 room)
  refine ⟨holds, fun row stored present => ?_⟩
  obtain ⟨n, held, compared⟩ := compares _ ((fits row stored _ field found).holds present)
  have less := lt_nextInteger (List.mem_filterMap.2 ⟨row, stored, held⟩)
  rw [nextValue, compared, compare_lt_iff_lt.2 less]

/-! ## One new row -/

/-- Whether an attempt to store a new row has dealt with the fields that were left to the table. -/
structure Numbered (entity : Entity) (insertion : Insertion) (rows : Table)
    (attempt : Except StoreError Record × Table) : Prop where
  /-- The numbers of a row that is stored are fresh. -/
  fresh : ∀ row, attempt.1 = .ok row → attempt.2 = rows ++ [row] ∧
    ∀ field ∈ entity.fields, insertion.Leaves field → Fresh rows field (row.valueAt field.name)
  /-- A row that is refused agrees with another one on a key without such a field. -/
  apart : ∀ key, attempt.1 = .error (.uniqueViolation key) →
    ∀ field ∈ entity.fields, insertion.Leaves field → field.name ∉ key
  exhausted : (∃ name, attempt.1 = .error (.query (.sequenceExhausted name))) ↔
    FindsExhausted entity insertion rows
  unchanged : ∀ error, attempt.1 = .error error → attempt.2 = rows
  /-- A row is stored unless a field is exhausted or a key is taken. -/
  stored : FindsExhausted entity insertion rows ∨ (∃ key, attempt.1 = .error (.uniqueViolation key)) ∨
    ∃ row, attempt.1 = .ok row

theorem integral_of_leaves (wellFormed : entity.WellFormed) (member : field ∈ entity.fields)
    (left : insertion.Leaves field) : field.kind = .int ∨ field.kind = .bigInt := by
  have default := wellFormed.defaults_fit field member
  rwa [Field.DefaultFits, left.1] at default

theorem completedRow_of_leaves (wellFormed : entity.WellFormed) (member : field ∈ entity.fields)
    (left : insertion.Leaves field) (now : Readings) :
    (completedRow entity now insertion rows).valueAt field.name = nextValue rows field := by
  rw [FieldMap.valueAt, get?_completedRow_of_omitted wellFormed member left.2]
  simp [omittedValue, left.1]

/-- The numbers of a new row are fresh. -/
theorem fresh_completedRow (wellFormed : entity.WellFormed) (fits : ∀ row ∈ rows, entity.Fits row)
    (now : Readings) (free : ¬ FindsExhausted entity insertion rows) (member : field ∈ entity.fields)
    (left : insertion.Leaves field) :
    Fresh rows field ((completedRow entity now insertion rows).valueAt field.name) := by
  rw [completedRow_of_leaves wellFormed member left]
  apply fresh_nextValue (wellFormed.field?_of_mem member) (integral_of_leaves wellFormed member left)
    fits
  exact fun exhausted => free ⟨field, member, left, exhausted⟩

theorem insert_numbered (wellFormed : entity.WellFormed) (payload : insertion.IsPayload entity)
    (fits : ∀ row ∈ rows, entity.Fits row) (now : Readings) :
    Numbered entity insertion rows (insert entity now insertion rows) := by
  have given := payload.given
  constructor
  case fresh =>
    intro row succeeded
    obtain ⟨rfl, appended⟩ := insert_stored wellFormed fits given now succeeded
    obtain ⟨free, -⟩ := (insert_succeeds_iff wellFormed fits given now).1 ⟨_, succeeded⟩
    exact ⟨appended, fun field member left =>
      fresh_completedRow wellFormed fits now (not_findsExhausted_iff.2 free) member left⟩
  case apart =>
    intro key refused field member left inKey
    obtain ⟨-, ⟨_, -, -, other⟩ | ⟨free, _, collided, reason⟩⟩ :=
      insert_refused wellFormed fits given now refused
    · contradiction
    · cases reason
      obtain ⟨⟨other, stored, agree⟩, -⟩ := collision?_eq_some_iff.1 collided
      obtain ⟨present, -, same⟩ := agree field.name inKey
      -- A fresh number is greater than that of the other row, and not the same.
      have fresh := fresh_completedRow wellFormed fits now (not_findsExhausted_iff.2 free) member left
      rw [Value.same_iff_of_isNull_eq_false present, fresh.greatest other stored present] at same
      contradiction
  case exhausted =>
    constructor
    · rintro ⟨name, refused⟩
      obtain ⟨-, ⟨field, member, full, -⟩ | ⟨-, _, -, other⟩⟩ :=
        insert_refused wellFormed fits given now refused
      · exact ⟨field, member, full⟩
      · contradiction
    · intro full
      obtain ⟨field, -, -, run⟩ := insert_of_exhausted wellFormed fits given now full
      exact ⟨field.name, by rw [run]⟩
  case unchanged =>
    exact fun error refused => (insert_refused wellFormed fits given now refused).1
  case stored =>
    by_cases full : FindsExhausted entity insertion rows
    · exact .inl full
    · cases collided : collision? entity rows (completedRow entity now insertion rows) with
      | some key =>
        rw [insert_of_collision wellFormed fits given now full collided]
        exact .inr (.inl ⟨key, rfl⟩)
      | none =>
        rw [insert_of_alone wellFormed fits given now full collided]
        exact .inr (.inr ⟨_, rfl⟩)

/-! ## Batches -/

section Batches

variable {clock : Clock} {skipDuplicates : Bool} {insertions : List Insertion} {n : Nat}

theorem insert_fits (wellFormed : entity.WellFormed) (payload : insertion.IsPayload entity)
    (fits : ∀ row ∈ rows, entity.Fits row) (now : Readings) :
    ∀ row ∈ (insert entity now insertion rows).2, entity.Fits row := by
  obtain ⟨raw, -, read⟩ := payload
  rcases insert_cases entity now insertion rows with ⟨row, new, -, run⟩ | ⟨_, -, run⟩
  · rw [run]
    refine List.forall_mem_append.2 ⟨fits, List.forall_mem_singleton.2 ?_⟩
    exact newRow_fits wellFormed (Insertion.read_fits read) new
  · rwa [run]

theorem insertMany_fits (wellFormed : entity.WellFormed)
    (payloads : ∀ insertion ∈ insertions, insertion.IsPayload entity)
    (fits : ∀ row ∈ rows, entity.Fits row) :
    ∀ row ∈ (insertMany entity clock skipDuplicates n insertions rows).2, entity.Fits row :=
  insertMany_induction (fun table => ∀ row ∈ table, entity.Fits row)
    (fun now insertion member _ before => insert_fits wellFormed (payloads insertion member) before now)
    fits

/-- An insertion of a batch and the table that it finds, where the batch comes to it. -/
structure Meets (entity : Entity) (clock : Clock) (skipDuplicates : Bool) (n : Nat)
    (insertions : List Insertion) (rows : Table) (front : List Insertion) (insertion : Insertion)
    (table : Table) : Prop where
  listed : ∃ back, insertions = front ++ insertion :: back
  reached : ∃ count, insertMany entity clock skipDuplicates n front rows = (.ok count, table)

theorem Meets.cons {first : Insertion} {count : Nat} {after : Table}
    (goesOn : ∀ rest, insertMany entity clock skipDuplicates n (first :: rest) rows
      = countOn count (insertMany entity clock skipDuplicates (n + 1) rest after))
    {front : List Insertion} {table : Table}
    (meets : Meets entity clock skipDuplicates (n + 1) insertions after front insertion table) :
    Meets entity clock skipDuplicates n (first :: insertions) rows (first :: front) insertion table := by
  obtain ⟨⟨back, rfl⟩, more, ran⟩ := meets
  exact ⟨⟨back, rfl⟩, _, by rw [goesOn, ran]; rfl⟩

theorem Meets.insert_numbered (wellFormed : entity.WellFormed)
    (payloads : ∀ insertion ∈ insertions, insertion.IsPayload entity)
    (fits : ∀ row ∈ rows, entity.Fits row) {front : List Insertion} {table : Table}
    (meets : Meets entity clock skipDuplicates n insertions rows front insertion table)
    (now : Readings) : Numbered entity insertion table (insert entity now insertion table) := by
  obtain ⟨⟨back, rfl⟩, count, ran⟩ := meets
  obtain ⟨inFront, others⟩ := List.forall_mem_append.1 payloads
  have tableFits := @insertMany_fits entity rows clock skipDuplicates front n wellFormed inFront fits
  rw [ran] at tableFits
  exact Table.insert_numbered wellFormed (others insertion List.mem_cons_self) tableFits now

theorem exists_meets_of_exhausted (wellFormed : entity.WellFormed)
    (payloads : ∀ insertion ∈ insertions, insertion.IsPayload entity)
    (fits : ∀ row ∈ rows, entity.Fits row) {name : String}
    (failed : (insertMany entity clock skipDuplicates n insertions rows).1
      = .error (.query (.sequenceExhausted name))) :
    ∃ front insertion table,
      Meets entity clock skipDuplicates n insertions rows front insertion table ∧
        FindsExhausted entity insertion table := by
  induction insertions generalizing n rows with
  | nil => cases failed
  | cons insertion rest ih =>
    obtain ⟨payload, others⟩ := List.forall_mem_cons.1 payloads
    rcases insertMany_cons_goesOn_or entity clock skipDuplicates n insertion rows with
      ⟨count, goesOn⟩ | ⟨error, run, ends⟩
    · rw [goesOn, countOn_eq_error_iff] at failed
      obtain ⟨front, found, table, meets, full⟩ :=
        ih others (insert_fits wellFormed payload fits (clock n)) failed
      exact ⟨_, found, table, meets.cons goesOn, full⟩
    · have meets : Meets entity clock skipDuplicates n (insertion :: rest) rows [] insertion rows :=
        ⟨⟨rest, rfl⟩, 0, rfl⟩
      have numbered := meets.insert_numbered wellFormed payloads fits (clock n)
      rw [ends] at failed
      rw [run] at numbered
      obtain rfl := Except.error.inj failed
      exact ⟨[], insertion, rows, meets, numbered.exhausted.1 ⟨name, rfl⟩⟩

/-- A batch is refused as exhausted if and only if it comes to an insertion that is. -/
theorem insertMany_exhausted_iff (wellFormed : entity.WellFormed)
    (payloads : ∀ insertion ∈ insertions, insertion.IsPayload entity)
    (fits : ∀ row ∈ rows, entity.Fits row) :
    (∃ name, (insertMany entity clock skipDuplicates n insertions rows).1
        = .error (.query (.sequenceExhausted name))) ↔
      ∃ front insertion table,
        Meets entity clock skipDuplicates n insertions rows front insertion table ∧
          FindsExhausted entity insertion table := by
  refine ⟨fun ⟨name, failed⟩ => exists_meets_of_exhausted wellFormed payloads fits failed, ?_⟩
  rintro ⟨front, insertion, table, meets, full⟩
  have numbered := meets.insert_numbered wellFormed payloads fits (clock (n + front.length))
  obtain ⟨name, refused⟩ := numbered.exhausted.2 full
  obtain ⟨⟨back, rfl⟩, count, ran⟩ := meets
  refine ⟨name, ?_⟩
  rw [insertMany_append_of_ok ran, countOn_eq_error_iff]
  rcases insertMany_cons_cases entity clock skipDuplicates (n + front.length) insertion table with
    ⟨row, run, -⟩ | ⟨key, run, -⟩ | ⟨error, run, ends⟩
  · rw [run] at refused
    cases refused
  · rw [run] at refused
    cases refused
  · rw [run] at refused
    rw [ends]
    exact congrArg Except.error (Except.error.inj refused)

/-- Whether the numbers of rows that are stored one behind the other, each for its insertion, are fresh
where they are stored. -/
def FreshBehind (entity : Entity) (rows : Table) (stored : List (Insertion × Record)) : Prop :=
  ∀ before insertion row after, stored = before ++ (insertion, row) :: after →
    ∀ field ∈ entity.fields, insertion.Leaves field →
      Fresh (rows ++ before.map Prod.snd) field (row.valueAt field.name)

theorem FreshBehind.cons {row : Record} {stored : List (Insertion × Record)}
    (there : FreshBehind entity (rows ++ [row]) stored)
    (here : ∀ field ∈ entity.fields, insertion.Leaves field →
      Fresh rows field (row.valueAt field.name)) :
    FreshBehind entity rows ((insertion, row) :: stored) := by
  intro before other otherRow after parted
  cases before with
  | nil =>
    cases parted
    simpa using here
  | cons first before =>
    obtain ⟨rfl, rfl⟩ := List.cons.inj parted
    simpa using there before other otherRow after rfl

/-- The numbers of a batch increase, whether they are assigned or given in front. -/
theorem FreshBehind.pairwise {stored : List (Insertion × Record)}
    (fresh : FreshBehind entity rows stored) :
    stored.Pairwise fun earlier later => ∀ field ∈ entity.fields, later.1.Leaves field →
      (earlier.2.valueAt field.name).isNull = false →
      (earlier.2.valueAt field.name).compare? (later.2.valueAt field.name) = some .lt := by
  induction stored generalizing rows with
  | nil => exact .nil
  | cons first stored ih =>
    refine List.pairwise_cons.2 ⟨fun later member field isField left present => ?_, ?_⟩
    · obtain ⟨before, after, rfl⟩ := List.append_of_mem member
      have greatest := (fresh (first :: before) later.1 later.2 after rfl field isField left).greatest
      exact greatest first.2 (by simp) present
    · refine @ih (rows ++ [first.2]) fun before insertion row after parted field isField left => ?_
      have behind := fresh (first :: before) insertion row after (by rw [parted]; rfl) field isField
        left
      simpa using behind

/-- A batch that succeeds stores rows for some of its insertions, with fresh numbers. -/
theorem insertMany_stored (wellFormed : entity.WellFormed)
    (payloads : ∀ insertion ∈ insertions, insertion.IsPayload entity)
    (fits : ∀ row ∈ rows, entity.Fits row) {count : Nat} {after : Table}
    (ran : insertMany entity clock skipDuplicates n insertions rows = (.ok count, after)) :
    ∃ stored : List (Insertion × Record), (stored.map Prod.fst).Sublist insertions ∧
      stored.length = count ∧ after = rows ++ stored.map Prod.snd ∧
      FreshBehind entity rows stored := by
  induction insertions generalizing n rows count with
  | nil =>
    cases ran
    exact ⟨[], .slnil, rfl, (List.append_nil after).symm, by simp [FreshBehind]⟩
  | cons insertion rest ih =>
    obtain ⟨payload, others⟩ := List.forall_mem_cons.1 payloads
    have inserted := insert_fits wellFormed payload fits (clock n)
    have meets : Meets entity clock skipDuplicates n (insertion :: rest) rows [] insertion rows :=
      ⟨⟨rest, rfl⟩, 0, rfl⟩
    have numbered := meets.insert_numbered wellFormed payloads fits (clock n)
    rcases insertMany_cons_cases entity clock skipDuplicates n insertion rows with
      ⟨row, run, goesOn⟩ | ⟨key, run, goesOn⟩ | ⟨error, -, ends⟩
    · rw [run] at inserted numbered
      rw [goesOn, countOn_eq_ok_iff] at ran
      obtain ⟨more, restRan, rfl⟩ := ran
      obtain ⟨stored, sublist, length, rfl, fresh⟩ := ih others inserted restRan
      refine ⟨(insertion, row) :: stored, sublist.cons_cons insertion, ?_, ?_, ?_⟩
      · rw [List.length_cons, length, Nat.add_comm]
      · rw [List.append_assoc]
        rfl
      · exact fresh.cons (numbered.fresh row rfl).2
    · rw [run] at inserted
      rw [goesOn, countOn_eq_ok_iff] at ran
      obtain ⟨more, restRan, rfl⟩ := ran
      obtain ⟨stored, sublist, length, rfl, fresh⟩ := ih others inserted restRan
      exact ⟨stored, sublist.cons insertion, by rw [length, Nat.zero_add], rfl, fresh⟩
    · rw [ends] at ran
      cases ran

end Batches

end Table

namespace MemoryStore

variable {entity : Entity} {store : MemoryStore}

/-- A field that is left to the store gets a fresh number, in each row that is created and in each row
of a batch, unless its column has the greatest number of its kind. -/
theorem numbers_fresh {name : String} {fields : List Field} {identity : List String}
    (declared : Entity.declare name fields identity = .ok entity) (available : store.available = true)
    (fits : ∀ row ∈ store.rows entity.name, entity.Fits row) (clock : Clock) :
    let rows := store.rows entity.name
    (∀ insertion, insertion.IsPayload entity →
      let answer := interface.create entity clock insertion store
      Table.Numbered entity insertion rows (answer.1, answer.2.rows entity.name)) ∧
    ∀ insertions skipDuplicates, (∀ insertion ∈ insertions, insertion.IsPayload entity) →
      let answer := interface.createMany entity clock insertions skipDuplicates store
      let meets := Table.Meets entity clock skipDuplicates 0 insertions rows
      (∀ front insertion table, meets front insertion table →
        Table.Numbered entity insertion table
          (Table.insert entity (clock front.length) insertion table)) ∧
      ((∃ name, answer.1 = .error (.query (.sequenceExhausted name))) ↔
        ∃ front insertion table, meets front insertion table ∧
          Table.FindsExhausted entity insertion table) ∧
      (∀ error, answer.1 = .error error → answer.2.rows entity.name = rows) ∧
      ∀ count, answer.1 = .ok count → ∃ stored : List (Insertion × Record),
        (stored.map Prod.fst).Sublist insertions ∧ stored.length = count ∧
        answer.2.rows entity.name = rows ++ stored.map Prod.snd ∧
        Table.FreshBehind entity rows stored ∧
        stored.Pairwise fun earlier later => ∀ field ∈ entity.fields, later.1.Leaves field →
          (earlier.2.valueAt field.name).isNull = false →
          (earlier.2.valueAt field.name).compare? (later.2.valueAt field.name) = some .lt := by
  intro rows
  have wellFormed := Entity.declare_wellFormed declared
  constructor
  · intro insertion payload answer
    obtain ⟨result, after⟩ : answer.1 = (Table.insert entity (clock 0) insertion rows).1 ∧
        answer.2.rows entity.name = (Table.insert entity (clock 0) insertion rows).2 :=
      change_of_available _ _ available
    rw [result, after]
    exact Table.insert_numbered wellFormed payload fits (clock 0)
  · intro insertions skipDuplicates payloads answer meets
    let batch := Table.insertMany entity clock skipDuplicates 0 insertions
    obtain ⟨result, after⟩ : answer.1 = (Table.staged batch rows).1 ∧
        answer.2.rows entity.name = (Table.staged batch rows).2 :=
      change_of_available _ _ available
    rw [result, after, Table.staged_result]
    refine ⟨fun front insertion table met => ?_, ?_, fun error failed => ?_, fun count ran => ?_⟩
    · exact met.insert_numbered wellFormed payloads fits (clock front.length)
    · exact Table.insertMany_exhausted_iff wellFormed payloads fits
    · rw [← Table.staged_result] at failed
      exact Table.staged_atomic batch rows error failed
    · rw [← Table.staged_result] at ran
      obtain ⟨succeeded, written⟩ := Table.staged_of_ok ran
      rw [written]
      obtain ⟨stored, sublist, length, appended, fresh⟩ :=
        Table.insertMany_stored wellFormed payloads fits (Prod.ext succeeded rfl)
      exact ⟨stored, sublist, length, appended, fresh, fresh.pairwise⟩

/-! ## A batch of frames -/

/-- Frames with and without a number of their own; the third one has the number that the second one
gets. -/
def framePayloads : List Json :=
  [.obj [("Id", .int 5), ("EventId", .int 7), ("FrameId", .int 2)],
   .obj [("EventId", .int 7), ("FrameId", .int 3)],
   .obj [("Id", .int 6), ("EventId", .int 7), ("FrameId", .int 4)],
   .obj [("EventId", .int 7), ("FrameId", .int 5)]]

def frameInsertions : List Insertion :=
  let frame := fun n => (FieldMap.empty.insert "EventId" (.bigInt 7)).insert "FrameId" (.int n)
  [⟨(frame 2).insert "Id" (.bigInt 5)⟩, ⟨frame 3⟩, ⟨(frame 4).insert "Id" (.bigInt 6)⟩, ⟨frame 5⟩]

theorem frameInsertions_read : ∀ insertion ∈ frameInsertions, insertion.IsPayload eventFrames := by
  have read : framePayloads.mapM (Insertion.read eventFrames) = .ok frameInsertions := by
    decide +kernel
  have proper : ∀ raw ∈ framePayloads, raw.Proper := by simp [framePayloads]
  intro insertion member
  obtain ⟨raw, listed, read⟩ := exists_of_mem_mapM read member
  exact ⟨raw, proper raw listed, read⟩

/-- The numbers of the batch go on behind the one that was given, and the frame whose number had been
taken is skipped. -/
theorem frames_numbered :
    let answer := interface.createMany eventFrames (fun _ => default) frameInsertions true frameStore
    answer.1 = .ok 3 ∧
    (answer.2.rows "Frames").map (·.valueAt "Id") = [.bigInt 1, .bigInt 5, .bigInt 6, .bigInt 7] ∧
    ∃ stored : List (Insertion × Record),
      answer.2.rows "Frames" = frameStore.rows "Frames" ++ stored.map Prod.snd ∧
      Table.FreshBehind eventFrames (frameStore.rows "Frames") stored := by
  intro answer
  have registered : Registry.ofEntities [eventFrames] = .ok frameRegistry := rfl
  have wellFormed : ∀ entity ∈ [eventFrames], entity.WellFormed :=
    List.forall_mem_singleton.2 (Entity.declare_wellFormed tableFrames_eq)
  have valid := rows_valid registered wellFormed reachable_frameStore.reachable List.mem_cons_self
  have succeeded : answer.1 = .ok 3 := by decide +kernel
  obtain ⟨-, batches⟩ := numbers_fresh tableFrames_eq rfl valid.fits fun _ => default
  obtain ⟨-, -, -, stores⟩ := batches frameInsertions true frameInsertions_read
  obtain ⟨stored, -, -, appended, fresh, -⟩ := stores 3 succeeded
  exact ⟨succeeded, by decide +kernel, stored, appended, fresh⟩

end MemoryStore

end RecordStore
