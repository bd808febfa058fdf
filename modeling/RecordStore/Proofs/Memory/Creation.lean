import RecordStore.Proofs.Memory.NewRows
import RecordStore.Proofs.Memory.StorageOrder

/-! # What is created is what is found

An insertion ends in one of three ways, each of which is a lemma of its own: a number that is left to the
table is exhausted, or else the row agrees with a stored one on a unique key, or else it is stored.  When
an insertion succeeds, why it fails and what it leaves are read off these.

A row that is stored is found under each of its addresses until a command changes it or removes it.
-/

namespace RecordStore

/-! ## Insertions into a table -/

namespace Table

section Insert

variable {entity : Entity} {insertion : Insertion} {rows : Table}
  (wellFormed : entity.WellFormed) (fits : ∀ row ∈ rows, entity.Fits row)
  (given : ∀ field ∈ entity.fields, field.isRequired = true →
    insertion.given.contains field.name = true) (now : Readings)

include wellFormed fits given

theorem insert_of_exhausted (full : FindsExhausted entity insertion rows) :
    ∃ field ∈ entity.fields, (insertion.Leaves field ∧ Exhausted rows field) ∧
      insert entity now insertion rows
        = (.error (.query (.sequenceExhausted field.name)), rows) := by
  obtain ⟨field, member, exhausted, failed⟩ := newRow_of_exhausted wellFormed fits given now full
  exact ⟨field, member, exhausted, by rw [insert, failed]⟩

theorem insert_of_collision (free : ¬ FindsExhausted entity insertion rows) {key : List String}
    (collided : collision? entity rows (completedRow entity now insertion rows) = some key) :
    insert entity now insertion rows = (.error (.uniqueViolation key), rows) := by
  rw [insert, newRow_of_free wellFormed fits given now free]
  simp only [checkUnique, collided]

theorem insert_of_alone (free : ¬ FindsExhausted entity insertion rows)
    (alone : collision? entity rows (completedRow entity now insertion rows) = none) :
    insert entity now insertion rows
      = (.ok (completedRow entity now insertion rows),
        rows ++ [completedRow entity now insertion rows]) := by
  rw [insert, newRow_of_free wellFormed fits given now free]
  simp only [checkUnique, alone]

theorem insert_succeeds_iff :
    (∃ created, (insert entity now insertion rows).1 = .ok created) ↔
      (∀ field ∈ entity.fields, ¬ (insertion.Leaves field ∧ Exhausted rows field)) ∧
        ∀ key ∈ entity.uniqueKeys, ∀ other ∈ rows,
          ¬ AgreeOn key other (completedRow entity now insertion rows) := by
  rw [← not_findsExhausted_iff, ← collision?_eq_none_iff]
  constructor
  · rintro ⟨created, succeeded⟩
    by_cases full : FindsExhausted entity insertion rows
    · obtain ⟨field, -, -, run⟩ := insert_of_exhausted wellFormed fits given now full
      rw [run] at succeeded
      contradiction
    · refine ⟨full, Option.eq_none_iff_forall_ne_some.2 fun key collided => ?_⟩
      rw [insert_of_collision wellFormed fits given now full collided] at succeeded
      contradiction
  · rintro ⟨free, alone⟩
    exact ⟨_, by rw [insert_of_alone wellFormed fits given now free alone]⟩

/-- A row is refused for a number that is exhausted, or else for the first key that it agrees on. -/
theorem insert_refused {error : StoreError}
    (refused : (insert entity now insertion rows).1 = .error error) :
    (insert entity now insertion rows).2 = rows ∧
      ((∃ field ∈ entity.fields, (insertion.Leaves field ∧ Exhausted rows field) ∧
          error = .query (.sequenceExhausted field.name)) ∨
        (∀ field ∈ entity.fields, ¬ (insertion.Leaves field ∧ Exhausted rows field)) ∧
          ∃ key, collision? entity rows (completedRow entity now insertion rows) = some key ∧
            error = .uniqueViolation key) := by
  rw [← not_findsExhausted_iff]
  by_cases full : FindsExhausted entity insertion rows
  · obtain ⟨field, member, exhausted, run⟩ := insert_of_exhausted wellFormed fits given now full
    rw [run] at refused ⊢
    cases refused
    exact ⟨rfl, .inl ⟨field, member, exhausted, rfl⟩⟩
  · cases collided : collision? entity rows (completedRow entity now insertion rows) with
    | none =>
      rw [insert_of_alone wellFormed fits given now full collided] at refused
      contradiction
    | some key =>
      rw [insert_of_collision wellFormed fits given now full collided] at refused ⊢
      cases refused
      exact ⟨rfl, .inr ⟨full, key, rfl, rfl⟩⟩

theorem insert_stored {created : Record}
    (succeeded : (insert entity now insertion rows).1 = .ok created) :
    created = completedRow entity now insertion rows ∧
      (insert entity now insertion rows).2 = rows ++ [completedRow entity now insertion rows] := by
  obtain ⟨free, apart⟩ := (insert_succeeds_iff wellFormed fits given now).1 ⟨created, succeeded⟩
  rw [insert_of_alone wellFormed fits given now (not_findsExhausted_iff.2 free)
    (collision?_eq_none_iff.2 apart)] at succeeded ⊢
  cases succeeded
  exact ⟨rfl, rfl⟩

end Insert

/-- A row that takes the time twice has two readings of the clock. -/
example :
    let visits : Entity := ⟨"Visits", [.ofKind .int "Id", (Field.ofKind .dateTime "Opened").stamped,
      (Field.ofKind .dateTime "Seen").stamped], ["Id"]⟩
    let now : Readings := ⟨fun name => .ofEpochMicros (if name = "Opened" then 0 else 1)⟩
    let visit : Record := .ofList [("Id", .int 1), ("Opened", .dateTime (.ofEpochMicros 0)),
      ("Seen", .dateTime (.ofEpochMicros 1))]
    insert visits now ⟨FieldMap.empty.insert "Id" (.int 1)⟩ [] = (.ok visit, [visit]) := by
  decide +kernel

end Table

/-! ## Rows that are left alone -/

/-- Whether a command, if it succeeds on an entity, neither changes nor removes a row. -/
def Dispatch.Spares (dispatch : Dispatch) (entity : Entity) (row : Record) : Prop :=
  dispatch.SucceedsOn entity →
    dispatch.command.removes row = false ∧ dispatch.command.changesOf? row = none

instance (dispatch : Dispatch) (entity : Entity) (row : Record) :
    Decidable (dispatch.Spares entity row) :=
  inferInstanceAs (Decidable (_ → _ ∧ _))

namespace MemoryStore

variable {entities : List Entity} {registry : Registry} {entity : Entity}

theorem Run.mem_rows (registered : Registry.ofEntities entities = .ok registry)
    (wellFormed : ∀ entity ∈ entities, entity.WellFormed) (member : entity ∈ entities)
    {store final : MemoryStore} {log : List Dispatch} (run : Run registry store log final)
    (reachable : ReachableFromJson registry store) {row : Record}
    (spares : ∀ dispatch ∈ log, dispatch.Spares entity row)
    (stored : row ∈ store.rows entity.name) : row ∈ final.rows entity.name := by
  induction run with
  | done => exact stored
  | setAvailable available _ ih => exact ih (reachable.setAvailable available) spares stored
  | dispatch checked _ ih =>
    obtain ⟨sparesFirst, sparesRest⟩ := List.forall_mem_cons.1 spares
    refine ih (reachable.after checked) sparesRest ?_
    have carried := Dispatch.carries registered wellFormed member reachable.reachable checked stored
      fun succeeds => (sparesFirst succeeds).1
    split at carried
    · next succeeds =>
      obtain ⟨after, storedAfter, applied⟩ := carried
      rw [Command.applyTo, (sparesFirst succeeds).2] at applied
      cases applied
      exact storedAfter
    · exact carried

/-- A row is found under its addresses until a command changes it or removes it. -/
theorem Run.findUnique (registered : Registry.ofEntities entities = .ok registry)
    (declared : ∀ entity ∈ entities,
      ∃ name fields identity, Entity.declare name fields identity = .ok entity)
    (member : entity ∈ entities) {store final : MemoryStore} {log : List Dispatch}
    (run : Run registry store log final) (reachable : ReachableFromJson registry store)
    (available : final.available = true) {row : Record} (stored : row ∈ store.rows entity.name)
    (spares : ∀ dispatch ∈ log, dispatch.Spares entity row) {address : Address}
    (points : Address.PointsTo entity row address) :
    (interface.findUnique entity address final).1 = .ok (some row) := by
  have wellFormed := Entity.forall_wellFormed declared
  have typed := rows_wellTyped registered (declared entity member) reachable member row stored
  obtain ⟨fits, isOf⟩ := typed.fits_of_pointsTo (wellFormed entity member) points
  have valid := rows_valid registered wellFormed (run.reachable reachable).reachable member
  have storedLast := run.mem_rows registered wellFormed member reachable spares stored
  have found := find?_eq_some_of_single (valid.length_filter_isOf_le_one fits) storedLast isOf
  change (inspect entity _ final).1 = _
  rw [result_inspect, if_pos available, found]

/-- The create command of a payload is what the checks of an operation let through. -/
theorem ReachableFromJson.create {store : MemoryStore}
    (reachable : ReachableFromJson registry store)
    (registered : Registry.ofEntities entities = .ok registry) (member : entity ∈ entities)
    {raw : Json} (proper : raw.Proper) {insertion : Insertion}
    (read : Insertion.read entity raw = .ok insertion) (clock : Clock) :
    ReachableFromJson registry (interface.create entity clock insertion store).2 := by
  let operation : Operation := ⟨.create, FieldMap.empty.insert "data" raw⟩
  have described := (Registry.describe_eq_ok_iff registered).2 ⟨member, rfl⟩
  have checked : operation.check entity default = .ok (.create insertion) := by
    change (Insertion.read entity raw >>= fun insertion => pure (Command.create insertion)) = _
    rw [read]
    rfl
  have after := reachable.run described (FieldMap.isProper_empty.insert "data" proper) checked clock
  rw [Command.run, Call.outcome_store] at after
  exact after

/-- What is created is found, and what is not created is refused for a reason. -/
theorem create_found (registered : Registry.ofEntities entities = .ok registry)
    (declared : ∀ entity ∈ entities,
      ∃ name fields identity, Entity.declare name fields identity = .ok entity)
    {store : MemoryStore} (reachable : ReachableFromJson registry store)
    (available : store.available = true) (member : entity ∈ entities) {raw : Json}
    (proper : raw.Proper) {insertion : Insertion}
    (read : Insertion.read entity raw = .ok insertion) (clock : Clock) :
    let rows := store.rows entity.name
    let row := Table.completedRow entity (clock 0) insertion rows
    let answer := interface.create entity clock insertion store
    let exhausted (field : Field) : Prop := insertion.Leaves field ∧ Table.Exhausted rows field
    ((∃ created, answer.1 = .ok created) ↔
      (∀ field ∈ entity.fields, ¬ exhausted field) ∧
        ∀ key ∈ entity.uniqueKeys, ∀ other ∈ rows, ¬ AgreeOn key other row) ∧
    (∀ error, answer.1 = .error error → answer.2.rows entity.name = rows ∧
      ((∃ field ∈ entity.fields, exhausted field ∧
          error = .query (.sequenceExhausted field.name)) ∨
        (∀ field ∈ entity.fields, ¬ exhausted field) ∧
          ∃ front key back, entity.uniqueKeys = front ++ key :: back ∧
            error = .uniqueViolation key ∧ (∃ other ∈ rows, AgreeOn key other row) ∧
            ∀ earlier ∈ front, ∀ other ∈ rows, ¬ AgreeOn earlier other row)) ∧
    ∀ created, answer.1 = .ok created →
      created = row ∧ answer.2.rows entity.name = rows ++ [row] ∧
      (∀ name value, insertion.given.get? name = some value → row.get? name = some value) ∧
      (∀ field ∈ entity.fields, insertion.given.contains field.name = false →
        row.get? field.name = some (Table.omittedValue (clock 0) rows field)) ∧
      (∀ name, row.contains name = true ↔ name ∈ entity.fieldNames) ∧
      ∀ log final, Run registry answer.2 log final → final.available = true →
        (∀ dispatch ∈ log, dispatch.Spares entity row) →
        ∀ address, Address.PointsTo entity row address →
          (interface.findUnique entity address final).1 = .ok (some row) := by
  intro rows row answer exhausted
  have wellFormed := Entity.forall_wellFormed declared entity member
  have fits := (rows_valid registered (Entity.forall_wellFormed declared) reachable.reachable
    member).fits
  obtain ⟨-, given⟩ := Insertion.read_allows proper read
  obtain ⟨result, after⟩ : answer.1 = (Table.insert entity (clock 0) insertion rows).1 ∧
      answer.2.rows entity.name = (Table.insert entity (clock 0) insertion rows).2 :=
    change_of_available _ _ available
  rw [result, after]
  refine ⟨Table.insert_succeeds_iff wellFormed fits given (clock 0), ?_, ?_⟩
  · intro error refused
    obtain ⟨unchanged, reason⟩ := Table.insert_refused wellFormed fits given (clock 0) refused
    refine ⟨unchanged, reason.imp_right ?_⟩
    rintro ⟨free, key, collided, rfl⟩
    obtain ⟨agrees, front, back, parted, before⟩ := Table.collision?_eq_some_iff.1 collided
    exact ⟨free, front, key, back, parted, rfl, agrees, before⟩
  · intro created succeeded
    obtain ⟨same, appended⟩ := Table.insert_stored wellFormed fits given (clock 0) succeeded
    have reached := reachable.create registered member proper read clock
    have stored : row ∈ answer.2.rows entity.name := by
      rw [after, appended]
      exact List.mem_append_right _ List.mem_cons_self
    have typed := rows_wellTyped registered (declared entity member) reached member row stored
    refine ⟨same, appended, ?_, ?_, typed.names, ?_⟩
    · exact fun name value bound => Table.get?_completedRow_of_given wellFormed bound
    · exact fun field isField omitted =>
        Table.get?_completedRow_of_omitted wellFormed isField omitted
    · intro log final later availableLast spares address points
      exact later.findUnique registered declared member reached availableLast stored spares points

/-! ## A second frame -/

/-- A frame with nothing but what has to be given. -/
def secondFrame : Json := .obj [("EventId", .int 7), ("FrameId", .int 2)]

def secondInsertion : Insertion :=
  ⟨(FieldMap.empty.insert "EventId" (.bigInt 7)).insert "FrameId" (.int 2)⟩

/-- What is dispatched behind the creation: the first frame is removed. -/
def firstFrameRemoved : Dispatch :=
  ⟨eventFrames, .delete ⟨FieldMap.empty.insert "Id" (.bigInt 1)⟩, fun _ => default,
    (interface.create eventFrames (fun _ => default) secondInsertion frameStore).2⟩

theorem firstFrameRemoved_checked : firstFrameRemoved.Checked frameRegistry := by
  refine ⟨⟨"Frames", rfl⟩,
    ⟨.delete, FieldMap.empty.insert "where" (.obj [("Id", .int 1)])⟩, default, ?_, rfl⟩
  exact FieldMap.isProper_empty.insert "where" (by simp)

/-- The second frame gets the next number and every default, and is found by its number when the first
one has been removed. -/
theorem secondFrame_found :
    let row : Record := .ofList [("Id", .bigInt 2), ("EventId", .bigInt 7), ("FrameId", .int 2),
      ("Type", .enumeration "Normal"), ("TimeStamp", .dateTime default), ("Delta", .decimal .zero),
      ("Score", .int 0)]
    (interface.create eventFrames (fun _ => default) secondInsertion frameStore).1 = .ok row ∧
    firstFrameRemoved.after.rows "Frames" = [row] ∧
    (interface.findUnique eventFrames ⟨FieldMap.empty.insert "Id" (.bigInt 2)⟩
      firstFrameRemoved.after).1 = .ok (some row) := by
  intro row
  have declared : ∀ entity ∈ [eventFrames],
      ∃ name fields identity, Entity.declare name fields identity = .ok entity := by
    intro entity member
    rw [List.mem_singleton.1 member]
    exact ⟨_, _, _, tableFrames_eq⟩
  have registered : Registry.ofEntities [eventFrames] = .ok frameRegistry := rfl
  have read : Insertion.read eventFrames secondFrame = .ok secondInsertion := by decide +kernel
  have created : (interface.create eventFrames (fun _ => default) secondInsertion frameStore).1
      = .ok row := by decide +kernel
  obtain ⟨-, -, found⟩ := create_found registered declared reachable_frameStore rfl
    List.mem_cons_self (by simp [secondFrame]) read fun _ => default
  obtain ⟨same, -, -, -, -, later⟩ := found row created
  rw [← same] at later
  have run : Run frameRegistry
      (interface.create eventFrames (fun _ => default) secondInsertion frameStore).2
      [firstFrameRemoved] firstFrameRemoved.after :=
    .dispatch firstFrameRemoved_checked (.done _)
  refine ⟨created, by decide +kernel, later _ _ run (by decide +kernel) ?_ _ ?_⟩
  · rw [List.forall_mem_singleton]
    decide +kernel
  · exact .values ["Id"] List.mem_cons_self (by decide +kernel)

end MemoryStore

end RecordStore
