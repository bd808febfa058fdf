import RecordStore.Proofs.Memory.Stores
import RecordStore.Proofs.Query.Windows
import RecordStore.Proofs.Typing.Completeness

/-! # Stored rows are complete

Requests arrive as JSON, whose numbers are finite and of 64 bits at most.  `ReachableFromJson` are
the stores that such requests lead to, and in these every row is well typed: it has exactly the fields
of its entity, each with a value that the field admits.

`rows_complete` adds what is read off this: a row is shown as it is stored, because nothing of it is
left to be completed.
-/

namespace RecordStore

/-! ## Arguments -/

/-- Whether the values of a map are proper JSON. -/
def FieldMap.IsProper (arguments : FieldMap Json) : Prop :=
  ∀ name raw, arguments.get? name = some raw → raw.Proper

theorem FieldMap.IsProper.insert {arguments : FieldMap Json} (proper : arguments.IsProper)
    (name : String) {raw : Json} (rawProper : raw.Proper) :
    (arguments.insert name raw).IsProper := by
  intro other otherRaw bound
  rw [get?_insert] at bound
  split at bound
  · cases bound; exact rawProper
  · exact proper other otherRaw bound

theorem FieldMap.isProper_empty : (FieldMap.empty : FieldMap Json).IsProper := by
  intro name raw bound
  contradiction

namespace ArgumentShape

variable {shape : ArgumentShape} {arguments result : Arguments}

theorem readFields_isProper {fields : List (String × Json)}
    (each : ∀ field ∈ fields, field.2.Proper) (proper : arguments.IsProper)
    (read : shape.readFields fields arguments = .ok result) : result.IsProper := by
  induction fields generalizing arguments with
  | nil => cases read; exact proper
  | cons field rest ih =>
    obtain ⟨fieldProper, restProper⟩ := List.forall_mem_cons.1 each
    unfold readFields at read
    split at read
    · split at read
      · contradiction
      · exact ih restProper proper read
    · split at read
      · contradiction
      · exact ih restProper (proper.insert _ fieldProper) read

theorem readItems_isProper {length position : Nat} {fields : List (String × FieldShape)}
    {items : List Json} (each : ∀ item ∈ items, item.Proper) (proper : arguments.IsProper)
    (read : shape.readItems length position fields items arguments = .ok result) :
    result.IsProper := by
  induction fields generalizing arguments items position with
  | nil =>
    cases items with
    | nil => cases read; exact proper
    | cons => contradiction
  | cons field fields ih =>
    cases items with
    | nil =>
      unfold readItems at read
      split at read
      · contradiction
      · exact ih each proper read
    | cons item rest =>
      obtain ⟨itemProper, restProper⟩ := List.forall_mem_cons.1 each
      unfold readItems at read
      split at read
      · contradiction
      · exact ih restProper (proper.insert _ itemProper) read

theorem read_isProper {raw : Json} (proper : raw.Proper) (read : shape.read raw = .ok result) :
    result.IsProper := by
  unfold ArgumentShape.read at read
  cases proper with
  | obj each =>
    simp only at read
    split at read
    · contradiction
    · next fieldsRead =>
      split at read
      · contradiction
      · cases read
        exact readFields_isProper each FieldMap.isProper_empty fieldsRead
  | arr each => exact readItems_isProper each FieldMap.isProper_empty read
  | _ => contradiction

end ArgumentShape

namespace Operation

theorem read_isProper {name : String} {raw : Json} {operation : Operation} (proper : raw.Proper)
    (read : Operation.read name raw = .ok operation) : operation.arguments.IsProper := by
  unfold Operation.read at read
  split at read
  · contradiction
  · split at read
    · contradiction
    · next shaped =>
      cases read
      refine ArgumentShape.read_isProper ?_ shaped
      split
      · exact .obj (by simp)
      · exact proper

theorem proper_argument {operation : Operation} (proper : operation.arguments.IsProper)
    (name : String) : (operation.argument name).Proper := by
  unfold argument
  cases given : operation.arguments.get? name with
  | none => exact .null
  | some raw => exact proper name raw given

/-- Every item of an argument that is a list is proper. -/
theorem proper_item {operation : Operation} (proper : operation.arguments.IsProper) {name : String}
    {items : List Json} (listed : (operation.argument name).items? = some items) {raw : Json}
    (member : raw ∈ items) : raw.Proper := by
  have argumentProper := proper_argument proper name
  cases given : operation.argument name <;> rw [given] at listed argumentProper <;> cases listed
  cases argumentProper with
  | arr each => exact each raw member

end Operation

/-! ## Commands -/

section Edits

variable {entity : Entity} {operation : Operation} {limits : Limits} {command : Command}

theorem Command.edit_wellTyped (wellFormed : entity.WellFormed) (defaults : entity.AdmitsDefaults)
    (proper : operation.arguments.IsProper) (checked : operation.check entity limits = .ok command)
    (clock : Clock) {rows : Table} (wellTyped : ∀ row ∈ rows, entity.WellTyped row) :
    ∀ row ∈ command.edit entity clock rows, entity.WellTyped row := by
  obtain ⟨insertions, changes⟩ := Operation.check_payloads checked
  refine Command.edit_induction (fun rows => ∀ row ∈ rows, entity.WellTyped row) ?_ ?_ ?_ wellTyped
  · intro insertion member now rows before
    obtain ⟨name, raw, read, source⟩ := insertions insertion member
    have rawProper : raw.Proper := by
      rcases source with rfl | ⟨items, listed, inItems⟩
      · exact Operation.proper_argument proper name
      · exact Operation.proper_item proper listed inItems
    obtain ⟨allows, given⟩ := Insertion.read_allows rawProper read
    rcases Table.insert_cases entity now insertion rows with ⟨row, new, -, run⟩ | ⟨_, -, run⟩
    · rw [run, List.forall_mem_append]
      exact ⟨before, by simpa using Table.newRow_wellTyped wellFormed defaults allows given new⟩
    · rw [run]
      exact before
  · intro change member front row back before
    obtain ⟨name, read⟩ := changes change member
    have suit := Changes.readAny_suit (Operation.proper_argument proper name) read
    rcases Table.changeAt_cases entity change front row back with
      ⟨changed, applied, -, run⟩ | ⟨_, -, run⟩
    · rw [run]
      simp only [List.forall_mem_append, List.forall_mem_cons] at before ⊢
      exact ⟨before.1, Changes.apply_wellTyped wellFormed suit before.2.1 applied, before.2.2⟩
    · rw [run]
      exact before
  · intro rows kept less before row member
    exact before row (less.subset member)

end Edits

/-! ## Rows that are shown -/

/-- The rows of an outcome. -/
def Outcome.rows : Outcome → List Record
  | .record found? => found?.toList
  | .records found => found
  | _ => []

namespace Table

variable {entity : Entity} {rows : Table} {row : Record}

theorem mem_insert {now : Readings} {insertion : Insertion}
    (inserted : (insert entity now insertion rows).1 = .ok row) :
    row ∈ (insert entity now insertion rows).2 := by
  rcases insert_cases entity now insertion rows with ⟨_, -, -, run⟩ | ⟨_, -, run⟩
  · rw [run] at inserted ⊢
    cases inserted
    simp
  · rw [run] at inserted
    contradiction

theorem mem_changeAt {changes : Changes} {front : Table} {before : Record} {back : Table}
    (changed : (changeAt entity changes front before back).1 = .ok row) :
    row ∈ (changeAt entity changes front before back).2 := by
  rcases changeAt_cases entity changes front before back with ⟨_, -, -, run⟩ | ⟨_, -, run⟩
  · rw [run] at changed ⊢
    cases changed
    simp
  · rw [run] at changed
    contradiction

theorem mem_update {address : Address} {changes : Changes}
    (updated : (update entity address changes rows).1 = .ok row) :
    row ∈ (update entity address changes rows).2 := by
  unfold update at updated ⊢
  split at updated
  · contradiction
  · exact mem_changeAt updated

theorem mem_upsert {now : Readings} {address : Address} {insertion : Insertion}
    {changes : Changes} (stored : (upsert entity now address insertion changes rows).1 = .ok row) :
    row ∈ (upsert entity now address insertion changes rows).2 := by
  unfold upsert at stored ⊢
  split at stored
  · exact mem_insert stored
  · exact mem_changeAt stored

theorem mem_of_delete {address : Address} (deleted : (delete entity address rows).1 = .ok row) :
    row ∈ rows := by
  unfold delete at deleted
  split at deleted
  · contradiction
  · next parted =>
    obtain ⟨rfl, -, -⟩ := splitAtFirst_eq_some parted
    cases deleted
    simp

end Table

theorem Call.exists_of_outcome {σ α : Type} {call : Call σ α}
    {toOutcome : α → Except StoreError Outcome} {store : σ} {outcome : Outcome}
    (ran : (call.outcome toOutcome store).1 = .ok outcome) :
    ∃ result, (call store).1 = .ok result ∧ toOutcome result = .ok outcome := by
  unfold Call.outcome at ran
  split at ran
  · next called => exact ⟨_, congrArg Prod.fst called, ran⟩
  · contradiction

namespace MemoryStore

variable {entity : Entity} {store : MemoryStore}

theorem eq_ok_of_inspect {α : Type} {f : Table → Except StoreError α} {result : α}
    (ran : (inspect entity f store).1 = .ok result) : f (store.rows entity.name) = .ok result := by
  unfold inspect at ran
  simp only at ran
  split at ran
  · exact ran
  · contradiction

theorem eq_ok_of_change {α : Type} {edit : Call Table α} {result : α}
    (ran : (change entity edit store).1 = .ok result) :
    (edit (store.rows entity.name)).1 = .ok result ∧
      (change entity edit store).2.rows entity.name = (edit (store.rows entity.name)).2 := by
  by_cases available : store.available = true
  · refine ⟨?_, by rw [rows_change, if_pos ⟨available, rfl⟩]⟩
    simp only [change, available, if_true] at ran
    exact ran
  · simp only [change, available] at ran
    contradiction

/-- A change that shows a row shows the row it has given, completed. -/
theorem exists_of_mem_change {edit : Call Table Record} {outcome : Outcome}
    (ran : ((change entity edit).outcome (Command.run.shownRecord entity) store).1 = .ok outcome) :
    ∀ row ∈ outcome.rows, ∃ stored, row = entity.complete stored ∧
      (edit (store.rows entity.name)).1 = .ok stored ∧
      ((change entity edit).outcome (Command.run.shownRecord entity) store).2.rows entity.name
        = (edit (store.rows entity.name)).2 := by
  obtain ⟨stored, called, shown⟩ := Call.exists_of_outcome ran
  obtain ⟨edited, after⟩ := eq_ok_of_change called
  cases shown
  intro row member
  rw [Call.outcome_store]
  exact ⟨stored, List.mem_singleton.1 member, edited, after⟩

/-- The rows that a run shows are rows of the table before it or behind it, completed. -/
theorem exists_of_mem_outcome {clock : Clock} {command : Command} {outcome : Outcome}
    (ran : (command.run interface entity clock store).1 = .ok outcome) :
    ∀ row ∈ outcome.rows, ∃ stored, row = entity.complete stored ∧
      (stored ∈ store.rows entity.name ∨
        stored ∈ (command.run interface entity clock store).2.rows entity.name) := by
  cases command with
  | count | aggregate | groupBy | createMany | updateMany | deleteMany =>
    obtain ⟨result, -, shown⟩ := Call.exists_of_outcome ran
    cases shown
    exact fun row member => absurd member List.not_mem_nil
  | findUnique address orThrow =>
    obtain ⟨found?, called, shown⟩ := Call.exists_of_outcome ran
    have found := eq_ok_of_inspect called
    cases found? with
    | none =>
      simp only at shown
      split at shown <;> cases shown
      exact fun row member => absurd member List.not_mem_nil
    | some record =>
      cases shown
      intro row member
      cases List.mem_singleton.1 member
      exact ⟨record, rfl, .inl (List.mem_of_find?_eq_some (Except.ok.inj found))⟩
  | find plan first =>
    obtain ⟨found, called, shown⟩ := Call.exists_of_outcome ran
    cases eq_ok_of_inspect called
    intro row member
    have among : row ∈ (plan.run (store.rows entity.name)).map entity.complete := by
      cases shown
      split at member
      · exact List.mem_of_mem_head? (by simpa [Outcome.rows] using member)
      · exact member
    obtain ⟨stored, inPlan, rfl⟩ := List.mem_map.1 among
    exact ⟨stored, rfl, .inl (Plan.mem_of_mem_run inPlan)⟩
  | create insertion =>
    intro row member
    simp only [Command.run, interface] at ran ⊢
    obtain ⟨stored, rfl, inserted, after⟩ := exists_of_mem_change ran row member
    exact ⟨stored, rfl, .inr (after ▸ Table.mem_insert inserted)⟩
  | update address changes =>
    intro row member
    simp only [Command.run, interface] at ran ⊢
    obtain ⟨stored, rfl, updated, after⟩ := exists_of_mem_change ran row member
    exact ⟨stored, rfl, .inr (after ▸ Table.mem_update updated)⟩
  | upsert address insertion changes =>
    intro row member
    simp only [Command.run, interface] at ran ⊢
    obtain ⟨stored, rfl, put, after⟩ := exists_of_mem_change ran row member
    exact ⟨stored, rfl, .inr (after ▸ Table.mem_upsert put)⟩
  | delete address =>
    intro row member
    simp only [Command.run, interface] at ran
    obtain ⟨stored, rfl, deleted, -⟩ := exists_of_mem_change ran row member
    exact ⟨stored, rfl, .inl (Table.mem_of_delete deleted)⟩

/-! ## Stores -/

/-- The stores that checked commands lead to whose arguments are proper JSON. -/
inductive ReachableFromJson (registry : Registry) : MemoryStore → Prop where
  | empty : ReachableFromJson registry .empty
  | run {store : MemoryStore} {name : String} {entity : Entity} {operation : Operation}
      {limits : Limits} {command : Command} (before : ReachableFromJson registry store)
      (described : registry.describe name = .ok entity) (proper : operation.arguments.IsProper)
      (checked : operation.check entity limits = .ok command) (clock : Clock) :
      ReachableFromJson registry (command.run interface entity clock store).2
  | setAvailable {store : MemoryStore} (before : ReachableFromJson registry store)
      (available : Bool) : ReachableFromJson registry (store.setAvailable available)

/-- A request whose arguments are proper JSON leads to no other store. -/
theorem ReachableFromJson.execute {registry : Registry} {store : MemoryStore}
    (before : ReachableFromJson registry store) (limits : Limits) (clock : Clock)
    (cancellation : Cancellation) {request : Request} (proper : request.arguments.Proper) :
    ReachableFromJson registry
      (request.execute interface registry limits clock cancellation store).store :=
  Request.execute_store before fun _ _ _ described read checked =>
    before.run described (Operation.read_isProper proper read) checked clock

theorem ReachableFromJson.reachable {registry : Registry} {store : MemoryStore}
    (reachable : ReachableFromJson registry store) : Reachable registry store := by
  induction reachable with
  | empty => exact .empty
  | run _ described _ checked clock before => exact before.run described checked clock
  | setAvailable _ available before => exact before.setAvailable available

variable {entities : List Entity} {registry : Registry}

theorem rows_wellTyped (registered : Registry.ofEntities entities = .ok registry)
    (declared : ∃ name fields identity, Entity.declare name fields identity = .ok entity)
    (reachable : ReachableFromJson registry store) (member : entity ∈ entities) :
    ∀ row ∈ store.rows entity.name, entity.WellTyped row := by
  obtain ⟨name, fields, identity, accepted⟩ := declared
  have wellFormed := Entity.declare_wellFormed accepted
  have defaults := Entity.declare_admitsDefaults accepted
  induction reachable with
  | empty => exact fun row stored => absurd stored List.not_mem_nil
  | setAvailable _ _ before => exact before
  | run _ described proper checked clock before =>
    rw [rows_run]
    split
    · next edited =>
      obtain rfl := Registry.describe_unique registered member described edited.2
      exact Command.edit_wellTyped wellFormed defaults proper checked clock before
    · exact before

/-- On every store that requests lead to, the rows of an entity are well typed and are left alone by
completion; what a command shows is such a row, as it is stored before the command or behind it. -/
theorem rows_complete (registered : Registry.ofEntities entities = .ok registry)
    (declared : ∃ name fields identity, Entity.declare name fields identity = .ok entity)
    (reachable : ReachableFromJson registry store) (member : entity ∈ entities) :
    (∀ row ∈ store.rows entity.name, entity.WellTyped row ∧ entity.complete row = row) ∧
    ∀ (operation : Operation) (limits : Limits) (command : Command) (clock : Clock)
      (outcome : Outcome), operation.arguments.IsProper →
      operation.check entity limits = .ok command →
      (command.run interface entity clock store).1 = .ok outcome →
      ∀ row ∈ outcome.rows, entity.WellTyped row ∧
        (row ∈ store.rows entity.name ∨
          row ∈ (command.run interface entity clock store).2.rows entity.name) := by
  have before := rows_wellTyped registered declared reachable member
  refine ⟨fun row stored =>
    ⟨before row stored, Entity.complete_of_wellTyped (before row stored)⟩, ?_⟩
  intro operation limits command clock outcome proper checked ran row shown
  have described := (Registry.describe_eq_ok_iff registered).2 ⟨member, rfl⟩
  have after := rows_wellTyped registered declared
    (reachable.run described proper checked clock) member
  obtain ⟨stored, rfl, source⟩ := exists_of_mem_outcome ran row shown
  have wellTyped : entity.WellTyped stored := source.elim (before stored) (after stored)
  rw [Entity.complete_of_wellTyped wellTyped]
  exact ⟨wellTyped, source⟩

/-! ## Frames of the catalogue -/

/-- The frames of the catalogue, with every kind of default; the declaration has brought the one of
the decimal to its kind. -/
def eventFrames : Entity :=
  ⟨"Frames",
    [(Field.ofKind .bigInt "Id").numbered, .ofKind .bigInt "EventId", .ofKind .int "FrameId",
     (Field.ofKind (.enumeration Catalog.frameTypes) "Type").withDefault (.enumeration "Normal"),
     (Field.ofKind .dateTime "TimeStamp").stamped,
     (Field.ofKind .decimal "Delta").withDefault (.decimal .zero),
     (Field.ofKind .int "Score").withDefault (.int 0)], ["Id"]⟩

theorem tableFrames_eq : Catalog.tableFrames = .ok eventFrames := by decide

def frameRegistry : Registry := ⟨FieldMap.empty.insert "Frames" eventFrames⟩

/-- Requests for a frame, and for a greater delta of it. -/
def frameRequests : List Request :=
  [⟨"Frames", "create", .obj [("data", .obj [("EventId", .int 7), ("FrameId", .int 1)])]⟩,
   ⟨"Frames", "update", .obj
     [("where", .obj [("Id", .int 1)]),
      ("data", .obj [("Delta", .obj [("increment", .str "0.125")])])]⟩]

/-- The store behind those requests. -/
def frameStore : MemoryStore :=
  frameRequests.foldl
    (fun store request =>
      (request.execute interface frameRegistry default (fun _ => default) .never store).store)
    .empty

theorem reachable_frameStore : ReachableFromJson frameRegistry frameStore := by
  have proper : ∀ request ∈ frameRequests, request.arguments.Proper := by
    simp [frameRequests]
  refine List.foldlRecOn (motive := ReachableFromJson frameRegistry) _ _ .empty ?_
  intro store before request member
  exact before.execute _ _ _ (proper request member)

def storedFrame : Record :=
  .ofList [("Id", .bigInt 1), ("EventId", .bigInt 7), ("FrameId", .int 1),
    ("Type", .enumeration "Normal"), ("TimeStamp", .dateTime default),
    ("Delta", .decimal ⟨false, 125, 3, by decide, by decide⟩), ("Score", .int 0)]

/-- The frame is stored with a value for each of its fields. -/
theorem frames_complete :
    frameStore.rows "Frames" = [storedFrame] ∧ eventFrames.WellTyped storedFrame ∧
      eventFrames.complete storedFrame = storedFrame := by
  have registered : Registry.ofEntities [eventFrames] = .ok frameRegistry := rfl
  have stored : frameStore.rows "Frames" = [storedFrame] := by decide +kernel
  have complete := rows_complete registered ⟨_, _, _, tableFrames_eq⟩ reachable_frameStore
    List.mem_cons_self
  exact ⟨stored, complete.1 storedFrame (stored ▸ List.mem_cons_self)⟩

end MemoryStore

end RecordStore
