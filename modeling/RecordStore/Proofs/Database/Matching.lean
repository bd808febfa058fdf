import RecordStore.Proofs.Database.Narrowing
import RecordStore.Store.Database

/-! # What the clause of a filter finds

A statement narrows the stored rows by the clause of a filter.  Where the clause is not exact, the
records that have been read are filtered once more.  `narrowing_sound` says that this finds the
records that pass, and that the clause alone finds them where it is exact.

Tables are compared with lists of records through pairs of a stored row and its record, so that both
sides are filtered together.
-/

namespace RecordStore

/-! ## Rows beside records -/

theorem exists_pairs {α β : Type} {R : α → β → Prop} {as : List α} {bs : List β}
    (related : List.Forall₂ R as bs) :
    ∃ pairs : List (α × β), as = pairs.map Prod.fst ∧ bs = pairs.map Prod.snd ∧
      ∀ pair ∈ pairs, R pair.1 pair.2 := by
  induction related with
  | nil => exact ⟨[], rfl, rfl, by simp⟩
  | cons first _ ih =>
    obtain ⟨pairs, rfl, rfl, each⟩ := ih
    exact ⟨(_, _) :: pairs, rfl, rfl, List.forall_mem_cons.2 ⟨first, each⟩⟩

theorem Entity.loadAll_pairs {entity : Entity} {pairs : List (StoredRow × Record)}
    (loads : ∀ pair ∈ pairs, entity.load pair.1 = .ok pair.2) :
    entity.loadAll (pairs.map Prod.fst) = .ok (pairs.map Prod.snd) := by
  rw [loadAll, mapM_eq_ok, List.forall₂_map_left_iff, List.forall₂_map_right_iff,
    List.forall₂_same]
  exact loads

namespace DatabaseStore

variable {entity : Entity} {filter : Filter}

/-- Whether the stored rows of a table represent records on which a filter can be left to the
database. -/
def Tabulates (entity : Entity) (filter : Filter) (rows : StoredTable) (records : List Record) :
    Prop :=
  List.Forall₂ (fun row record => entity.Represents row record ∧ filter.Faithful entity record)
    rows records

theorem selectMatching_eq (entity : Entity) (filter : Filter) (rows : StoredTable) :
    selectMatching entity filter rows = rows.filter fun row =>
      (filter.narrowing entity []).1.keeps (filter.narrowing entity []).2 row := by
  unfold selectMatching
  split
  · next always =>
    unfold Predicate.isAlways at always
    split at always
    · exact (List.filter_true rows).symm
    · contradiction
  · rfl

theorem matching_pairs (wellFormed : entity.WellFormed)
    (suits : ∀ condition ∈ filter.leaves, condition.Suits entity)
    {pairs : List (StoredRow × Record)}
    (represent : ∀ pair ∈ pairs, entity.Represents pair.1 pair.2 ∧ filter.Faithful entity pair.2) :
    matching entity filter (pairs.map Prod.fst)
      = .ok ((pairs.map Prod.snd).filter filter.selects) := by
  have stands := fun pair member =>
    have represents := (represent pair member).1
    Predicate.narrowing_eval suits (Entity.load_fits wellFormed represents.loads)
      represents.stores (represent pair member).2 (List.prefix_refl (filter.narrowing entity []).2)
  rw [matching, selectMatching_eq, List.filter_map, List.filter_map, loadMatching,
    Entity.loadAll_pairs fun pair member => (represent pair (List.mem_filter.1 member).1).1.loads]
  simp only [Except.ok.injEq]
  split
  · next exact =>
    -- The clause is the filter, so there is nothing left to leave out.
    refine congrArg (List.map Prod.snd) (List.filter_congr fun pair member => ?_)
    simp [Clause.keeps, (stands pair member).eq_some exact]
  -- The clause keeps every record that passes, and the records that it keeps are filtered again.
  · rw [List.filter_map, List.filter_filter]
    refine congrArg (List.map Prod.snd) (List.filter_congr fun pair member => ?_)
    cases passes : filter.selects pair.2
    · simp [passes]
    · simp [passes, Clause.keeps, (stands pair member).eq_true passes]

/-- The clause of a filter is true of every row that stores a record which passes; it is never unknown,
and true of no other rows, if the filter is exact.  The records that are read of the rows that it
keeps are, in the end, those that pass. -/
theorem narrowing_sound {name : String} {fields : List Field} {identity : List String}
    {maxDepth : Nat} {raw : Json} (declared : Entity.declare name fields identity = .ok entity)
    (read : Filter.read entity maxDepth raw = .ok filter) :
    (∀ row record bound, entity.Fits record → entity.Stores row record →
      filter.Faithful entity record →
      let clause := (filter.narrowing entity bound).1
      let parameters := (filter.narrowing entity bound).2
      (filter.selects record = true → clause.eval parameters row = some true) ∧
      (filter.isExact entity = true → clause.eval parameters row = some (filter.selects record))) ∧
    ∀ rows records, Tabulates entity filter rows records →
      matching entity filter rows = .ok (records.filter filter.selects) := by
  have suits := Filter.read_suits read
  constructor
  · intro row record bound fits stores faithful
    have stands := Predicate.narrowing_eval suits fits stores faithful
      (List.prefix_refl (filter.narrowing entity bound).2)
    exact ⟨stands.eq_true, stands.eq_some⟩
  · intro rows records tabulates
    obtain ⟨pairs, rfl, rfl, represent⟩ := exists_pairs tabulates
    exact matching_pairs (Entity.declare_wellFormed declared) suits represent

/-! ## A table with decimals -/

/-- Frames with a note that may be null and a decimal. -/
def frames : Entity :=
  ⟨"Frames",
    [.ofKind .int "Id", (Field.ofKind .string "Note").orNull, .ofKind .decimal "Delta"], ["Id"]⟩

/-- A frame of a number and a note, half a second behind the one before it. -/
def frame (id : Int32) (note : Value) : Record :=
  .ofList [("Id", .int id), ("Note", note), ("Delta", .decimal ⟨false, 5, 1, by decide, by decide⟩)]

/-- The frames with an `r` in the note and a delta of at most one. -/
def frameFilter : Filter :=
  .and [.leaf ⟨"Note", .contains ⟨"r", .sensitive⟩⟩,
    .not [.leaf ⟨"Delta", .gt (.decimal (.ofInt64 1))⟩]]

theorem frameFilter_faithful {record : Record}
    (plain : ∀ note, record.valueAt "Note" = .string note → PlainText note) :
    frameFilter.Faithful frames record := by
  intro condition member notDecimal
  simp only [frameFilter, Predicate.leaves, Predicate.leavesOfAll, List.append_nil,
    List.cons_append, List.nil_append, List.mem_cons, List.not_mem_nil, or_false] at member
  rcases member with rfl | rfl
  · exact ⟨⟨by decide, by decide⟩, plain⟩
  · exact absurd notDecimal (by decide)

/-- The frame with a note is found.  The condition on its delta is left to the record. -/
theorem frames_found :
    (frameFilter.narrowing frames []).1.eval (frameFilter.narrowing frames []).2
      (frames.store (frame 2 (.string "dark"))) = some true ∧
    matching frames frameFilter
      [frames.store (frame 1 .null), frames.store (frame 2 (.string "dark"))]
      = .ok [frame 2 (.string "dark")] := by
  have declared : Entity.declare "Frames" frames.fields ["Id"] = .ok frames := by decide
  have read : Filter.read frames 8
      (.obj [("Note", .obj [("contains", .str "r")]),
        ("NOT", .obj [("Delta", .obj [("gt", .int 1)])])]) = .ok frameFilter := rfl
  have dark : frameFilter.Faithful frames (frame 2 (.string "dark")) := by
    apply frameFilter_faithful
    rintro _ ⟨⟩
    exact ⟨by decide, by decide⟩
  have blank : frameFilter.Faithful frames (frame 1 .null) := by
    apply frameFilter_faithful
    rintro _ ⟨⟩
  have darkLoads : frames.load (frames.store (frame 2 (.string "dark")))
    = .ok (frame 2 (.string "dark")) := by decide +kernel
  have blankLoads : frames.load (frames.store (frame 1 .null)) = .ok (frame 1 .null) := by
    decide +kernel
  have sound := narrowing_sound declared read
  constructor
  · have fits := Entity.load_fits (Entity.declare_wellFormed declared) darkLoads
    exact (sound.1 _ _ [] fits (frames.stores_store _) dark).1 (by decide +kernel)
  · rw [sound.2 _ [frame 1 .null, frame 2 (.string "dark")]
      (.cons ⟨⟨blankLoads, frames.stores_store _⟩, blank⟩
        (.cons ⟨⟨darkLoads, frames.stores_store _⟩, dark⟩ .nil))]
    decide +kernel

end DatabaseStore

end RecordStore
