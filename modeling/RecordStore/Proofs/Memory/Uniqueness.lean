import RecordStore.Proofs.Memory.Stores

/-! # Unique keys stay unique

No two rows of a table agree on a unique key.  The invariant has a second half, that every row has
values of the kinds of its fields: without it an address could match two rows that do not agree with
one another, since being the same carries over within a kind only.

* `Valid.put` puts one row between the others; `edit_valid` goes from there through every edit that
  a command makes, batches that break off included.
* `rows_valid` is the invariant on every reachable store.
* `rows_unique` reads off what it is for: an address matches one row or none.
-/

namespace RecordStore

namespace Table

/-- Whether the rows of a table fit its entity, and no two of them agree on a unique key. -/
structure Valid (entity : Entity) (rows : Table) : Prop where
  fits : ∀ row ∈ rows, entity.Fits row
  unique : ∀ key ∈ entity.uniqueKeys, rows.Pairwise fun a b => ¬ AgreeOn key a b

namespace Valid

variable {entity : Entity} {rows kept front back : Table} {row : Record}

theorem nil (entity : Entity) : Valid entity [] := ⟨by simp, by simp⟩

theorem sublist (valid : Valid entity rows) (less : kept.Sublist rows) : Valid entity kept where
  fits row member := valid.fits row (less.subset member)
  unique key member := (valid.unique key member).sublist less

/-- A row that fits and collides with no other can stand between the others. -/
theorem put (valid : Valid entity (front ++ back)) (rowFits : entity.Fits row)
    (free : checkUnique entity (front ++ back) row = .ok ()) :
    Valid entity (front ++ row :: back) := by
  rw [checkUnique_eq_ok_iff] at free
  constructor
  · intro other member
    rcases List.mem_append.1 member with inFront | inBack
    · exact valid.fits other (List.mem_append_left _ inFront)
    · rcases List.mem_cons.1 inBack with rfl | inBack
      · exact rowFits
      · exact valid.fits other (List.mem_append_right _ inBack)
  · intro key isKey
    have apart : ∀ {a b}, ¬ AgreeOn key a b → ¬ AgreeOn key b a :=
      fun disagree agree => disagree agree.symm
    -- To disagree is symmetric, so the row can be taken to the front of the others.
    rw [List.pairwise_middle apart, List.pairwise_cons]
    exact ⟨fun other member => apart (free key isKey other member), valid.unique key isKey⟩

/-- A row of a table collides with none of the others. -/
theorem alone (valid : Valid entity (front ++ row :: back)) :
    checkUnique entity (front ++ back) row = .ok () := by
  rw [checkUnique_eq_ok_iff]
  intro key isKey other member agree
  have apart := valid.unique key isKey
  rw [List.pairwise_middle fun disagree agree => disagree agree.symm, List.pairwise_cons] at apart
  exact apart.1 other member agree.symm

end Valid

/-! ## Edits -/

variable {entity : Entity}

theorem insert_valid (wellFormed : entity.WellFormed) {insertion : Insertion}
    (insertionFits : entity.Fits insertion.given) (now : Readings) {rows : Table}
    (valid : Valid entity rows) : Valid entity (insert entity now insertion rows).2 := by
  rcases insert_cases entity now insertion rows with ⟨row, new, free, run⟩ | ⟨error, -, run⟩
  · rw [run]
    refine Valid.put (by simpa using valid) (newRow_fits wellFormed insertionFits new) ?_
    simpa using free
  · rw [run]
    exact valid

theorem changeAt_valid {changes : Changes} (changesFit : changes.Fits entity) {front : Table}
    {row : Record} {back : Table} (valid : Valid entity (front ++ row :: back)) :
    Valid entity (changeAt entity changes front row back).2 := by
  rcases changeAt_cases entity changes front row back with
    ⟨changed, applied, free, run⟩ | ⟨error, -, run⟩
  · rw [run]
    refine Valid.put (valid.sublist (by simp)) ?_ free
    exact Changes.apply_fits changesFit (valid.fits row (by simp)) applied
  · rw [run]
    exact valid

theorem edit_valid (wellFormed : entity.WellFormed) {command : Command}
    (commandFits : command.Fits entity) (clock : Clock) {rows : Table}
    (valid : Valid entity rows) : Valid entity (command.edit entity clock rows) := by
  obtain ⟨insertionsFit, changesFit⟩ := Command.fits_iff.1 commandFits
  refine Command.edit_induction (Valid entity) ?_ ?_ ?_ valid
  · intro insertion member now rows before
    exact insert_valid wellFormed (insertionsFit insertion member) now before
  · intro changes member front row back before
    exact changeAt_valid (changesFit changes member) before
  · intro rows kept less before
    exact before.sublist less

/-! ## Addresses -/

/-- Two rows that an address matches agree on its key. -/
theorem agreeOn_of_isOf {address : Address} {key : List String}
    (addressed : ∀ name ∈ key, ∃ value field, address.key.get? name = some value ∧
      entity.field? name = some field ∧ field.kind.Holds value) {a b : Record}
    (aFits : entity.Fits a) (bFits : entity.Fits b) (aMatches : address.isOf a = true)
    (bMatches : address.isOf b = true) : AgreeOn key a b := by
  intro name member
  obtain ⟨value, field, bound, found, held⟩ := addressed name member
  have sameA := Address.isOf_iff.1 aMatches name value bound
  have sameB := Address.isOf_iff.1 bMatches name value bound
  refine ⟨?_, ?_, ?_⟩
  · rw [Value.isNull_eq_of_same sameA, held.isNull_eq_false]
  · rw [Value.isNull_eq_of_same sameB, held.isNull_eq_false]
  · rw [Value.same_comm] at sameB
    exact Value.same_trans (aFits name field found) held.fits (bFits name field found) sameA sameB

theorem Valid.length_filter_isOf_le_one {rows : Table} (valid : Valid entity rows)
    {address : Address} (addressFits : address.Fits entity) :
    (rows.filter address.isOf).length ≤ 1 := by
  obtain ⟨key, isKey, addressed⟩ := addressFits
  have apart := (valid.unique key isKey).sublist (List.filter_sublist (p := address.isOf))
  have matched : ∀ row ∈ rows.filter address.isOf, entity.Fits row ∧ address.isOf row = true :=
    fun row member => ⟨valid.fits row (List.mem_filter.1 member).1, (List.mem_filter.1 member).2⟩
  revert apart matched
  cases rows.filter address.isOf with
  | nil => simp
  | cons first rest =>
    cases rest with
    | nil => simp
    | cons second rest =>
      intro apart matched
      obtain ⟨firstFits, firstMatches⟩ := matched first (by simp)
      obtain ⟨secondFits, secondMatches⟩ := matched second (by simp)
      -- Two rows with the same address would agree on its key, which the invariant forbids.
      have agree := agreeOn_of_isOf addressed firstFits secondFits firstMatches secondMatches
      exact absurd agree ((List.pairwise_cons.1 apart).1 second List.mem_cons_self)

end Table

/-! ## Stores -/

namespace MemoryStore

variable {entities : List Entity} {registry : Registry} {store : MemoryStore} {entity : Entity}

theorem rows_valid (registered : Registry.ofEntities entities = .ok registry)
    (wellFormed : ∀ entity ∈ entities, entity.WellFormed) (reachable : Reachable registry store)
    (member : entity ∈ entities) : Table.Valid entity (store.rows entity.name) := by
  induction reachable with
  | empty => exact .nil entity
  | setAvailable _ _ before => exact before
  | run _ described checked clock before =>
    rw [rows_run]
    split
    · next edited =>
      obtain rfl := Registry.describe_unique registered member described edited.2
      exact Table.edit_valid (wellFormed _ member) (Operation.check_fits checked) clock before
    · exact before

/-- On every reachable store, no two rows of an entity agree on a unique key, and an address that has
been read matches at most one row. -/
theorem rows_unique (registered : Registry.ofEntities entities = .ok registry)
    (declared : ∀ entity ∈ entities,
      ∃ name fields identity, Entity.declare name fields identity = .ok entity)
    (reachable : Reachable registry store) (member : entity ∈ entities) :
    (∀ key ∈ entity.uniqueKeys,
      (store.rows entity.name).Pairwise fun a b => ¬ AgreeOn key a b) ∧
    ∀ raw address, Address.read entity raw = .ok address →
      ((store.rows entity.name).filter address.isOf).length ≤ 1 := by
  have wellFormed : ∀ entity ∈ entities, entity.WellFormed := by
    intro entity member
    obtain ⟨name, fields, identity, accepted⟩ := declared entity member
    exact Entity.declare_wellFormed accepted
  have valid := rows_valid registered wellFormed reachable member
  refine ⟨valid.unique, ?_⟩
  intro raw address read
  exact valid.length_filter_isOf_le_one (Address.read_fits read)

/-- Two of the three manufacturers asked for are stored, and neither of them twice. -/
theorem manufacturers_unique :
    ((manufacturerStore.rows "Manufacturers").map fun row => row.valueAt "Name")
      = [.string "Axis", .string "Hikvision"] ∧
    (∀ key ∈ manufacturers.uniqueKeys,
      (manufacturerStore.rows "Manufacturers").Pairwise fun a b => ¬ AgreeOn key a b) ∧
    ∀ raw address, Address.read manufacturers raw = .ok address →
      ((manufacturerStore.rows "Manufacturers").filter address.isOf).length ≤ 1 := by
  refine ⟨by decide +kernel, ?_⟩
  have registered : Registry.ofEntities [manufacturers] = .ok manufacturerRegistry := rfl
  refine rows_unique registered ?_ reachable_manufacturerStore List.mem_cons_self
  intro entity member
  rw [List.mem_singleton.1 member]
  exact ⟨_, _, _, tableManufacturers_eq⟩

end MemoryStore

end RecordStore
