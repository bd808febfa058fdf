import RecordStore.Proofs.Memory.Numbering

/-! # An upsert is an update or a creation

An upsert looks a row up and then does what an update at the same address does, or a creation if there
is no such row.  So it can be repeated: what it has created is at the address if the new row is given
the values of the address, and a change without fields writes a row back as it is, which the checks of
the keys accept.
-/

namespace RecordStore

/-! ## Changes without fields -/

theorem Changes.apply_of_isEmpty {changes : Changes} (empty : changes.isEmpty = true) (row : Record) :
    changes.apply row = .ok row := by
  have noEntries : changes.byField.entries = [] := by
    simpa [Changes.isEmpty, FieldMap.isEmpty] using empty
  rw [Changes.apply, noEntries]
  rfl

/-! ## New rows at an address -/

namespace Insertion

/-- Whether an insertion gives the values of an address, be they written in another way. -/
def Carries (insertion : Insertion) (address : Address) : Prop :=
  ∀ name value, address.key.get? name = some value →
    ∃ given, insertion.given.get? name = some given ∧ (given = value ∨ given.same value = true)

variable {entity : Entity} {insertion : Insertion} {address : Address}

/-- A new row is at every address whose values it is given. -/
theorem Carries.isOf_newRow (carries : insertion.Carries address)
    (wellFormed : entity.WellFormed) (payload : insertion.IsPayload entity) {rows : Table}
    (fits : ∀ row ∈ rows, entity.Fits row) {now : Readings} {row : Record}
    (new : Table.newRow entity now insertion rows = .ok row) : address.isOf row = true := by
  obtain ⟨raw, proper, read⟩ := payload
  obtain ⟨allows, required⟩ := Insertion.read_allows proper read
  have completed := Table.eq_completedRow_of_newRow wellFormed fits required now new
  rw [Address.isOf_iff]
  intro name value bound
  obtain ⟨given, isGiven, same⟩ := carries name value bound
  have kept : row.valueAt name = given := by
    rw [completed, FieldMap.valueAt, Table.get?_completedRow_of_given wellFormed isGiven]
    rfl
  rw [kept]
  cases same with
  | inr same => exact same
  | inl equal =>
    obtain ⟨field, -, admits⟩ := allows name given isGiven
    rw [← equal]
    exact admits.fits.same_self admits.isNaN_eq_false

end Insertion

/-! ## Tables -/

namespace Table

variable {entity : Entity} {now : Readings} {address : Address} {insertion : Insertion}
  {changes : Changes} {rows : Table}

theorem upsert_of_find?_eq_some {row : Record} (found : rows.find? address.isOf = some row) :
    upsert entity now address insertion changes rows = update entity address changes rows := by
  rw [← map_splitAtFirst] at found
  unfold upsert update
  cases split : splitAtFirst address.isOf rows with
  | none =>
    rw [split] at found
    contradiction
  | some parts => rfl

theorem upsert_of_find?_eq_none (absent : rows.find? address.isOf = none) :
    upsert entity now address insertion changes rows = insert entity now insertion rows := by
  rw [← map_splitAtFirst, Option.map_eq_none_iff] at absent
  unfold upsert
  rw [absent]

/-- Without fields to change, a row that collides with no other is written back. -/
theorem changeAt_of_isEmpty (empty : changes.isEmpty = true) {front back : Table} {row : Record}
    (alone : checkUnique entity (front ++ back) row = .ok ()) :
    changeAt entity changes front row back = (.ok row, front ++ row :: back) := by
  unfold changeAt
  rw [Changes.apply_of_isEmpty empty row]
  simp only [alone]

theorem update_of_isEmpty (valid : Valid entity rows) (empty : changes.isEmpty = true) {row : Record}
    (found : rows.find? address.isOf = some row) :
    update entity address changes rows = (.ok row, rows) := by
  rw [← map_splitAtFirst] at found
  cases split : splitAtFirst address.isOf rows with
  | none =>
    rw [split] at found
    contradiction
  | some parts =>
    obtain ⟨front, first, back⟩ := parts
    obtain ⟨rfl, -, -⟩ := splitAtFirst_eq_some split
    rw [split] at found
    cases found
    unfold update
    rw [split]
    exact changeAt_of_isEmpty empty valid.alone

/-- A row is added where none was found and the new one is stored, and nowhere else. -/
theorem length_upsert (entity : Entity) (now : Readings) (address : Address) (insertion : Insertion)
    (changes : Changes) (rows : Table) :
    let answer := upsert entity now address insertion changes rows
    (answer.2.length = rows.length ∨ answer.2.length = rows.length + 1) ∧
    (answer.2.length = rows.length + 1 ↔
      (∀ row ∈ rows, address.isOf row = false) ∧ ∃ row, answer.1 = .ok row) := by
  intro answer
  cases split : splitAtFirst address.isOf rows with
  | none =>
    have absent := splitAtFirst_eq_none_iff.1 split
    have inserts : answer = insert entity now insertion rows := by
      show upsert entity now address insertion changes rows = _
      rw [upsert, split]
    cases insert_cases entity now insertion rows with
    | inl stored =>
      obtain ⟨row, -, -, run⟩ := stored
      rw [inserts, run]
      simpa using absent
    | inr refused =>
      obtain ⟨error, -, run⟩ := refused
      rw [inserts, run]
      simp
  | some parts =>
    obtain ⟨front, row, back⟩ := parts
    obtain ⟨rfl, accepted, -⟩ := splitAtFirst_eq_some split
    have changes : answer = changeAt entity changes front row back := by
      show upsert entity now address insertion changes _ = _
      rw [upsert, split]
    have kept : answer.2.length = (front ++ row :: back).length := by
      cases changeAt_cases entity _ front row back with
      | inl changed =>
        obtain ⟨next, -, -, run⟩ := changed
        rw [changes, run]
        simp
      | inr refused =>
        obtain ⟨error, -, run⟩ := refused
        rw [changes, run]
    have present : ¬ ∀ other ∈ front ++ row :: back, address.isOf other = false := by
      intro absent
      rw [absent row (by simp)] at accepted
      contradiction
    refine ⟨.inl kept, ?_⟩
    rw [kept]
    simp only [present, false_and, iff_false]
    omega

/-- What an upsert has created at its address, the next one finds. -/
theorem upsert_of_created (wellFormed : entity.WellFormed) (valid : Valid entity rows)
    (payload : insertion.IsPayload entity) (carries : insertion.Carries address)
    (absent : ∀ row ∈ rows, address.isOf row = false) {row : Record}
    (created : (insert entity now insertion rows).1 = .ok row) (empty : changes.isEmpty = true)
    (later : Readings) :
    upsert entity later address insertion changes (insert entity now insertion rows).2
      = (.ok row, (insert entity now insertion rows).2) := by
  cases insert_cases entity now insertion rows with
  | inl stored =>
    obtain ⟨made, new, -, run⟩ := stored
    rw [run] at created
    cases created
    have isOf := carries.isOf_newRow wellFormed payload valid.fits new
    obtain ⟨raw, -, read⟩ := payload
    have validAfter := insert_valid wellFormed (Insertion.read_fits read) now valid
    rw [run] at validAfter ⊢
    have found : (rows ++ [row]).find? address.isOf = some row := by
      rw [List.find?_append, List.find?_eq_none.2 (by simpa using absent)]
      simp [isOf]
    rw [upsert_of_find?_eq_some found]
    exact update_of_isEmpty validAfter empty found
  | inr refused =>
    obtain ⟨error, -, run⟩ := refused
    rw [run] at created
    contradiction

end Table

/-! ## Stores -/

namespace MemoryStore

variable {entities : List Entity} {registry : Registry} {store : MemoryStore} {entity : Entity}
  {address : Address} {insertion : Insertion} {changes : Changes} {clock : Clock}

theorem findUnique_eq_some_iff {row : Record} :
    (interface.findUnique entity address store).1 = .ok (some row) ↔
      store.available = true ∧ (store.rows entity.name).find? address.isOf = some row := by
  show (inspect entity _ store).1 = _ ↔ _
  rw [result_inspect]
  split
  · next available => simp [available]
  · next off => simp [off]

theorem upsert_of_found {row : Record}
    (found : (interface.findUnique entity address store).1 = .ok (some row)) :
    interface.upsert entity clock address insertion changes store
      = interface.update entity address changes store := by
  obtain ⟨-, found⟩ := findUnique_eq_some_iff.1 found
  show change entity (Table.upsert entity (clock 0) address insertion changes) store
    = change entity (Table.update entity address changes) store
  exact change_congr (Table.upsert_of_find?_eq_some found)

theorem upsert_of_not_found
    (absent : ∀ row, (interface.findUnique entity address store).1 ≠ .ok (some row)) :
    interface.upsert entity clock address insertion changes store
      = interface.create entity clock insertion store := by
  show change entity (Table.upsert entity (clock 0) address insertion changes) store
    = change entity (Table.insert entity (clock 0) insertion) store
  by_cases available : store.available = true
  · apply change_congr
    apply Table.upsert_of_find?_eq_none
    rw [Option.eq_none_iff_forall_ne_some]
    intro row found
    exact absent row (findUnique_eq_some_iff.2 ⟨available, found⟩)
  · -- A store that is switched off refuses either of them.
    rw [change_of_off entity _ available, change_of_off entity _ available]

theorem upsert_of_isEmpty (valid : Table.Valid entity (store.rows entity.name)) {row : Record}
    (found : (interface.findUnique entity address store).1 = .ok (some row))
    (empty : changes.isEmpty = true) :
    interface.upsert entity clock address insertion changes store
      = (.ok row, { store with calls := store.calls + 1 }) := by
  rw [upsert_of_found found]
  obtain ⟨available, found⟩ := findUnique_eq_some_iff.1 found
  apply change_of_unchanged available (Table.update_of_isEmpty valid empty found)
  intro noRows
  rw [noRows] at found
  contradiction

theorem length_rows_upsert (entity : Entity) (clock : Clock) (address : Address)
    (insertion : Insertion) (changes : Changes) (store : MemoryStore) :
    let rows := store.rows entity.name
    let answer := interface.upsert entity clock address insertion changes store
    let after := answer.2.rows entity.name
    (after.length = rows.length ∨ after.length = rows.length + 1) ∧
    (after.length = rows.length + 1 ↔
      (∀ row ∈ rows, address.isOf row = false) ∧ ∃ row, answer.1 = .ok row) := by
  intro rows answer after
  by_cases available : store.available = true
  · obtain ⟨result, table⟩ := change_of_available entity
      (Table.upsert entity (clock 0) address insertion changes) available
    change answer.1 = _ at result
    change after = _ at table
    rw [result, table]
    exact Table.length_upsert entity (clock 0) address insertion changes rows
  · have off : answer = (.error (.unavailable unavailableReason),
        ⟨store.tables, store.available, store.calls + 1⟩) :=
      change_of_off entity (Table.upsert entity (clock 0) address insertion changes) available
    have same : after = rows := by
      show answer.2.rows entity.name = _
      rw [off]
      rfl
    rw [same, off]
    simp

/-- What has been created at an address comes back from an upsert with nothing to change. -/
theorem upsert_of_created (wellFormed : entity.WellFormed)
    (valid : Table.Valid entity (store.rows entity.name)) (payload : insertion.IsPayload entity)
    (carries : insertion.Carries address)
    (absent : ∀ row ∈ store.rows entity.name, address.isOf row = false) {row : Record}
    (created : (interface.create entity clock insertion store).1 = .ok row)
    (empty : changes.isEmpty = true) (later : Clock) :
    let after := (interface.create entity clock insertion store).2
    interface.upsert entity later address insertion changes after
      = (.ok row, { after with calls := after.calls + 1 }) := by
  intro after
  have available := available_of_change_eq_ok created
  obtain ⟨inserted, table⟩ := eq_ok_of_change created
  change after.rows entity.name = _ at table
  have stored := Table.upsert_of_created wellFormed valid payload carries absent inserted empty
    (later 0)
  rw [← table] at stored
  apply change_of_unchanged ((available_change _ _ _).trans available) stored
  intro (noRows : after.rows entity.name = [])
  rw [noRows, Table.insert_of_ok inserted] at table
  simp at table

/-- An upsert is an update where its address is found, and a creation where it is not.

With nothing to change, a row that is found comes back as it is stored, and the store only counts the
call.  The table grows by one row where none was found and the new one is stored, and nowhere else.  What
has been created with the values of the address is found when the upsert is repeated with nothing to
change: it comes back, and again the store only counts the call. -/
theorem upsert_repeats (registered : Registry.ofEntities entities = .ok registry)
    (declared : ∀ entity ∈ entities,
      ∃ name fields identity, Entity.declare name fields identity = .ok entity)
    (reachable : Reachable registry store) (member : entity ∈ entities) {raw : Json}
    (proper : raw.Proper) (read : Insertion.read entity raw = .ok insertion) (address : Address)
    (changes : Changes) (clock : Clock) :
    let rows := store.rows entity.name
    let found := (interface.findUnique entity address store).1
    let answer := interface.upsert entity clock address insertion changes store
    (∀ row, found = .ok (some row) →
      answer = interface.update entity address changes store ∧
      (changes.isEmpty = true → answer = (.ok row, { store with calls := store.calls + 1 }))) ∧
    ((∀ row, found ≠ .ok (some row)) → answer = interface.create entity clock insertion store) ∧
    ((answer.2.rows entity.name).length = rows.length ∨
      (answer.2.rows entity.name).length = rows.length + 1) ∧
    ((answer.2.rows entity.name).length = rows.length + 1 ↔
      (∀ row ∈ rows, address.isOf row = false) ∧ ∃ row, answer.1 = .ok row) ∧
    ((∀ row ∈ rows, address.isOf row = false) → insertion.Carries address →
      ∀ row, answer.1 = .ok row → ∀ nothing : Changes, nothing.isEmpty = true → ∀ later,
        interface.upsert entity later address insertion nothing answer.2
          = (.ok row, { answer.2 with calls := answer.2.calls + 1 })) := by
  intro rows found answer
  have wellFormed := Entity.forall_wellFormed declared
  have valid := rows_valid registered wellFormed reachable member
  obtain ⟨lengths, grows⟩ := length_rows_upsert entity clock address insertion changes store
  refine ⟨?_, fun absent => upsert_of_not_found absent, lengths, grows, ?_⟩
  · intro row isFound
    exact ⟨upsert_of_found isFound, fun empty => upsert_of_isEmpty valid isFound empty⟩
  · intro absent carries row created nothing empty later
    have notFound : ∀ row, (interface.findUnique entity address store).1 ≠ .ok (some row) := by
      intro row isFound
      obtain ⟨-, isFound⟩ := findUnique_eq_some_iff.1 isFound
      have matched := List.find?_some isFound
      rw [absent row (List.mem_of_find?_eq_some isFound)] at matched
      contradiction
    have creates : answer = interface.create entity clock insertion store :=
      upsert_of_not_found notFound
    rw [creates] at created ⊢
    exact upsert_of_created (wellFormed entity member) valid ⟨raw, proper, read⟩ carries absent
      created empty later

/-- A manufacturer that is not there is created, although what is to be changed would take the name of
another one, and the same upsert with nothing to change finds it. -/
theorem bosch_repeats :
    let bosch : Address := ⟨FieldMap.empty.insert "Name" (.string "Bosch")⟩
    let insertion : Insertion := ⟨FieldMap.empty.insert "Name" (.string "Bosch")⟩
    let changes : Changes := ⟨FieldMap.empty.insert "Name" (.set (.string "Axis"))⟩
    let answer := interface.upsert manufacturers (fun _ => default) bosch insertion changes
      manufacturerStore
    answer.1 = .ok (manufacturer 3 "Bosch") ∧
    answer = interface.create manufacturers (fun _ => default) insertion manufacturerStore ∧
    ∀ later, interface.upsert manufacturers later bosch insertion ⟨.empty⟩ answer.2
      = (.ok (manufacturer 3 "Bosch"), { answer.2 with calls := answer.2.calls + 1 }) := by
  intro bosch insertion changes answer
  have read : Insertion.read manufacturers (.obj [("Name", .str "Bosch")]) = .ok insertion := by
    decide +kernel
  obtain ⟨-, creates, -, -, again⟩ := upsert_repeats manufacturers_registered manufacturers_declared
    reachable_manufacturerStore List.mem_cons_self (by simp) read bosch changes fun _ => default
  have notFound : (interface.findUnique manufacturers bosch manufacturerStore).1 = .ok none := by
    decide +kernel
  have absent : ∀ row ∈ manufacturerStore.rows manufacturers.name, bosch.isOf row = false := by
    decide +kernel
  have carries : insertion.Carries bosch := fun name value bound => ⟨value, bound, .inl rfl⟩
  have created : answer.1 = .ok (manufacturer 3 "Bosch") := by decide +kernel
  refine ⟨created, creates ?_, again absent carries _ created ⟨.empty⟩ rfl⟩
  intro row
  rw [notFound]
  simp

end MemoryStore

end RecordStore
