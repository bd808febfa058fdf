import RecordStore.Proofs.RoundTrip.Records

/-! # Rows are found under the JSON of their keys

The values that a row has in a unique key are written as an object, and read as the address of the row,
or as the address inside of a wrapped identity.  No field of such an object is mistaken for a wrapped
identity, whatever the names of the fields are, because no value is written as an object.

`read_recordJson` says that the address is accepted where some unique key has as many names as the object
has fields.  The key itself has if it lists no field twice, and `addresses_read` puts this together.  A
key that lists a field twice is one that an object cannot be (`twins_unaddressed`).
-/

namespace RecordStore

/-! ## Names of a map -/

theorem FieldMap.keys_nodup {α : Type} (m : FieldMap α) : m.keys.Nodup := by
  rw [keys, List.Nodup, List.pairwise_map]
  refine m.sorted.imp ?_
  intro a b before same
  exact String.lt_irrefl _ (same ▸ before)

theorem FieldMap.size_eq_length {α : Type} {m : FieldMap α} {names : List String}
    (distinct : names.Nodup) (same : ∀ name, m.contains name = true ↔ name ∈ names) :
    m.size = names.length := by
  have listed : m.keys.Perm names := (List.perm_ext_iff_of_nodup m.keys_nodup distinct).2 fun name => by
    rw [← contains_iff, same]
  rw [← listed.length_eq, keys, List.length_map, size]

/-! ## Values of a key -/

theorem FieldKind.Admits.same_unsignedZero {kind : FieldKind} {value : Value}
    (admits : kind.Admits value) : value.same value.unsignedZero = true := by
  have fits : kind.Fits value := .inr admits.holds
  cases admits with
  | decimal x =>
    rw [Value.same_comm, Value.same_iff_of_isNull_eq_false rfl]
    exact congrArg some x.compare_unsignedZero
  | float finite => exact fits.same_self (Double.isNaN_of_isFinite finite)
  | _ => exact fits.same_self rfl

/-- No value is written as an object. -/
theorem Value.toJson_ne_obj (value : Value) (entries : List (String × Json)) :
    value.toJson ≠ .obj entries := by
  cases value with
  | float x =>
    rw [toJson, Json.number]
    split <;> simp
  | _ => simp [toJson]

/-- A value of a row, unless it is null, is one that a field admits, of the kind of the field. -/
theorem Entity.WellTyped.exists_admits {entity : Entity} {row : Record}
    (wellTyped : entity.WellTyped row) (wellFormed : entity.WellFormed) {name : String}
    (present : (row.valueAt name).isNull = false) :
    ∃ field, entity.field? name = some field ∧ field.kind.Admits (row.valueAt name) := by
  cases bound : row.get? name with
  | none =>
    rw [FieldMap.valueAt, bound] at present
    contradiction
  | some value =>
    obtain ⟨field, found, admits⟩ := wellTyped.allows wellFormed name value bound
    have held : row.valueAt name = value := by rw [FieldMap.valueAt, bound, Option.getD_some]
    rw [held] at present ⊢
    rcases admits with ⟨rfl, -⟩ | admits
    · contradiction
    · exact ⟨field, found, admits⟩

namespace Address

variable {entity : Entity} {row : Record} {key : List String}

/-! ## Entries of an address -/

theorem unwrap_of_ne_obj {entries : List (String × Json)}
    (plain : ∀ entry ∈ entries, ∀ inner, entry.2 ≠ .obj inner) : unwrap entity entries = entries := by
  unfold unwrap
  split
  · next name inner => exact absurd rfl (plain _ List.mem_cons_self inner)
  · rfl

theorem unwrap_compoundName (several : 1 < entity.identity.length) (inner : List (String × Json)) :
    unwrap entity [(compoundName entity, .obj inner)] = inner :=
  if_pos ⟨several, rfl⟩

/-- The entries of an address are read as those of a new row, if none of them is null. -/
theorem readEntries_of_present {entries : List (String × Json)}
    (present : ∀ entry ∈ entries, entry.2.isNull = false) (given : Record) :
    readEntries entity entries given = Insertion.readEntries entity entries given := by
  induction entries generalizing given with
  | nil => rfl
  | cons entry rest ih =>
    obtain ⟨first, others⟩ := List.forall_mem_cons.1 present
    simp only [readEntries, Insertion.readEntries, first, ih others]
    rfl

theorem contains_ofValues (row : Record) (key : List String) (name : String) :
    (ofValues row key).key.contains name = true ↔ name ∈ key := by
  rw [FieldMap.contains, ofValues, FieldMap.get?_ofList_map]
  split <;> simp_all

theorem exists_of_mem_ofValues {entry : String × Value}
    (member : entry ∈ (ofValues row key).key.entries) :
    entry.1 ∈ key ∧ entry.2 = row.valueAt entry.1 := by
  have bound := FieldMap.get?_eq_some.2 member
  rw [ofValues, FieldMap.get?_ofList_map, Option.ite_none_right_eq_some, Option.some.injEq] at bound
  exact ⟨bound.1, bound.2.symm⟩

/-- The names of an address are those of a unique key if it has as many, and all of the key. -/
theorem any_hasFieldsOf_iff (row : Record) (key : List String) :
    entity.uniqueKeys.any (hasFieldsOf (ofValues row key).key.unsignedZeros) = true ↔
      ∃ fields ∈ entity.uniqueKeys, fields.length = key.dedup.length ∧ ∀ name ∈ fields, name ∈ key := by
  have size : (ofValues row key).key.unsignedZeros.size = key.dedup.length :=
    FieldMap.size_eq_length key.nodup_dedup fun name => by
      rw [FieldMap.contains_unsignedZeros, contains_ofValues, List.mem_dedup]
  simp only [List.any_eq_true, hasFieldsOf, Bool.and_eq_true, decide_eq_true_eq, List.all_eq_true,
    size, FieldMap.contains_unsignedZeros, contains_ofValues]

section Rows

variable (wellFormed : entity.WellFormed) (wellTyped : entity.WellTyped row)
  (plain : row.HasPlainMoments) (present : ∀ name ∈ key, (row.valueAt name).isNull = false)

include wellFormed wellTyped present

theorem isOf_unsignedZeros :
    (Address.mk (ofValues row key).key.unsignedZeros).isOf row = true := by
  rw [isOf_iff]
  intro name value bound
  rw [FieldMap.unsignedZeros, FieldMap.get?_mapValues, ofValues, FieldMap.get?_ofList_map] at bound
  split at bound
  · next member =>
    obtain ⟨field, -, admits⟩ := wellTyped.exists_admits wellFormed (present name member)
    rw [← Option.some.inj bound]
    exact admits.same_unsignedZero
  · contradiction

include plain

theorem readEntries_recordJson :
    readEntries entity ((ofValues row key).key.entries.map fun entry => (entry.1, entry.2.toJson))
      .empty = .ok (ofValues row key).key.unsignedZeros := by
  have admitted : ∀ entry ∈ (ofValues row key).key.entries, ∃ field,
      entity.field? entry.1 = some field ∧ field.kind.Admits entry.2 ∧
        ∀ t, entry.2 = .dateTime t → t.HasPlainYear := by
    intro entry member
    obtain ⟨inKey, held⟩ := exists_of_mem_ofValues member
    obtain ⟨field, found, admits⟩ := wellTyped.exists_admits wellFormed (present entry.1 inKey)
    rw [held]
    exact ⟨field, found, admits, plain entry.1⟩
  rw [readEntries_of_present, Insertion.readEntries_toJson]
  · exact congrArg Except.ok (ofValues row key).key.unsignedZeros.ofList_entries
  · intro entry member
    obtain ⟨field, found, admits, plain⟩ := admitted entry member
    exact ⟨field, found, Field.readValue_toJson (.inr admits) plain⟩
  · rw [List.forall_mem_map]
    intro entry member
    obtain ⟨field, -, admits, -⟩ := admitted entry member
    exact admits.isNull_toJson

/-- An object of the values in a key is accepted if and only if some unique key is made of names of the
key, as many as there are. -/
theorem read_recordJson {raw : List (String × Json)}
    (unwrapped : unwrap entity raw
      = (ofValues row key).key.entries.map fun entry => (entry.1, entry.2.toJson)) :
    Address.read entity (.obj raw) =
      if ∃ fields ∈ entity.uniqueKeys,
          fields.length = key.dedup.length ∧ ∀ name ∈ fields, name ∈ key then
        .ok ⟨(ofValues row key).key.unsignedZeros⟩
      else .error (.incompleteAddress entity.name
        (.noUniqueKey entity.uniqueKeys (ofValues row key).key.unsignedZeros.keys)) := by
  simp only [Address.read, unwrapped, readEntries_recordJson wellFormed wellTyped plain present, bind,
    Except.bind, any_hasFieldsOf_iff]
  rfl

end Rows

/-- The values that a row has in a unique key are read as the address of the row, but for the signs of
decimal zeros; those of an identity of several fields also where they are wrapped.  The key must not list
a field twice. -/
theorem addresses_read {name : String} {fields : List Field} {identity : List String}
    (declared : Entity.declare name fields identity = .ok entity) (wellTyped : entity.WellTyped row)
    (plain : row.HasPlainMoments) (isKey : key ∈ entity.uniqueKeys)
    (present : ∀ name ∈ key, (row.valueAt name).isNull = false) (distinct : key.Nodup) :
    ∃ address found, ofRecord? row key = some address ∧ found.key = address.key.unsignedZeros ∧
      (address.key.HasPlainZeros → found = address) ∧ found.isOf row = true ∧
      Address.read entity address.key.recordJson = .ok found ∧
      (key = entity.identity → 1 < key.length →
        Address.read entity (.obj [(compoundName entity, address.key.recordJson)]) = .ok found) := by
  have wellFormed := Entity.declare_wellFormed declared
  have accepted : ∃ fields ∈ entity.uniqueKeys,
      fields.length = key.dedup.length ∧ ∀ name ∈ fields, name ∈ key :=
    ⟨key, isKey, by rw [distinct.dedup], fun _ => id⟩
  have reads := @read_recordJson _ _ _ wellFormed wellTyped plain present
  let entries := (ofValues row key).key.entries.map fun entry => (entry.1, entry.2.toJson)
  have flat : unwrap entity entries = entries :=
    unwrap_of_ne_obj (List.forall_mem_map.2 fun entry _ => entry.2.toJson_ne_obj)
  refine ⟨ofValues row key, ⟨(ofValues row key).key.unsignedZeros⟩, ?_, rfl, fun unsigned => ?_,
    isOf_unsignedZeros wellFormed wellTyped present, ?_, ?_⟩
  · rw [ofRecord?_eq, if_pos present]
  · exact congrArg Address.mk (FieldMap.unsignedZeros_eq_self unsigned)
  · exact (reads flat).trans (if_pos accepted)
  · rintro rfl several
    exact (reads (unwrap_compoundName several _)).trans (if_pos accepted)

/-! ## Presets -/

/-- The presets of monitors, each with a label, which is named like the wrapped identity. -/
def presets : Entity :=
  ⟨"Presets",
    [.ofKind .int "MonitorId", .ofKind .decimal "Preset",
     (Field.ofKind .string "MonitorId_Preset").asKey], ["MonitorId", "Preset"]⟩

theorem declare_presets :
    Entity.declare "Presets" presets.fields ["MonitorId", "Preset"] = .ok presets := rfl

def preset : Record :=
  .ofList [("MonitorId", .int 1), ("Preset", .decimal half), ("MonitorId_Preset", .string "left")]

theorem preset_wellTyped : presets.WellTyped preset ∧ preset.HasPlainMoments := by
  have allows : presets.Allows preset :=
    (((presets.allows_empty).insert rfl (.inr (.int 1))).insert rfl (.inr (.decimal _))).insert rfl
      (.inr (.string "left"))
  refine ⟨allows.wellTyped (Entity.declare_wellFormed declare_presets) ?_,
    FieldMap.hasPlainMoments_of_isPlain ?_⟩
  · decide +kernel
  · decide +kernel

/-- The preset is found by its identity, wrapped or not, and by its label. -/
theorem presets_addressed :
    let identified : Address := ⟨.ofList [("MonitorId", .int 1), ("Preset", .decimal half)]⟩
    let labelled : Address := ⟨.ofList [("MonitorId_Preset", .string "left")]⟩
    presets.WellTyped preset ∧ preset.HasPlainMoments ∧
    ofRecord? preset ["MonitorId", "Preset"] = some identified ∧
    Address.read presets identified.key.recordJson = .ok identified ∧
    Address.read presets (.obj [("MonitorId_Preset", identified.key.recordJson)]) = .ok identified ∧
    ofRecord? preset ["MonitorId_Preset"] = some labelled ∧
    Address.read presets labelled.key.recordJson = .ok labelled := by
  intro identified labelled
  obtain ⟨wellTyped, plain⟩ := preset_wellTyped
  have ofIdentity : ofRecord? preset presets.identity = some identified := by decide +kernel
  have ofLabel : ofRecord? preset ["MonitorId_Preset"] = some labelled := by decide +kernel
  have reads := fun key isKey => @addresses_read presets preset key _ _ _ declare_presets wellTyped
    plain isKey
  obtain ⟨_, found, isAddress, same, -, -, flat, wrapped⟩ :=
    reads presets.identity List.mem_cons_self (by decide +kernel) (by decide)
  obtain rfl := Option.some.inj (ofIdentity.symm.trans isAddress)
  obtain ⟨_, foundByLabel, isLabel, sameLabel, -, -, byLabel, -⟩ :=
    reads ["MonitorId_Preset"] (by decide) (by decide +kernel) (by decide)
  obtain rfl := Option.some.inj (ofLabel.symm.trans isLabel)
  -- No decimal of the preset is a zero.
  obtain rfl : found = identified := (congrArg Address.mk same).trans (by decide +kernel)
  obtain rfl : foundByLabel = labelled := (congrArg Address.mk sameLabel).trans (by decide +kernel)
  exact ⟨wellTyped, plain, ofIdentity, flat, wrapped rfl (by decide), ofLabel, byLabel⟩

/-- An identity that lists its field twice. -/
def twins : Entity := ⟨"Twins", [.ofKind .int "A"], ["A", "A"]⟩

def twin : Record := .ofList [("A", .int 1)]

/-- The object of the only field is refused, since the identity has two. -/
theorem twins_unaddressed :
    Entity.declare "Twins" [.ofKind .int "A"] ["A", "A"] = .ok twins ∧
    twins.WellTyped twin ∧ twin.HasPlainMoments ∧ ["A", "A"] ∈ twins.uniqueKeys ∧
    ∃ address, ofRecord? twin ["A", "A"] = some address ∧ address.isOf twin = true ∧
      address.key.recordJson = .obj [("A", .int 1)] ∧
      Address.read twins address.key.recordJson
        = .error (.incompleteAddress "Twins" (.noUniqueKey [["A", "A"]] ["A"])) := by
  have declared : Entity.declare "Twins" [.ofKind .int "A"] ["A", "A"] = .ok twins := rfl
  have allows : twins.Allows twin := (twins.allows_empty).insert rfl (.inr (.int 1))
  refine ⟨declared, allows.wellTyped (Entity.declare_wellFormed declared) (by decide +kernel),
    FieldMap.hasPlainMoments_of_isPlain (by decide +kernel), List.mem_cons_self,
    ⟨.ofList [("A", .int 1)]⟩, by decide +kernel, by decide +kernel, rfl, by decide +kernel⟩

end Address

end RecordStore
