import RecordStore.Proofs.Database.Addressing
import RecordStore.Proofs.Memory.Completeness
import RecordStore.Proofs.RoundTrip.Values

/-! # Rows are read back from their JSON

A row is exported as an object of its values, and imported as the payload of a new row.  The payload
gives every field, so that neither defaults nor numbers have a say in what is stored.

`export_import` puts this together: the row that is stored is the row that was exported, but for the
signs of decimal zeros.
-/

namespace RecordStore

/-! ## Maps of their own entries -/

theorem FieldMap.get?_foldl_insert_of_sorted {α : Type} {entries : List (String × α)}
    (sorted : entries.Pairwise fun a b => a.1 < b.1) (m : FieldMap α) (name : String) :
    (entries.foldl (fun m entry => m.insert entry.1 entry.2) m).get? name
      = (lookupEntry name entries).or (m.get? name) := by
  induction entries generalizing m with
  | nil => rfl
  | cons entry rest ih =>
    obtain ⟨first, value⟩ := entry
    obtain ⟨before, restSorted⟩ := List.pairwise_cons.1 sorted
    rw [List.foldl_cons, ih restSorted, get?_insert, lookupEntry]
    split
    · next same =>
      -- The names behind are greater, so that nothing is put over the first entry.
      rw [same, lookupEntry_of_forall_lt before]
      rfl
    · rfl

theorem FieldMap.ofList_entries {α : Type} (m : FieldMap α) : ofList m.entries = m := by
  refine ext fun name => ?_
  rw [ofList, get?_foldl_insert_of_sorted m.sorted, get?_empty, Option.or_none]
  rfl

/-! ## Rows without signed zeros -/

/-- The row, without the signs of the zeros among its decimals. -/
def FieldMap.unsignedZeros (row : FieldMap Value) : FieldMap Value :=
  row.mapValues fun _ => Value.unsignedZero

/-- Whether no decimal of a row is a zero with a sign. -/
def FieldMap.HasPlainZeros (row : FieldMap Value) : Prop :=
  ∀ name x, row.valueAt name = .decimal x → x.isZero = true → x.negative = false

theorem FieldMap.valueAt_unsignedZeros (row : FieldMap Value) (name : String) :
    row.unsignedZeros.valueAt name = (row.valueAt name).unsignedZero := by
  rw [valueAt, valueAt, unsignedZeros, get?_mapValues]
  cases row.get? name <;> rfl

theorem FieldMap.contains_unsignedZeros (row : FieldMap Value) (name : String) :
    row.unsignedZeros.contains name = row.contains name := by
  rw [contains, contains, unsignedZeros, get?_mapValues, Option.isSome_map]

theorem Decimal.unsignedZero_eq_self {x : Decimal}
    (plain : x.isZero = true → x.negative = false) : x.unsignedZero = x := by
  unfold unsignedZero
  split
  · next zero => rw [← plain zero]
  · rfl

theorem FieldMap.unsignedZeros_eq_self {row : FieldMap Value} (plain : row.HasPlainZeros) :
    row.unsignedZeros = row := by
  refine ext fun name => ?_
  rw [unsignedZeros, get?_mapValues]
  cases bound : row.get? name with
  | none => rfl
  | some value =>
    have held : row.valueAt name = value := by rw [valueAt, bound, Option.getD_some]
    cases value with
    | decimal x =>
      rw [Option.map_some, Value.unsignedZero, Decimal.unsignedZero_eq_self (plain name x held)]
    | _ => rfl

theorem Field.Admits.unsignedZero {field : Field} {value : Value} (admits : field.Admits value) :
    field.Admits value.unsignedZero := by
  refine admits.imp ?_ ?_
  · rintro ⟨rfl, nullable⟩
    exact ⟨rfl, nullable⟩
  · generalize field.kind = kind
    intro held
    cases held with
    | decimal x => exact .decimal x.unsignedZero
    | float finite => exact .float finite
    | enumeration declared => exact .enumeration declared
    | _ => constructor

theorem Entity.WellTyped.unsignedZeros {entity : Entity} {row : Record}
    (wellTyped : entity.WellTyped row) : entity.WellTyped row.unsignedZeros where
  names name := by rw [FieldMap.contains_unsignedZeros]; exact wellTyped.names name
  admits field member := by
    rw [FieldMap.valueAt_unsignedZeros]
    exact (wellTyped.admits field member).unsignedZero

/-! ## Payloads -/

theorem FieldKind.Admits.isNull_toJson {kind : FieldKind} {value : Value}
    (admits : kind.Admits value) : value.toJson.isNull = false := by
  cases admits with
  | float finite =>
    rw [Value.toJson, Json.number, if_pos finite]
    rfl
  | _ => rfl

theorem Field.readValue_toJson {field : Field} {value : Value} (admits : field.Admits value)
    (plain : ∀ t, value = .dateTime t → t.HasPlainYear) :
    field.readValue value.toJson = .ok value.unsignedZero := by
  rcases admits with ⟨rfl, nullable⟩ | admits
  · rw [readValue, nullable]
    rfl
  · rw [readValue, admits.isNull_toJson, Value.coerce_toJson admits plain]
    rfl

namespace Insertion

theorem readEntries_toJson {entity : Entity} {entries : List (String × Value)}
    (reads : ∀ entry ∈ entries, ∃ field, entity.field? entry.1 = some field ∧
      field.readValue entry.2.toJson = .ok entry.2.unsignedZero) (given : Record) :
    readEntries entity (entries.map fun entry => (entry.1, entry.2.toJson)) given
      = .ok ((entries.map fun entry => (entry.1, entry.2.unsignedZero)).foldl
          (fun given entry => given.insert entry.1 entry.2) given) := by
  induction entries generalizing given with
  | nil => rfl
  | cons entry rest ih =>
    obtain ⟨⟨field, found, read⟩, restReads⟩ := List.forall_mem_cons.1 reads
    rw [List.map_cons, readEntries, Entity.knownField_eq_ok.2 found]
    simp only [bind, Except.bind, read]
    exact ih restReads _

theorem read_recordJson {entity : Entity} (wellFormed : entity.WellFormed) {row : Record}
    (wellTyped : entity.WellTyped row) (plain : row.HasPlainMoments) :
    Insertion.read entity row.recordJson = .ok ⟨row.unsignedZeros⟩ := by
  have reads : ∀ entry ∈ row.entries, ∃ field, entity.field? entry.1 = some field ∧
      field.readValue entry.2.toJson = .ok entry.2.unsignedZero := by
    rintro ⟨name, value⟩ member
    have bound := FieldMap.get?_eq_some.2 member
    obtain ⟨field, found, admits⟩ := wellTyped.allows wellFormed name value bound
    refine ⟨field, found, Field.readValue_toJson admits fun t moment => plain name t ?_⟩
    rw [FieldMap.valueAt, bound, Option.getD_some]
    exact moment
  have entries : (row.entries.map fun entry => (entry.1, entry.2.unsignedZero))
      = row.unsignedZeros.entries := rfl
  have given : readEntries entity (row.entries.map fun entry => (entry.1, entry.2.toJson)) .empty
      = .ok row.unsignedZeros := by
    rw [readEntries_toJson reads, entries]
    exact congrArg Except.ok row.unsignedZeros.ofList_entries
  have noneMissing : firstMissing? entity row.unsignedZeros = none := by
    rw [firstMissing?, List.find?_eq_none]
    intro field member
    rw [(wellTyped.unsignedZeros.names field.name).2 (Entity.mem_fieldNames.2 ⟨field, member, rfl⟩)]
    simp
  rw [Insertion.read, FieldMap.recordJson, Json.ofMap, payloadEntries]
  simp only [bind, Except.bind, given, noneMissing]
  rfl

variable {entity : Entity} {insertion : Insertion}

theorem pendingNumbers_of_wellTyped (wellTyped : entity.WellTyped insertion.given) :
    insertion.pendingNumbers entity = [] := by
  rw [List.eq_nil_iff_forall_not_mem]
  intro name pending
  obtain ⟨field, member, ⟨-, absent⟩, rfl⟩ := mem_pendingNumbers.1 pending
  have present := (wellTyped.names field.name).2 (Entity.mem_fieldNames.2 ⟨field, member, rfl⟩)
  rw [present] at absent
  contradiction

theorem withDefaults_of_wellTyped (wellTyped : entity.WellTyped insertion.given) (now : Readings) :
    insertion.withDefaults entity now = insertion.given := by
  rw [withDefaults, Entity.fillDefaults_eq]
  refine List.foldlRecOn (motive := (· = insertion.given)) _ _ rfl ?_
  rintro _ rfl field member
  rw [Entity.fillField,
    if_pos ((wellTyped.names field.name).2 (Entity.mem_fieldNames.2 ⟨field, member, rfl⟩))]

end Insertion

/-! ## Empty tables -/

/-- In an empty table nothing collides with a row, and nothing is numbered if the row is whole. -/
theorem Table.insert_of_wellTyped {entity : Entity} {insertion : Insertion}
    (wellTyped : entity.WellTyped insertion.given) (now : Readings) :
    insert entity now insertion [] = (.ok insertion.given, [insertion.given]) := by
  have new : newRow entity now insertion [] = .ok insertion.given := by
    rw [newRow, Insertion.pendingNumbers_of_wellTyped wellTyped,
      Insertion.withDefaults_of_wellTyped wellTyped]
    rfl
  have free : checkUnique entity [] insertion.given = .ok () := by
    rw [checkUnique_eq_ok_iff]
    exact fun _ _ other member => absurd member List.not_mem_nil
  rw [insert, new]
  simp only [free]
  rfl

/-- What is exported of a row is accepted as the payload of a new row, and gives every field of it
the value that it has, a decimal zero without its sign.  Neither numbers nor defaults add to it, and
a table without rows stores it and gives it back. -/
theorem export_import {name : String} {fields : List Field} {identity : List String}
    {entity : Entity} (declared : Entity.declare name fields identity = .ok entity) {row : Record}
    (wellTyped : entity.WellTyped row) (plain : row.HasPlainMoments) :
    ∃ insertion, Insertion.read entity row.recordJson = .ok insertion ∧
      insertion.given = row.unsignedZeros ∧ (row.HasPlainZeros → insertion.given = row) ∧
      insertion.pendingNumbers entity = [] ∧
      (∀ now, insertion.withDefaults entity now = insertion.given) ∧
      ∀ store : MemoryStore, store.available = true → store.rows entity.name = [] → ∀ clock,
        (MemoryStore.interface.create entity clock insertion store).1 = .ok insertion.given ∧
        ((Command.create insertion).run MemoryStore.interface entity clock store).1
          = .ok (.record (some insertion.given)) ∧
        ((Command.create insertion).run MemoryStore.interface entity clock store).2.rows entity.name
          = [insertion.given] := by
  have wellFormed := Entity.declare_wellFormed declared
  have given : entity.WellTyped (Insertion.mk row.unsignedZeros).given := wellTyped.unsignedZeros
  refine ⟨_, Insertion.read_recordJson wellFormed wellTyped plain, rfl,
    FieldMap.unsignedZeros_eq_self, Insertion.pendingNumbers_of_wellTyped given,
    Insertion.withDefaults_of_wellTyped given, ?_⟩
  intro store available empty clock
  have created : (MemoryStore.interface.create entity clock ⟨row.unsignedZeros⟩ store).1
      = .ok row.unsignedZeros := by
    simp only [MemoryStore.interface, MemoryStore.result_change, if_pos available]
    rw [empty, Table.insert_of_wellTyped given]
  refine ⟨created, ?_, ?_⟩
  · rw [Command.run, Call.outcome_result, created]
    have shown : entity.complete row.unsignedZeros = row.unsignedZeros :=
      Entity.complete_of_wellTyped given
    show Except.ok (Outcome.record (some (entity.complete row.unsignedZeros))) = _
    rw [shown]
  · rw [MemoryStore.rows_run, if_pos ⟨available, rfl⟩, empty, Command.edit,
      Table.insert_of_wellTyped given]

/-! ## A table of amounts -/

/-- Amounts, each with a number that its payload may leave out. -/
def amounts : Entity :=
  ⟨"Amounts", [(Field.ofKind .int "Id").numbered, .ofKind .decimal "Amount"], ["Id"]⟩

theorem declare_amounts : Entity.declare "Amounts" amounts.fields ["Id"] = .ok amounts := rfl

def amount (id : Int32) (x : Decimal) : Record := .ofList [("Id", .int id), ("Amount", .decimal x)]

/-- One half, written with as many places as there can be. -/
def half : Decimal := ⟨false, 5000000000000000000000000000, Decimal.maxScale, by decide, le_rfl⟩

theorem limit_pos : 0 < Decimal.limit := by decide

/-- What remains of a number that is rounded to nothing from below. -/
def negativeZero : Decimal := ⟨true, 0, Decimal.maxScale, limit_pos, le_rfl⟩

theorem amount_valueAt (id : Int32) (x : Decimal) (name : String) :
    (amount id x).valueAt name =
      if name = "Amount" then .decimal x else if name = "Id" then .int id else .null := by
  simp only [amount, FieldMap.ofList, List.foldl_cons, List.foldl_nil, FieldMap.valueAt_insert,
    FieldMap.valueAt_empty]

theorem amount_wellTyped (id : Int32) (x : Decimal) :
    amounts.WellTyped (amount id x) ∧ (amount id x).HasPlainMoments := by
  have allows : amounts.Allows (amount id x) :=
    ((amounts.allows_empty).insert rfl (.inr (.int id))).insert rfl (.inr (.decimal x))
  refine ⟨allows.wellTyped (Entity.declare_wellFormed declare_amounts) ?_, fun name t bound => ?_⟩
  · simp [amounts, amount, FieldMap.ofList, FieldMap.contains_insert, Field.ofKind, Field.numbered]
  · rw [amount_valueAt] at bound
    split at bound
    · contradiction
    · split at bound <;> contradiction

/-- The least number that a row can have, and an amount with zeros at its end. -/
theorem amounts_imported :
    amounts.WellTyped (amount (-2147483648) half) ∧ (amount (-2147483648) half).HasPlainMoments ∧
    ∃ insertion, Insertion.read amounts (amount (-2147483648) half).recordJson = .ok insertion ∧
      insertion.given = amount (-2147483648) half := by
  obtain ⟨wellTyped, plain⟩ := amount_wellTyped (-2147483648) half
  obtain ⟨insertion, read, -, same, -⟩ := export_import declare_amounts wellTyped plain
  refine ⟨wellTyped, plain, insertion, read, same fun name x bound _ => ?_⟩
  rw [amount_valueAt] at bound
  split at bound
  · cases bound
    rfl
  · split at bound <;> contradiction

/-- A zero that has a sign is stored with it, exported with it, and imported without it. -/
theorem amounts_sign_lost :
    Entity.declare "Amounts" amounts.fields ["Id"] = .ok amounts ∧
    Insertion.read amounts (.obj [("Amount", .str "-0.04e-28"), ("Id", .int 1)])
      = .ok ⟨amount 1 negativeZero⟩ ∧
    amounts.WellTyped (amount 1 negativeZero) ∧ (amount 1 negativeZero).HasPlainMoments ∧
    ∃ insertion, Insertion.read amounts (amount 1 negativeZero).recordJson = .ok insertion ∧
      insertion.given ≠ amount 1 negativeZero := by
  obtain ⟨wellTyped, plain⟩ := amount_wellTyped 1 negativeZero
  exact ⟨declare_amounts, by decide +kernel, wellTyped, plain,
    ⟨(amount 1 negativeZero).unsignedZeros⟩, by decide +kernel, by decide +kernel⟩

end RecordStore
