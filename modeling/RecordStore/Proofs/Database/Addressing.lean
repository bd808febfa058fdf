import RecordStore.Proofs.Database.Columns
import RecordStore.Proofs.Database.Cursor
import RecordStore.Proofs.Database.Matching
import RecordStore.Proofs.Memory.Addresses

/-! # What the clause of an address finds

An address is looked up in a database by comparing cells, and in memory by comparing values.  For the
values of one kind, decimals excepted, it is the same whether the cells or the values are equal; a
moment in a plain year has no other text, and no other moment has its text.

Decimals are stored as they are written, and equal decimals can be written differently.  So the clause
finds the rows that the address matches and that have its decimals written as it has them.
`addressing_sound` says this of every row, and of tables what follows from it.
-/

namespace RecordStore

/-! ## Cells of equal values -/

theorem Timestamp.compare_eq_iff {s t : Timestamp} : s.compare t = .eq ↔ s = t := by
  constructor
  · intro level
    have same : s.fields = t.fields := Std.LawfulEqOrd.eq_of_compare level
    obtain ⟨⟨_, _, _, _⟩, _, _, _, _, _⟩ := s
    obtain ⟨⟨_, _, _, _⟩, _, _, _, _, _⟩ := t
    simpa [fields, and_assoc] using same
  · rintro rfl
    exact @Std.ReflCmp.compare_self _ Timestamp.compare _ s

theorem Timestamp.text_eq_iff {s t : Timestamp} (plain : s.HasPlainYear) :
    s.text = t.text ↔ s = t := by
  constructor
  · intro same
    -- The text of `t` is read as `s`, and only the text of `s` is.
    have read : read? t.text = some s := by
      rw [← same]
      exact read?_text_eq_some_iff.2 ⟨plain, rfl⟩
    exact (read?_text_eq_some_iff.1 read).2.symm
  · rintro rfl
    rfl

theorem Decimal.compare_unsignedZero (x : Decimal) : x.unsignedZero.compare x = .eq := by
  unfold unsignedZero
  split
  · next zero =>
    have magnitude : x.magnitude = 0 := by simpa [isZero] using zero
    simp [compare, coefficient, magnitude]
  · exact @Std.ReflCmp.compare_self _ Decimal.compare _ x

theorem Cell.compare?_text_eq_iff {cell : Cell} {s : String} :
    cell.compare? (.text s) = some .eq ↔ cell = .text s := by
  cases cell <;> simp [Cell.compare?]

/-- Whether every moment of a record is in a plain year. -/
def FieldMap.HasPlainMoments (record : FieldMap Value) : Prop :=
  ∀ name t, record.valueAt name = .dateTime t → t.HasPlainYear

theorem FieldMap.hasPlainMoments_of_isPlain {record : FieldMap Value}
    (plain : ∀ entry ∈ record.entries, entry.2.IsPlain) : record.HasPlainMoments := by
  intro name t bound
  have found : record.get? name = some (.dateTime t) := by
    unfold valueAt at bound
    cases value : record.get? name with
    | none => rw [value] at bound; contradiction
    | some _ => rw [value, Option.getD_some] at bound; rw [bound]
  exact plain _ (get?_eq_some.1 found)

theorem FieldKind.compare?_cell_eq_iff {kind : FieldKind} {a b : Value}
    (notDecimal : kind ≠ .decimal) (ha : kind.Holds a) (hb : kind.Holds b)
    (plain : ∀ t, a = .dateTime t → t.HasPlainYear) :
    (kind.columnType.keep a.parameter.cell).compare? b.parameter.cell = some .eq ↔
      a.same b = true := by
  rw [Value.same_iff_of_isNull_eq_false ha.isNull_eq_false]
  cases ha with
  | dateTime s =>
    cases hb with
    | dateTime t =>
      have texts : Ord.compare s.text t.text = .eq ↔ s.text = t.text :=
        Std.LawfulEqOrd.compare_eq_iff_eq
      simp only [Value.compare?, Option.some.injEq, Timestamp.compare_eq_iff]
      rw [← Timestamp.text_eq_iff (plain s rfl), ← texts]
      exact Option.some_inj
  | float x =>
    cases hb with
    | float y => exact iff_of_eq (congrArg (· = some Ordering.eq) (Double.compare?_keep_left x y))
  | decimal => contradiction
  -- The other kinds compare as stored, whatever the values.
  | _ => rw [FieldKind.compare?_cell notDecimal (by constructor) hb (by cases hb; trivial)]

namespace Address

/-! ## One row -/

variable {entity : Entity} {address : Address} {row : StoredRow} {record : Record}

/-- Whether a row has the decimals of an address, written as the address has them. -/
def IsWrittenIn (address : Address) (row : StoredRow) : Prop :=
  ∀ name x, address.key.get? name = some (.decimal x) → row.cellAt name = .text x.text

/-- A row with the text of a decimal is read with that decimal. -/
theorem same_of_text (wellFormed : entity.WellFormed) (loads : entity.load row = .ok record)
    {name : String} {field : Field} (found : entity.field? name = some field)
    (decimal : field.kind = .decimal) {x : Decimal} (cell : row.cellAt name = .text x.text) :
    (record.valueAt name).same (.decimal x) = true := by
  have read := Entity.readCell_of_load wellFormed loads found
  rw [decimal, cell, FieldKind.readCell_decimal_text, Except.ok.injEq] at read
  rw [← read, Value.same_iff_of_isNull_eq_false rfl, Value.compare?,
    Decimal.compare_unsignedZero]

/-- In one field: a decimal is compared as it is written, any other value as it is. -/
theorem compare?_cell_iff (wellFormed : entity.WellFormed)
    (represents : entity.Represents row record) (plain : record.HasPlainMoments) {name : String}
    {field : Field} (found : entity.field? name = some field) {value : Value}
    (held : field.kind.Holds value) :
    (row.cellAt name).compare? value.parameter.cell = some .eq ↔
      (record.valueAt name).same value = true ∧
        ∀ x, value = .decimal x → row.cellAt name = .text x.text := by
  by_cases decimal : field.kind = .decimal
  · obtain ⟨x, rfl⟩ : ∃ x, value = .decimal x := by
      rw [decimal] at held
      cases held with
      | decimal x => exact ⟨x, rfl⟩
    refine Cell.compare?_text_eq_iff.trans ?_
    constructor
    · intro cell
      refine ⟨same_of_text wellFormed represents.loads found decimal cell, ?_⟩
      rintro _ ⟨⟩
      exact cell
    · exact fun both => both.2 x rfl
  · have noDecimal : ∀ x, value ≠ .decimal x := by
      rintro x rfl
      generalize field.kind = kind at held decimal
      cases held
      exact decimal rfl
    rw [and_iff_left fun x equal => absurd equal (noDecimal x),
      represents.stores name field found decimal]
    rcases Entity.load_fits wellFormed represents.loads name field found with null | recordHeld
    · rw [null, Value.same_comm, Value.same_null_right, held.isNull_eq_false]
      cases field.kind.columnType <;>
        simp [Value.parameter, Parameter.cell, ColumnType.keep, Cell.compare?_null_left]
    · exact FieldKind.compare?_cell_eq_iff decimal recordHeld held (plain name)

theorem keeps_clause_iff (wellFormed : entity.WellFormed)
    (holds : ∀ name value, address.key.get? name = some value →
      ∃ field, entity.field? name = some field ∧ field.kind.Holds value)
    (represents : entity.Represents row record) (plain : record.HasPlainMoments)
    {bound final : Bound} (later : (address.clause bound).2 <+: final) :
    (address.clause bound).1.keeps final row = true ↔
      address.isOf record = true ∧ address.IsWrittenIn row := by
  have fields : ∀ name value, address.key.get? name = some value →
      ((row.cellAt name).compare? value.parameter.cell = some .eq ↔
        (record.valueAt name).same value = true ∧
          ∀ x, value = .decimal x → row.cellAt name = .text x.text) := by
    intro name value bound
    obtain ⟨field, found, held⟩ := holds name value bound
    exact compare?_cell_iff wellFormed represents plain found held
  have cells : (address.clause bound).1.keeps final row = true ↔
      ∀ name value, address.key.get? name = some value →
        (row.cellAt name).compare? value.parameter.cell = some .eq := by
    rw [Clause.keeps, beq_iff_eq]
    refine (keyClauses_eval later).trans ?_
    simp only [Prod.forall, FieldMap.get?_eq_some]
  rw [cells, isOf_iff]
  constructor
  · intro equal
    have both := fun name value bound => (fields name value bound).1 (equal name value bound)
    exact ⟨fun name value bound => (both name value bound).1,
      fun name x bound => (both name _ bound).2 x rfl⟩
  · rintro ⟨same, written⟩ name value bound
    refine (fields name value bound).2 ⟨same name value bound, ?_⟩
    rintro x rfl
    exact written name x bound

end Address

/-! ## Tables -/

namespace DatabaseStore

variable {entity : Entity} {address : Address}

/-- Whether an address is looked up in a stored row as it is in the record of the row. -/
structure Locates (entity : Entity) (address : Address) (row : StoredRow) (record : Record) :
    Prop where
  represents : entity.Represents row record
  plain : record.HasPlainMoments
  written : address.isOf record = true → address.IsWrittenIn row

theorem findUnique_eq (entity : Entity) (address : Address) (rows : StoredTable) :
    findUnique entity address rows
      = (rows.find? ((address.clause []).1.keeps (address.clause []).2)).mapM entity.load := rfl

theorem findUnique_pairs {pairs : List (StoredRow × Record)}
    (loads : ∀ pair ∈ pairs, entity.load pair.1 = .ok pair.2)
    (kept : ∀ pair ∈ pairs,
      (address.clause []).1.keeps (address.clause []).2 pair.1 = address.isOf pair.2) :
    findUnique entity address (pairs.map Prod.fst)
      = .ok ((pairs.map Prod.snd).find? address.isOf) := by
  rw [findUnique_eq]
  induction pairs with
  | nil => rfl
  | cons pair rest ih =>
    obtain ⟨loadsFirst, loadsRest⟩ := List.forall_mem_cons.1 loads
    obtain ⟨keptFirst, keptRest⟩ := List.forall_mem_cons.1 kept
    rw [List.map_cons, List.map_cons, List.find?_cons, List.find?_cons, keptFirst]
    cases address.isOf pair.2 with
    | true =>
      simp only [Option.mapM_some, loadsFirst]
      rfl
    | false => exact ih loadsRest keptRest

/-- The clause of an address is true of the rows that the address matches and that have its decimals
as it has them, and of no other rows.  In a table where what it matches is so written, the rows that
the clause keeps are the places of the records that the address matches, and the row that is looked
up is the row of the record that is looked up. -/
theorem addressing_sound {name : String} {fields : List Field} {identity : List String} {raw : Json}
    (declared : Entity.declare name fields identity = .ok entity)
    (read : Address.read entity raw = .ok address) :
    (∀ row record, entity.Represents row record → record.HasPlainMoments →
      ∀ bound final, (address.clause bound).2 <+: final →
        ((address.clause bound).1.keeps final row = true ↔
          address.isOf record = true ∧ address.IsWrittenIn row)) ∧
    ∀ rows records, List.Forall₂ (Locates entity address) rows records →
      (∀ bound final, (address.clause bound).2 <+: final →
        rows.map ((address.clause bound).1.keeps final) = records.map address.isOf) ∧
      findUnique entity address rows = .ok (records.find? address.isOf) := by
  have wellFormed := Entity.declare_wellFormed declared
  have holds := (Address.read_holds read).1
  refine ⟨fun row record represents plain bound final later =>
    Address.keeps_clause_iff wellFormed holds represents plain later, ?_⟩
  intro rows records located
  obtain ⟨pairs, rfl, rfl, each⟩ := exists_pairs located
  have kept : ∀ pair ∈ pairs, ∀ bound final, (address.clause bound).2 <+: final →
      (address.clause bound).1.keeps final pair.1 = address.isOf pair.2 := by
    intro pair member bound final later
    obtain ⟨represents, plain, written⟩ := each pair member
    rw [Bool.eq_iff_iff, Address.keeps_clause_iff wellFormed holds represents plain later,
      and_iff_left_of_imp written]
  constructor
  · intro bound final later
    rw [List.map_map, List.map_map]
    exact List.map_congr_left fun pair member => kept pair member bound final later
  · exact findUnique_pairs (fun pair member => (each pair member).represents.loads)
      fun pair member => kept pair member [] _ List.prefix_rfl

/-! ## A table with a decimal for its identity -/

/-- Rates, each of which is its own identity. -/
def rates : Entity := ⟨"Rates", [.ofKind .decimal "Rate"], ["Rate"]⟩

/-- One and a half, written with two places. -/
def longRate : Record :=
  .ofList [("Rate", .decimal ⟨false, 150, 2, by decide, Nat.le_of_ble_eq_true rfl⟩)]

/-- Two and a half, written with one place. -/
def shortRate : Record :=
  .ofList [("Rate", .decimal ⟨false, 25, 1, by decide, Nat.le_of_ble_eq_true rfl⟩)]

/-- The address of a rate with one place. -/
def rateAddress (tenths : Nat) (small : tenths < Nat.pow 2 96) : Address :=
  ⟨.ofList [("Rate", .decimal ⟨false, tenths, 1, small, Nat.le_of_ble_eq_true rfl⟩)]⟩

theorem rates_represents {record : Record}
    (isRate : record = longRate ∨ record = shortRate) :
    rates.Represents (rates.store record) record ∧ record.HasPlainMoments := by
  have loads : rates.load (rates.store longRate) = .ok longRate ∧
      rates.load (rates.store shortRate) = .ok shortRate := by
    decide +kernel
  rcases isRate with rfl | rfl
  · exact ⟨⟨loads.1, rates.stores_store _⟩, FieldMap.hasPlainMoments_of_isPlain (by decide)⟩
  · exact ⟨⟨loads.2, rates.stores_store _⟩, FieldMap.hasPlainMoments_of_isPlain (by decide)⟩

/-- A rate that is addressed as it is written is found behind another one. -/
theorem rates_found :
    findUnique rates (rateAddress 25 (by decide)) [rates.store longRate, rates.store shortRate]
      = .ok (some shortRate) := by
  have declared : Entity.declare "Rates" rates.fields ["Rate"] = .ok rates := by decide
  have read : Address.read rates (.obj [("Rate", .str "2.5")])
      = .ok (rateAddress 25 (by decide)) := by
    decide +kernel
  have long := rates_represents (.inl rfl)
  have short := rates_represents (.inr rfl)
  have located : List.Forall₂ (Locates rates (rateAddress 25 (by decide)))
      [rates.store longRate, rates.store shortRate] [longRate, shortRate] := by
    refine .cons ⟨long.1, long.2, ?_⟩ (.cons ⟨short.1, short.2, ?_⟩ .nil)
    · intro matching
      exact absurd matching (by decide)
    · intro _ name x bound
      obtain ⟨rfl, equal⟩ := Prod.mk.inj (List.mem_singleton.1 (FieldMap.get?_eq_some.1 bound))
      rw [Value.decimal.injEq] at equal
      subst equal
      decide +kernel
  rw [((addressing_sound declared read).2 _ _ located).2]
  decide +kernel

/-- A rate that is addressed with fewer places than it is written with matches the address, and the
clause does not keep it. -/
theorem rates_overlooked :
    Entity.declare "Rates" rates.fields ["Rate"] = .ok rates ∧
    Address.read rates (.obj [("Rate", .str "1.5")]) = .ok (rateAddress 15 (by decide)) ∧
    rates.Represents (rates.store longRate) longRate ∧ longRate.HasPlainMoments ∧
    (rateAddress 15 (by decide)).isOf longRate = true ∧
    ((rateAddress 15 (by decide)).clause []).1.keeps ((rateAddress 15 (by decide)).clause []).2
      (rates.store longRate) = false ∧
    findUnique rates (rateAddress 15 (by decide)) [rates.store longRate] = .ok none := by
  obtain ⟨represents, plain⟩ := rates_represents (.inl rfl)
  exact ⟨by decide, by decide +kernel, represents, plain, by decide +kernel, by decide +kernel,
    by decide +kernel⟩

end DatabaseStore

end RecordStore
