import RecordStore.Proofs.Typing.Mutations

/-! # Keys, addresses and agreement

Two rows agree on a key when they have the same values in all of its fields and none of these is
null.  The address that a row has under a key is made for finding the rows that agree with it:
`collision?_eq_none_iff` says that a row collides with another one exactly when the two agree on a
unique key.
-/

namespace RecordStore

/-- Whether two rows have the same values, none of them null, in every field of a key. -/
def AgreeOn (key : List String) (a b : Record) : Prop :=
  ∀ name ∈ key, (a.valueAt name).isNull = false ∧ (b.valueAt name).isNull = false ∧
    (a.valueAt name).same (b.valueAt name) = true

theorem AgreeOn.symm {key : List String} {a b : Record} (agree : AgreeOn key a b) :
    AgreeOn key b a := by
  intro name member
  obtain ⟨inA, inB, same⟩ := agree name member
  exact ⟨inB, inA, by rw [Value.same_comm, same]⟩

/-! ## Maps of bindings -/

theorem lookupEntry_of_forall_lt {α : Type} {name : String} {entries : List (String × α)}
    (behind : ∀ entry ∈ entries, name < entry.1) : lookupEntry name entries = none := by
  rw [lookupEntry_eq_none]
  rintro entry member rfl
  exact String.lt_irrefl _ (behind entry member)

theorem FieldMap.get?_foldl_insert {α : Type} (value : String → α) (names : List String)
    (m : FieldMap α) (name : String) :
    ((names.map fun name => (name, value name)).foldl
        (fun m entry => m.insert entry.1 entry.2) m).get? name
      = if name ∈ names then some (value name) else m.get? name := by
  induction names generalizing m with
  | nil => simp
  | cons first rest ih =>
    rw [List.map_cons, List.foldl_cons, ih, get?_insert]
    by_cases inRest : name ∈ rest
    · simp [inRest]
    · by_cases same : name = first <;> simp [inRest, same]

theorem FieldMap.get?_ofList_map {α : Type} (value : String → α) (names : List String)
    (name : String) :
    (FieldMap.ofList (names.map fun name => (name, value name))).get? name
      = if name ∈ names then some (value name) else none :=
  get?_foldl_insert value names .empty name

/-! ## Addresses of rows -/

namespace Address

theorem isOf_iff {address : Address} {record : Record} :
    address.isOf record = true ↔ ∀ name value, address.key.get? name = some value →
      (record.valueAt name).same value = true := by
  simp only [isOf, List.all_eq_true, Prod.forall, FieldMap.get?_eq_some]

/-- The address of the values that a row has in the fields of a key. -/
def ofValues (record : Record) (key : List String) : Address :=
  ⟨FieldMap.ofList (key.map fun name => (name, record.valueAt name))⟩

theorem bindings?_eq (record : Record) (key : List String) :
    ofRecord?.bindings? record key =
      if ∀ name ∈ key, (record.valueAt name).isNull = false then
        some (key.map fun name => (name, record.valueAt name))
      else none := by
  induction key with
  | nil => simp [ofRecord?.bindings?]
  | cons name rest ih =>
    unfold ofRecord?.bindings?
    split
    · next absent => simp [FieldMap.valueAt, absent]
    · next null => simp [FieldMap.valueAt, null]
    · next value notNull bound =>
      have present : (record.valueAt name).isNull = false := by
        rw [FieldMap.valueAt, bound, Option.getD_some]
        cases value <;> first | rfl | exact absurd rfl notNull
      rw [ih]
      by_cases others : ∀ name ∈ rest, (record.valueAt name).isNull = false
      · rw [if_pos others, if_pos (by rw [List.forall_mem_cons]; exact ⟨present, others⟩)]
        simp [FieldMap.valueAt, bound]
      · rw [if_neg others, if_neg fun all => others (List.forall_mem_cons.1 all).2]
        rfl

theorem ofRecord?_eq (record : Record) (key : List String) :
    ofRecord? record key =
      if ∀ name ∈ key, (record.valueAt name).isNull = false then some (ofValues record key)
      else none := by
  rw [ofRecord?, bindings?_eq]
  split <;> rfl

theorem isOf_ofValues_iff {record other : Record} {key : List String} :
    (ofValues record key).isOf other = true ↔
      ∀ name ∈ key, (other.valueAt name).same (record.valueAt name) = true := by
  simp only [isOf_iff, ofValues, FieldMap.get?_ofList_map]
  constructor
  · intro matching name member
    exact matching name _ (if_pos member)
  · intro same name value bound
    split at bound
    · next member => exact Option.some.inj bound ▸ same name member
    · contradiction

end Address

/-! ## Collisions -/

namespace Table

/-- Whether one of other rows has the address of a row under a key. -/
def collidesOn (others : Table) (row : Record) (key : List String) : Bool :=
  match Address.ofRecord? row key with
  | none => false
  | some address => others.any address.isOf

theorem collidesOn_iff {others : Table} {row : Record} {key : List String} :
    collidesOn others row key = true ↔ ∃ other ∈ others, AgreeOn key other row := by
  rw [collidesOn, Address.ofRecord?_eq]
  by_cases present : ∀ name ∈ key, (row.valueAt name).isNull = false
  · simp only [if_pos present, List.any_eq_true]
    refine exists_congr fun other => and_congr_right fun _ => ?_
    rw [Address.isOf_ofValues_iff]
    constructor
    · intro same name inKey
      refine ⟨?_, present name inKey, same name inKey⟩
      rw [Value.isNull_eq_of_same (same name inKey), present name inKey]
    · exact fun agree name inKey => (agree name inKey).2.2
  -- A row with a null in the key has no address under it, and agrees with no other row.
  · simp only [if_neg present, Bool.false_eq_true, false_iff]
    rintro ⟨other, -, agree⟩
    exact present fun name inKey => (agree name inKey).2.1

/-- A row collides with the rows that agree with it on a unique key, and with no others. -/
theorem collision?_eq_none_iff {entity : Entity} {others : Table} {row : Record} :
    collision? entity others row = none ↔
      ∀ key ∈ entity.uniqueKeys, ∀ other ∈ others, ¬ AgreeOn key other row := by
  have first : collision? entity others row = entity.uniqueKeys.find? (collidesOn others row) := rfl
  simp only [first, List.find?_eq_none, collidesOn_iff, not_exists, not_and]

/-- The collision that is reported is the first one in the order of the unique keys. -/
theorem collision?_eq_some_iff {entity : Entity} {others : Table} {row : Record}
    {key : List String} :
    collision? entity others row = some key ↔
      (∃ other ∈ others, AgreeOn key other row) ∧
      ∃ front back, entity.uniqueKeys = front ++ key :: back ∧
        ∀ earlier ∈ front, ∀ other ∈ others, ¬ AgreeOn earlier other row := by
  have first : collision? entity others row = entity.uniqueKeys.find? (collidesOn others row) := rfl
  simp only [first, List.find?_eq_some_iff_append, collidesOn_iff, Bool.not_eq_true',
    ← Bool.not_eq_true, not_exists, not_and]

theorem checkUnique_eq_ok_iff {entity : Entity} {others : Table} {row : Record} :
    checkUnique entity others row = .ok () ↔
      ∀ key ∈ entity.uniqueKeys, ∀ other ∈ others, ¬ AgreeOn key other row := by
  rw [← collision?_eq_none_iff, checkUnique]
  cases collision? entity others row <;> simp

end Table

end RecordStore
