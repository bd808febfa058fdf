import RecordStore.Proofs.Typing.Mutations

/-! # Values that a field admits

A field admits null if it is nullable, and otherwise the values of its kind: the variants that its
enumeration declares, and doubles that are finite.  What is read from a JSON value is admitted,
because a JSON number is never an infinity nor beyond 64 bits; `Json.Proper` says that of all numbers in
a value.  What is computed from a value that is admitted is admitted, because arithmetic without a
finite result has none.
-/

namespace RecordStore

/-! ## Finite doubles -/

namespace Double

theorem magnitude_ofMagnitude (negative : Bool) {m : Nat} (small : m < Nat.pow 2 63) :
    (ofMagnitude negative m).magnitude = m := by
  have word : Nat.pow 2 63 = 9223372036854775808 := rfl
  have bits : (if negative then Nat.pow 2 63 + m else m) < UInt64.size := by
    have size : UInt64.size = 18446744073709551616 := rfl
    split <;> omega
  rw [magnitude, ofMagnitude, UInt64.toNat_ofNat_of_lt' bits]
  rw [word] at small ⊢
  split <;> omega

theorem isFinite_neg (x : Double) : (neg x).isFinite = x.isFinite := by
  have small : x.magnitude < Nat.pow 2 63 := Nat.mod_lt _ (by decide)
  rw [isFinite, neg, magnitude_ofMagnitude _ small]
  rfl

theorem roundShift_le {n shift bound : Nat} (small : n < bound * Nat.pow 2 shift) :
    roundShift n shift ≤ bound := by
  have quotient : n / Nat.pow 2 shift < bound := Nat.div_lt_of_lt_mul (by rwa [Nat.mul_comm])
  unfold roundShift
  simp only
  split <;> omega

/-- A number of 64 bits is far below the greatest double. -/
theorem isFinite_ofNat {n : Nat} (small : n < 2 ^ 64) : (ofNat n).isFinite = true := by
  unfold ofNat
  split
  · decide
  · next nonzero =>
    have top : n.log2 ≤ 63 := by
      have := (Nat.log2_lt nonzero).2 small
      omega
    have size : n < 2 ^ (n.log2 + 1) := Nat.lt_log2_self
    -- The significand has 53 bits, or is rounded up to the next power of two.
    have significand : (if n.log2 ≤ 52 then n * Nat.pow 2 (52 - n.log2)
        else roundShift n (n.log2 - 52)) ≤ 2 ^ 53 := by
      split
      · next short =>
        calc n * 2 ^ (52 - n.log2) ≤ 2 ^ (n.log2 + 1) * 2 ^ (52 - n.log2) :=
              Nat.mul_le_mul_right _ size.le
          _ = 2 ^ 53 := by rw [← Nat.pow_add]; congr 1; omega
      · next long =>
        apply roundShift_le
        calc n < 2 ^ (n.log2 + 1) := size
          _ = 2 ^ 53 * 2 ^ (n.log2 - 52) := by rw [← Nat.pow_add]; congr 1; omega
    have limit : infiniteMagnitude = 2047 * 2 ^ 52 := rfl
    have below : (n.log2 + 1022) * Nat.pow 2 52 + (if n.log2 ≤ 52 then n * Nat.pow 2 (52 - n.log2)
        else roundShift n (n.log2 - 52)) < infiniteMagnitude := by
      rw [limit, show Nat.pow 2 52 = 2 ^ 52 from rfl]
      omega
    simp only [if_pos below, isFinite]
    rw [magnitude_ofMagnitude false (below.trans (by decide)), decide_eq_true_iff]
    exact below

theorem isFinite_ofInt {n : Int} (low : -(2 : Int) ^ 63 ≤ n) (high : n < 2 ^ 64) :
    (ofInt n).isFinite = true := by
  unfold ofInt
  split
  · rw [isFinite_neg]
    exact isFinite_ofNat (by omega)
  · exact isFinite_ofNat (by omega)

end Double

/-! ## JSON values -/

/-- Whether every number in a JSON value is one that JSON has: a signed or unsigned integer of 64 bits,
or a finite double. -/
inductive Json.Proper : Json → Prop where
  | null : Proper .null
  | bool (b : Bool) : Proper (.bool b)
  | int {n : Int} (low : -(2 : Int) ^ 63 ≤ n) (high : n < 2 ^ 64) : Proper (.int n)
  | float {x : Double} (finite : x.isFinite = true) : Proper (.float x)
  | str (s : String) : Proper (.str s)
  | arr {items : List Json} (each : ∀ item ∈ items, Proper item) : Proper (.arr items)
  | obj {fields : List (String × Json)} (each : ∀ field ∈ fields, Proper field.2) :
      Proper (.obj fields)

@[simp]
theorem Json.proper_str (s : String) : (Json.str s).Proper := .str s

@[simp]
theorem Json.proper_int_iff {n : Int} : (Json.int n).Proper ↔ -(2 : Int) ^ 63 ≤ n ∧ n < 2 ^ 64 :=
  ⟨fun | .int low high => ⟨low, high⟩, fun bounds => .int bounds.1 bounds.2⟩

@[simp]
theorem Json.proper_arr_iff {items : List Json} :
    (Json.arr items).Proper ↔ ∀ item ∈ items, item.Proper :=
  ⟨fun | .arr each => each, .arr⟩

@[simp]
theorem Json.proper_obj_iff {fields : List (String × Json)} :
    (Json.obj fields).Proper ↔ ∀ field ∈ fields, field.2.Proper :=
  ⟨fun | .obj each => each, .obj⟩

theorem Value.proper_toJson (value : Value) : value.toJson.Proper := by
  cases value with
  | int n =>
    have low := n.le_toInt
    have high := n.toInt_lt
    exact .int (by omega) (by omega)
  | float x =>
    rw [toJson, Json.number]
    split
    · next finite => exact .float finite
    · exact .null
  | null => exact .null
  | bool b => exact .bool b
  | bigInt | decimal | dateTime | string | enumeration => exact .str _

/-! ## Admitted values -/

/-- The values other than null that a field of a kind admits. -/
inductive FieldKind.Admits : FieldKind → Value → Prop where
  | string (s : String) : Admits .string (.string s)
  | int (n : Int32) : Admits .int (.int n)
  | bigInt (n : Int64) : Admits .bigInt (.bigInt n)
  | float {x : Double} (finite : x.isFinite = true) : Admits .float (.float x)
  | decimal (x : Decimal) : Admits .decimal (.decimal x)
  | boolean (b : Bool) : Admits .boolean (.bool b)
  | dateTime (t : Timestamp) : Admits .dateTime (.dateTime t)
  | enumeration {variants : List String} {s : String} (declared : s ∈ variants) :
      Admits (.enumeration variants) (.enumeration s)

/-- Whether a field admits a value: null if it is nullable, and the values of its kind. -/
def Field.Admits (field : Field) (value : Value) : Prop :=
  (value = .null ∧ field.nullable = true) ∨ field.kind.Admits value

theorem FieldKind.Holds.admits {kind : FieldKind} {value : Value} (held : kind.Holds value)
    (finite : ∀ x, value = .float x → x.isFinite = true)
    (declared : ∀ variants s, kind = .enumeration variants → value = .enumeration s →
      s ∈ variants) : kind.Admits value := by
  cases held with
  | float x => exact .float (finite x rfl)
  | enumeration variants s => exact .enumeration (declared variants s rfl rfl)
  | _ => constructor

theorem FieldKind.Admits.holds {kind : FieldKind} {value : Value} (admits : kind.Admits value) :
    kind.Holds value := by
  cases admits <;> constructor

theorem Double.isNaN_of_isFinite {x : Double} (finite : x.isFinite = true) : x.isNaN = false := by
  simp only [isFinite, isNaN, decide_eq_true_iff, decide_eq_false_iff_not] at *
  omega

theorem Field.Admits.fits {field : Field} {value : Value} (admits : field.Admits value) :
    field.kind.Fits value := by
  rcases admits with ⟨rfl, -⟩ | admits
  · exact field.kind.fits_null
  · exact admits.holds.fits

theorem Field.Admits.isNaN_eq_false {field : Field} {value : Value}
    (admits : field.Admits value) : value.isNaN = false := by
  rcases admits with ⟨rfl, -⟩ | admits
  · rfl
  · generalize field.kind = kind at admits
    cases admits with
    | float finite => exact Double.isNaN_of_isFinite finite
    | _ => rfl

theorem Field.Admits.isNull_eq_false {field : Field} {value : Value} (admits : field.Admits value)
    (required : field.nullable = false) : value.isNull = false := by
  rcases admits with ⟨-, nullable⟩ | admits
  · rw [required] at nullable
    contradiction
  · exact admits.holds.isNull_eq_false

theorem Value.coerce_admits {kind : FieldKind} {raw : Json} {value : Value} (proper : raw.Proper)
    (present : raw.isNull = false) (read : coerce kind raw = .ok value) : kind.Admits value := by
  refine (coerce_holds present read).admits ?_ ?_
  · rintro x rfl
    cases coerce_holds present read
    -- Only a number is read as a double, and either kind of number is finite.
    cases proper with
    | int low high => cases read; exact Double.isFinite_ofInt low high
    | float finite => cases read; exact finite
    | _ => contradiction
  · rintro variants s rfl rfl
    cases raw with
    | str text =>
      simp only [coerce] at read
      split at read
      · next declared => cases read; exact declared
      · contradiction
    | _ => contradiction

namespace Field

theorem readValue_admits {field : Field} {raw : Json} {value : Value} (proper : raw.Proper)
    (read : field.readValue raw = .ok value) : field.Admits value := by
  cases null : raw.isNull with
  | true =>
    unfold readValue at read
    rw [null, Bool.true_and] at read
    split at read
    · contradiction
    · next nullable =>
      cases raw <;> first | contradiction | skip
      cases read
      exact .inl ⟨rfl, by simpa using nullable⟩
  | false => exact .inr (Value.coerce_admits proper null (readValue_eq_ok read))

/-- A literal default is brought to the kind of its field when the field is declared. -/
theorem checkDefault_admits {field : Field} {value : Value}
    (checked : field.checkDefault = .ok (some (.literal value))) : field.Admits value := by
  unfold checkDefault at checked
  repeat' split at checked
  all_goals cases checked
  next given _ _ coerced allowed =>
  cases null : given.toJson.isNull with
  | false => exact .inr (Value.coerce_admits given.proper_toJson null coerced)
  | true =>
    have isNull : value = .null := by
      cases raw : given.toJson <;> rw [raw] at null coerced <;> cases null
      cases coerced
      rfl
    refine .inl ⟨isNull, ?_⟩
    rw [isNull, Value.isNull_null, Bool.true_and] at allowed
    simpa using allowed

end Field

end RecordStore
