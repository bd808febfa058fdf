import RecordStore.Schema.Kind
import RecordStore.Value.Order
import Mathlib.Algebra.Order.Field.Rat
import Mathlib.Tactic.FieldSimp
import Mathlib.Tactic.NormNum
import Mathlib.Tactic.Positivity

/-! # Comparison of values

Swapping two values swaps their comparison, whatever their kinds.  Transitivity is a matter of one
kind: an integer and a decimal that are both equal to a double need not be equal to each other.

`FieldKind.Holds` says which values a kind has.  The carrying fact is `compare?_key`: the values of
one kind compare as keys in an order that is transitive, `sortOrder_key` extends it to null.  Every
law of order on the values of a kind is read off the keys.
-/

namespace RecordStore

/-! ## Comparison of the contents -/

namespace Decimal

/-- The number that a decimal denotes. -/
def value (x : Decimal) : ℚ := x.coefficient / 10 ^ x.scale

theorem compare_eq_compare_value (x y : Decimal) :
    x.compare y = Ord.compare x.value y.value := by
  have hx : (0 : ℚ) < 10 ^ x.scale := by positivity
  have hy : (0 : ℚ) < 10 ^ y.scale := by positivity
  have less : x.value < y.value ↔
      x.coefficient * 10 ^ y.scale < y.coefficient * 10 ^ x.scale := by
    rw [value, value, div_lt_div_iff₀ hx hy]
    exact_mod_cast Iff.rfl
  have greater : y.value < x.value ↔
      y.coefficient * 10 ^ x.scale < x.coefficient * 10 ^ y.scale := by
    rw [value, value, div_lt_div_iff₀ hy hx]
    exact_mod_cast Iff.rfl
  have crosswise : x.compare y
      = Ord.compare (x.coefficient * 10 ^ y.scale) (y.coefficient * 10 ^ x.scale) := by
    simp [compare]
  rw [crosswise]
  rcases lt_trichotomy x.value y.value with lt | eq | gt
  · rw [compare_lt_iff_lt.2 lt, compare_lt_iff_lt.2 (less.1 lt)]
  · rw [compare_eq_iff_eq.2 eq, compare_eq_iff_eq.2]
    exact le_antisymm (not_lt.1 fun h => (greater.2 h).ne' eq)
      (not_lt.1 fun h => (less.2 h).ne eq)
  · rw [compare_gt_iff_gt.2 gt, compare_gt_iff_gt.2 (greater.1 gt)]

instance : Std.TransCmp Decimal.compare := by
  have byValue : Decimal.compare = compareOn value := by
    funext x y
    exact compare_eq_compare_value x y
  rw [byValue]
  infer_instance

end Decimal

instance : Std.TransCmp Timestamp.compare :=
  inferInstanceAs (Std.TransCmp (compareOn Timestamp.fields))

theorem Double.compare?_swap (x y : Double) :
    y.compare? x = (x.compare? y).map Ordering.swap := by
  unfold Double.compare?
  rw [Bool.or_comm, Std.OrientedOrd.eq_swap (a := y.key)]
  split <;> rfl

/-! ## Any two values -/

namespace Value

theorem compare?_swap (a b : Value) : b.compare? a = (a.compare? b).map Ordering.swap := by
  cases a <;> cases b <;>
    simp [compare?, compareDecimal?, text?, integer?, toDouble?, ← Double.compare?_swap,
      ← Std.OrientedOrd.eq_swap, ← @Std.OrientedCmp.eq_swap _ Decimal.compare,
      ← @Std.OrientedCmp.eq_swap _ Timestamp.compare]

theorem same_comm (a b : Value) : a.same b = b.same a := by
  unfold same
  rw [compare?_swap b a, Bool.and_comm]
  congr 1
  cases b.compare? a with
  | none => rfl
  | some order => cases order <;> rfl

theorem sortOrder_swap (a b : Value) : b.sortOrder a = (a.sortOrder b).swap := by
  unfold sortOrder
  rw [compare?_swap a b]
  cases a.isNull <;> cases b.isNull <;> try rfl
  cases a.compare? b <;> rfl

@[simp] theorem isNull_null : Value.null.isNull = true := rfl

theorem isNull_iff {a : Value} : a.isNull = true ↔ a = .null := by
  cases a <;> simp [isNull]

@[simp] theorem same_null_right (a : Value) : a.same .null = a.isNull := by
  cases a <;> rfl

theorem same_iff_of_isNull_eq_false {a b : Value} (present : a.isNull = false) :
    a.same b = true ↔ a.compare? b = some .eq := by
  simp [same, present]

/-- Null is the same as null only. -/
theorem isNull_eq_of_same {a b : Value} (h : a.same b = true) : a.isNull = b.isNull := by
  cases b with
  | null => exact (same_null_right a).symm.trans h
  | _ =>
    cases a with
    | null => rw [same_comm, same_null_right] at h; exact absurd h Bool.false_ne_true
    | _ => rfl

/-- A double that is no number, and compares with nothing. -/
def isNaN : Value → Bool
  | .float x => x.isNaN
  | _ => false

theorem isNaN_of_compare? {a b : Value} {order : Ordering} (h : a.compare? b = some order) :
    a.isNaN = false := by
  cases a with
  | float x =>
    cases b <;>
      simp_all [compare?, compareDecimal?, text?, integer?, toDouble?, isNaN, Double.compare?]
  | _ => rfl

/-- The decimal of a decimal value. -/
def decimal? : Value → Option Decimal
  | .decimal x => some x
  | _ => none

/-- The truth value of a boolean value. -/
def bool? : Value → Option Bool
  | .bool b => some b
  | _ => none

/-- The moment of a date-time value. -/
def moment? : Value → Option Timestamp
  | .dateTime t => some t
  | _ => none

end Value

/-! ## The values of one kind -/

/-- The values other than null that a field of a kind can have. -/
inductive FieldKind.Holds : FieldKind → Value → Prop where
  | string (s : String) : Holds .string (.string s)
  | int (n : Int32) : Holds .int (.int n)
  | bigInt (n : Int64) : Holds .bigInt (.bigInt n)
  | float (x : Double) : Holds .float (.float x)
  | decimal (x : Decimal) : Holds .decimal (.decimal x)
  | boolean (b : Bool) : Holds .boolean (.bool b)
  | dateTime (t : Timestamp) : Holds .dateTime (.dateTime t)
  | enumeration (variants : List String) (s : String) :
      Holds (.enumeration variants) (.enumeration s)

/-- The values of a kind, and null. -/
def FieldKind.Fits (kind : FieldKind) (value : Value) : Prop := value = .null ∨ kind.Holds value

namespace FieldKind

theorem Holds.isNull_eq_false {kind : FieldKind} {value : Value} (held : kind.Holds value) :
    value.isNull = false := by
  cases held <;> rfl

theorem Holds.fits {kind : FieldKind} {value : Value} (held : kind.Holds value) :
    kind.Fits value := .inr held

theorem fits_null (kind : FieldKind) : kind.Fits .null := .inl rfl

theorem Fits.holds {kind : FieldKind} {value : Value} (fits : kind.Fits value)
    (present : value.isNull = false) : kind.Holds value := by
  rcases fits with rfl | held
  · exact absurd present (by decide)
  · exact held

/-- The values of a kind compare as keys do. -/
theorem compare?_key (kind : FieldKind) :
    ∃ (κ : Type) (_ : Ord κ) (_ : Std.TransOrd κ) (key : Value → κ),
      ∀ a b, kind.Holds a → kind.Holds b → a.isNaN = false → b.isNaN = false →
        a.compare? b = some (compare (key a) (key b)) := by
  cases kind with
  | string | enumeration =>
    refine ⟨String, _, inferInstance, fun v => v.text?.getD "", ?_⟩
    rintro _ _ ⟨⟩ ⟨⟩ _ _
    rfl
  | int | bigInt =>
    refine ⟨Int, _, inferInstance, fun v => v.integer?.getD 0, ?_⟩
    rintro _ _ ⟨⟩ ⟨⟩ _ _
    rfl
  | float =>
    refine ⟨Int, _, inferInstance, fun v => (v.toDouble?.getD .zero).key, ?_⟩
    rintro _ _ ⟨⟩ ⟨⟩ hx hy
    simp only [Value.isNaN] at hx hy
    simp [Value.compare?, Value.text?, Value.integer?, Value.toDouble?, Double.compare?, hx, hy]
  | decimal =>
    refine ⟨ℚ, _, inferInstance, fun v => (v.decimal?.map Decimal.value).getD 0, ?_⟩
    rintro _ _ ⟨⟩ ⟨⟩ _ _
    exact congrArg some (Decimal.compare_eq_compare_value _ _)
  | boolean =>
    refine ⟨Bool, _, inferInstance, fun v => v.bool?.getD false, ?_⟩
    rintro _ _ ⟨⟩ ⟨⟩ _ _
    rfl
  | dateTime =>
    refine ⟨List Int, _, inferInstance, fun v => (v.moment?.map Timestamp.fields).getD [], ?_⟩
    rintro _ _ ⟨⟩ ⟨⟩ _ _
    rfl

/-- So do those of a kind together with null, which has the least key. -/
theorem sortOrder_key (kind : FieldKind) :
    ∃ (κ : Type) (_ : Ord κ) (_ : Std.TransOrd κ) (key : Value → κ),
      ∀ a b, kind.Fits a → kind.Fits b → a.isNaN = false → b.isNaN = false →
        a.sortOrder b = compare (key a) (key b) := by
  obtain ⟨κ, _, _, key, compareKey⟩ := kind.compare?_key
  refine ⟨Option κ, _, inferInstance, fun v => if v.isNull then none else some (key v), ?_⟩
  rintro a b (rfl | ha) (rfl | hb) hna hnb
  · rfl
  · simp only [Value.sortOrder, Value.isNull_null, hb.isNull_eq_false]
    rfl
  · simp only [Value.sortOrder, Value.isNull_null, ha.isNull_eq_false]
    rfl
  · simp only [Value.sortOrder, ha.isNull_eq_false, hb.isNull_eq_false,
      compareKey a b ha hb hna hnb]
    rfl

/-- Values tie exactly when they are the same. -/
theorem sortOrder_eq_iff {kind : FieldKind} {a b : Value} (ha : kind.Fits a) (hb : kind.Fits b)
    (hna : a.isNaN = false) (hnb : b.isNaN = false) :
    a.sortOrder b = .eq ↔ a.same b = true := by
  unfold Value.sortOrder Value.same
  cases nullA : a.isNull <;> cases nullB : b.isNull
  · obtain ⟨κ, _, _, key, compareKey⟩ := kind.compare?_key
    rw [compareKey a b (ha.holds nullA) (hb.holds nullB) hna hnb]
    simp
  · rw [Value.isNull_iff.1 nullB]
    cases a <;> simp [Value.compare?]
  · rw [Value.isNull_iff.1 nullA]
    simp [Value.compare?]
  · simp

/-- A value is the same as itself, unless it is a NaN. -/
theorem Fits.same_self {kind : FieldKind} {a : Value} (ha : kind.Fits a) (hna : a.isNaN = false) :
    a.same a = true := by
  rw [← sortOrder_eq_iff ha ha hna hna]
  obtain ⟨κ, _, _, key, compareKey⟩ := kind.sortOrder_key
  rw [compareKey a a ha ha hna hna]
  exact Std.ReflOrd.compare_self

end FieldKind

/-- Being the same carries over within a kind.  Between kinds it does not: 9007199254740993 is the
same as the double 9007199254740992, and that the same as the decimal 9007199254740992. -/
theorem Value.same_trans {kind : FieldKind} {a b c : Value} (ha : kind.Fits a) (hb : kind.Fits b)
    (hc : kind.Fits c) (hab : a.same b = true) (hbc : b.same c = true) : a.same c = true := by
  have nullB := isNull_eq_of_same hab
  have nullC := isNull_eq_of_same hbc
  rcases ha with rfl | ha
  · rw [same_comm, same_null_right, ← nullC, ← nullB, isNull_null]
  rw [ha.isNull_eq_false] at nullB
  rw [← nullB] at nullC
  have hb := hb.holds nullB.symm
  have hc := hc.holds nullC.symm
  rw [same_iff_of_isNull_eq_false ha.isNull_eq_false] at hab ⊢
  rw [same_iff_of_isNull_eq_false hb.isNull_eq_false] at hbc
  have hna := isNaN_of_compare? hab
  have hnb := isNaN_of_compare? hbc
  have hnc : c.isNaN = false := isNaN_of_compare? (b := b) (by rw [compare?_swap, hbc]; rfl)
  obtain ⟨κ, _, _, key, compareKey⟩ := kind.compare?_key
  rw [compareKey a b ha hb hna hnb, Option.some.injEq] at hab
  rw [compareKey b c hb hc hnb hnc, Option.some.injEq] at hbc
  rw [compareKey a c ha hc hna hnc, Std.TransCmp.eq_trans hab hbc]

end RecordStore
