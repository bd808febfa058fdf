import Mathlib.Data.Int.Cast.Lemmas
import RecordStore.Proofs.Comparison.Values

/-! # Comparison between kinds

Two numbers are compared as integers, as decimals or as doubles.  Only the last way loses digits, and
it is taken only beside a double: integers and decimals, in any mix of their kinds, compare as the
rational numbers that they denote (`Denotes.compare?_eq`).  Therefore they are in a linear order, up
to values of one number, and being the same is an equivalence among them.  With doubles among them
neither holds.

`compare?_eq_none_iff` says which values do not compare: null, values of kinds that have nothing in
common, and doubles of which one is a NaN.
-/

namespace RecordStore

/-! ## Integers as decimals -/

theorem compare_intCast (m n : Int) : Ord.compare (m : ℚ) n = Ord.compare m n := by
  rw [← cmp_eq_compare, ← cmp_eq_compare, Int.cast_strictMono.cmp_map_eq]

namespace Decimal

theorem value_ofInt64 (n : Int64) : (ofInt64 n).value = n.toInt := by
  have signed : (ofInt64 n).coefficient = n.toInt := by
    simp only [ofInt64, coefficient, decide_eq_true_eq]
    split <;> omega
  have whole : (ofInt64 n).scale = 0 := rfl
  rw [value, signed, whole, pow_zero, div_one]

theorem compare_ofInt64 (x : Decimal) (n : Int64) :
    x.compare (ofInt64 n) = Ord.compare x.value n.toInt := by
  rw [compare_eq_compare_value, value_ofInt64]

end Decimal

namespace Value

/-! ## Integers and decimals -/

/-- The number that an integer or a decimal denotes. -/
inductive Denotes : Value → ℚ → Prop where
  | int (n : Int32) : Denotes (.int n) n.toInt
  | bigInt (n : Int64) : Denotes (.bigInt n) n.toInt
  | decimal (x : Decimal) : Denotes (.decimal x) x.value

theorem Denotes.isNull_eq_false {a : Value} {x : ℚ} (denotes : a.Denotes x) :
    a.isNull = false := by
  cases denotes <;> rfl

theorem Denotes.compare?_decimal {b : Value} {y : ℚ} (denotes : b.Denotes y) (x : Decimal) :
    (Value.decimal x).compare? b = some (compare x.value y) := by
  cases denotes with
  | int n =>
    have widened := x.compare_ofInt64 n.toInt64
    rw [Int32.toInt_toInt64] at widened
    exact congrArg some widened
  | bigInt n => exact congrArg some (x.compare_ofInt64 n)
  | decimal y => exact congrArg some (x.compare_eq_compare_value y)

theorem Denotes.compare?_eq {a b : Value} {x y : ℚ} (denotesA : a.Denotes x)
    (denotesB : b.Denotes y) : a.compare? b = some (compare x y) := by
  cases denotesB with
  | decimal y =>
    -- What stands in front of a decimal is compared the other way round.
    rw [compare?_swap, denotesA.compare?_decimal y, Option.map_some, ← Std.OrientedOrd.eq_swap]
  | int n | bigInt n =>
    cases denotesA with
    | decimal x => exact Denotes.compare?_decimal (by constructor) x
    | int m | bigInt m => exact congrArg some (compare_intCast _ _).symm

/-- An integer or a decimal, with the number that it denotes. -/
structure Exact where
  value : Value
  number : ℚ
  denotes : value.Denotes number

namespace Exact

/-- At most another one, as values compare. -/
instance : LE Exact :=
  ⟨fun a b => ∃ order, a.value.compare? b.value = some order ∧ order.isLE = true⟩

variable {a b : Exact}

theorem compare?_value (a b : Exact) :
    a.value.compare? b.value = some (compare a.number b.number) :=
  a.denotes.compare?_eq b.denotes

theorem le_iff : a ≤ b ↔ a.number ≤ b.number := by
  change (∃ order, a.value.compare? b.value = some order ∧ order.isLE = true) ↔ _
  rw [compare?_value, ← compare_le_iff_le, ne_eq, ← Ordering.isLE_iff_ne_gt]
  simp

theorem same_iff : a.value.same b.value = true ↔ a.number = b.number := by
  rw [same_iff_of_isNull_eq_false a.denotes.isNull_eq_false, compare?_value, Option.some.injEq,
    compare_eq_iff_eq]

instance : Std.IsLinearPreorder Exact where
  le_refl _ := le_iff.2 le_rfl
  le_trans _ _ _ below above := le_iff.2 ((le_iff.1 below).trans (le_iff.1 above))
  le_total a b := (le_total a.number b.number).imp le_iff.2 le_iff.2

theorem same_equivalence : Equivalence fun a b : Exact => a.value.same b.value = true where
  refl _ := same_iff.2 rfl
  symm same := same_iff.2 (same_iff.1 same).symm
  trans same next := same_iff.2 ((same_iff.1 same).trans (same_iff.1 next))

end Exact

end Value

/-! ## Doubles -/

theorem Double.compare?_eq_none_iff {x y : Double} :
    x.compare? y = none ↔ x.isNaN = true ∨ y.isNaN = true := by
  unfold compare?
  cases x.isNaN <;> cases y.isNaN <;> simp

namespace Value

variable {a b : Value}

def isDouble : Value → Bool
  | .float _ => true
  | _ => false

theorem isDouble_iff : a.isDouble = true ↔ ∃ x, a = .float x := by
  cases a <;> simp [isDouble]

theorem compare?_float {y : Double} (x : Double) (doubleB : b.toDouble? = some y) :
    (Value.float x).compare? b = x.compare? y := by
  cases b with
  | decimal d =>
    cases doubleB
    exact (Double.compare?_swap d.toDouble x).symm
  | int n | bigInt n | float z =>
    cases doubleB
    rfl
  | _ => contradiction

/-- Beside a double, numbers of every kind compare as doubles. -/
theorem compare?_of_isDouble {x y : Double} (double : a.isDouble = true ∨ b.isDouble = true)
    (doubleA : a.toDouble? = some x) (doubleB : b.toDouble? = some y) :
    a.compare? b = x.compare? y := by
  rcases double with doubled | doubled
  · obtain ⟨z, rfl⟩ := isDouble_iff.1 doubled
    cases doubleA
    exact compare?_float x doubleB
  · obtain ⟨z, rfl⟩ := isDouble_iff.1 doubled
    cases doubleB
    rw [compare?_swap, compare?_float y doubleA, ← Double.compare?_swap]

/-- Whether two numbers, one of them a double, are compared as doubles and one of these is a NaN. -/
def MeetsNaN (a b : Value) : Prop :=
  (a.isDouble = true ∨ b.isDouble = true) ∧
    ∃ x y, a.toDouble? = some x ∧ b.toDouble? = some y ∧ (x.isNaN = true ∨ y.isNaN = true)

end Value

/-! ## Kinds that compare -/

namespace FieldKind

/-- What the values of a kind are about.  Values compare if they are about one sort of thing. -/
inductive Family where
  | number
  | text
  | truth
  | moment

def family : FieldKind → Family
  | .int => .number
  | .bigInt => .number
  | .float => .number
  | .decimal => .number
  | .string => .text
  | .enumeration _ => .text
  | .boolean => .truth
  | .dateTime => .moment

variable {kind other : FieldKind} {a b : Value}

theorem Holds.compare?_eq_none (heldA : kind.Holds a) (heldB : other.Holds b)
    (apart : kind.family ≠ other.family) : a.compare? b = none := by
  cases heldA <;> cases heldB <;> first | exact absurd rfl apart | rfl

theorem Holds.compare?_ne_none (heldA : kind.Holds a) (heldB : other.Holds b)
    (together : kind.family = other.family) (exactA : a.isDouble = false)
    (exactB : b.isDouble = false) : a.compare? b ≠ none := by
  cases heldA <;> cases exactA <;> cases heldB <;> cases exactB <;> cases together <;>
    exact Option.some_ne_none _

theorem Holds.exists_toDouble? (held : kind.Holds a) (number : kind.family = .number) :
    ∃ x, a.toDouble? = some x := by
  cases held <;> first | exact ⟨_, rfl⟩ | contradiction

theorem Holds.family_of_isDouble (held : kind.Holds a) (double : a.isDouble = true) :
    kind.family = .number := by
  obtain ⟨x, rfl⟩ := Value.isDouble_iff.1 double
  cases held
  rfl

end FieldKind

namespace Value

/-- Whether two values are of kinds that do not compare. -/
def KindsApart (a b : Value) : Prop :=
  ∃ kind other : FieldKind, kind.Holds a ∧ other.Holds b ∧ kind.family ≠ other.family

variable {a b : Value}

theorem exists_holds (present : a ≠ .null) : ∃ kind : FieldKind, kind.Holds a := by
  cases a with
  | null => contradiction
  | bool b => exact ⟨_, .boolean b⟩
  | int n => exact ⟨_, .int n⟩
  | bigInt n => exact ⟨_, .bigInt n⟩
  | float x => exact ⟨_, .float x⟩
  | decimal x => exact ⟨_, .decimal x⟩
  | dateTime t => exact ⟨_, .dateTime t⟩
  | string s => exact ⟨_, .string s⟩
  | enumeration s => exact ⟨_, .enumeration [] s⟩

theorem compare?_eq_none_iff :
    a.compare? b = none ↔ a = .null ∨ b = .null ∨ a.KindsApart b ∨ a.MeetsNaN b := by
  constructor
  · intro none
    by_contra! ordinary
    obtain ⟨presentA, presentB, noneApart, noNaN⟩ := ordinary
    obtain ⟨kind, heldA⟩ := exists_holds presentA
    obtain ⟨other, heldB⟩ := exists_holds presentB
    have together : kind.family = other.family :=
      by_contra fun apart => noneApart ⟨kind, other, heldA, heldB, apart⟩
    by_cases double : a.isDouble = true ∨ b.isDouble = true
    · have number : kind.family = .number := by
        rcases double with doubled | doubled
        · exact heldA.family_of_isDouble doubled
        · exact together.trans (heldB.family_of_isDouble doubled)
      obtain ⟨x, doubleA⟩ := heldA.exists_toDouble? number
      obtain ⟨y, doubleB⟩ := heldB.exists_toDouble? (together ▸ number)
      rw [compare?_of_isDouble double doubleA doubleB, Double.compare?_eq_none_iff] at none
      exact noNaN ⟨double, x, y, doubleA, doubleB, none⟩
    · simp only [not_or, Bool.not_eq_true] at double
      exact heldA.compare?_ne_none heldB together double.1 double.2 none
  · rintro (rfl | rfl | ⟨kind, other, heldA, heldB, apart⟩ |
      ⟨double, x, y, doubleA, doubleB, nan⟩)
    · rfl
    · rw [compare?_swap]
      rfl
    · exact heldA.compare?_eq_none heldB apart
    · rw [compare?_of_isDouble double doubleA doubleB]
      exact Double.compare?_eq_none_iff.2 nan

/-! ## The laws of comparison -/

/-- Integers and decimals compare as the numbers that they denote, so they are in a linear order up to
values of one number, and being the same is an equivalence among them.  Any two values compare the
other way round when they are swapped, and they have no order if and only if one of them is null,
their kinds do not compare, or they are compared as doubles and one of these is a NaN. -/
theorem comparison_exact :
    (∀ a b : Exact, a.value.compare? b.value = some (compare a.number b.number)) ∧
    Std.IsLinearPreorder Exact ∧ (∀ a b : Exact, a ≤ b ∧ b ≤ a ↔ a.number = b.number) ∧
    (Equivalence fun a b : Exact => a.value.same b.value = true) ∧
    ∀ a b : Value, b.compare? a = (a.compare? b).map Ordering.swap ∧
      (a.compare? b = none ↔ a = .null ∨ b = .null ∨ a.KindsApart b ∨ a.MeetsNaN b) := by
  refine ⟨Exact.compare?_value, inferInstance, fun a b => ?_, Exact.same_equivalence,
    fun a b => ⟨compare?_swap a b, compare?_eq_none_iff⟩⟩
  rw [Exact.le_iff, Exact.le_iff, le_antisymm_iff]

/-- A decimal between two integers, where no double tells the three apart. -/
example :
    let between : Decimal := ⟨false, 90071992547409925, 1, by decide, by decide⟩
    (Value.bigInt 9007199254740992).compare? (.decimal between) = some .lt ∧
    (Value.decimal between).compare? (.bigInt 9007199254740993) = some .lt := by
  decide +kernel

/-- With a double among them, being the same does not carry over. -/
example :
    let rounded : Value := .float (Double.ofNat 9007199254740992)
    (Value.bigInt 9007199254740993).same rounded = true ∧
    rounded.same (.bigInt 9007199254740992) = true ∧
    (Value.bigInt 9007199254740993).same (.bigInt 9007199254740992) = false := by
  decide +kernel

end Value

end RecordStore
