import Mathlib.Algebra.Order.Field.Power
import Mathlib.Algebra.Order.Field.Rat
import Mathlib.Order.Monotone.Basic
import Mathlib.Tactic.FieldSimp
import Mathlib.Tactic.Linarith
import Mathlib.Tactic.NormNum
import Mathlib.Tactic.Positivity
import Mathlib.Tactic.Ring
import RecordStore.Number.Shortest

/-! # Numbers round to one double

The doubles of one sign are numbered by their magnitudes, and each is the one before it and one unit
more.  The numbers between the midpoints on either side of a double round to it; a midpoint rounds to
the neighbour with the even magnitude, so that no number rounds to two doubles: `Rounds.unique`.

The interval of a double covers the points of a decimal grid that round to it:
`covers_onGrid_iff`.
-/

namespace RecordStore

/-- A power with an integer exponent, over one denominator. -/
theorem zpow_eq_div {b : ℚ} (positive : 0 < b) (p : ℤ) : b ^ p = b ^ p.toNat / b ^ (-p).toNat := by
  rw [← zpow_natCast, ← zpow_natCast, ← zpow_sub₀ positive.ne']
  congr 1
  omega

namespace Double

/-! ## The numbers of the magnitudes -/

theorem two_pow_52 : Nat.pow 2 52 = 4503599627370496 := rfl

def significandOf (n : Nat) : Nat := if n < Nat.pow 2 52 then n else Nat.pow 2 52 + n % Nat.pow 2 52

def exponentOf (n : Nat) : Int :=
  if n < Nat.pow 2 52 then -1074 else (n / Nat.pow 2 52 : Nat) - 1075

/-- The positive number of a magnitude. -/
def numberOf (n : Nat) : ℚ := significandOf n * 2 ^ exponentOf n

/-- The distance from a magnitude's number to the next one. -/
def unitOf (n : Nat) : ℚ := 2 ^ exponentOf n

/-- The number in the middle between those of a magnitude and the next one. -/
def halfway (n : Nat) : ℚ := numberOf n + unitOf n / 2

theorem unitOf_pos (n : Nat) : 0 < unitOf n := by
  unfold unitOf
  positivity

/-- Both grow by one, or the significand starts again and the exponent grows. -/
theorem step_cases (n : Nat) :
    (significandOf (n + 1) = significandOf n + 1 ∧ exponentOf (n + 1) = exponentOf n) ∨
    (significandOf (n + 1) = Nat.pow 2 52 ∧ significandOf n + 1 = 2 * Nat.pow 2 52 ∧
      exponentOf (n + 1) = exponentOf n + 1 ∧ (n + 1) % Nat.pow 2 52 = 0 ∧ Nat.pow 2 52 < n + 1) := by
  simp only [significandOf, exponentOf, two_pow_52]
  split_ifs <;> omega

theorem numberOf_succ (n : Nat) : numberOf (n + 1) = numberOf n + unitOf n := by
  unfold numberOf unitOf
  rcases step_cases n with ⟨significand, exponent⟩ | ⟨significand, full, exponent, -⟩
  · rw [significand, exponent, Nat.cast_add_one]
    ring
  · have carried : (2 * (Nat.pow 2 52 : Nat) : ℚ) = significandOf n + 1 := by
      exact_mod_cast full.symm
    rw [significand, exponent, zpow_add_one₀ two_ne_zero]
    calc ((Nat.pow 2 52 : Nat) : ℚ) * (2 ^ exponentOf n * 2)
        = (2 * (Nat.pow 2 52 : Nat)) * 2 ^ exponentOf n := by ring
      _ = significandOf n * 2 ^ exponentOf n + 2 ^ exponentOf n := by rw [carried]; ring

theorem halfway_lt_numberOf (n : Nat) : halfway n < numberOf (n + 1) := by
  have positive := unitOf_pos n
  rw [halfway, numberOf_succ]
  linarith

theorem numberOf_lt_halfway (n : Nat) : numberOf n < halfway n := by
  have positive := unitOf_pos n
  rw [halfway]
  linarith

theorem halfway_strictMono : StrictMono halfway :=
  strictMono_nat_of_lt_succ fun n => (halfway_lt_numberOf n).trans (numberOf_lt_halfway (n + 1))

/-! ## Rounding -/

/-- Whether a number rounds to that of the magnitude `n + 1`. -/
def Rounds (n : Nat) (q : ℚ) : Prop :=
  if (n + 1) % 2 = 0 then halfway n ≤ q ∧ q ≤ halfway (n + 1)
  else halfway n < q ∧ q < halfway (n + 1)

theorem Rounds.le {n : Nat} {q : ℚ} (rounds : Rounds n q) : halfway n ≤ q ∧ q ≤ halfway (n + 1) := by
  unfold Rounds at rounds
  split at rounds
  · exact rounds
  · exact ⟨rounds.1.le, rounds.2.le⟩

theorem Rounds.pos {n : Nat} {q : ℚ} (rounds : Rounds n q) : 0 < q := by
  have least : 0 < halfway 0 := by
    have positive := unitOf_pos 0
    have zero : numberOf 0 = 0 := by simp [numberOf, significandOf]
    rw [halfway, zero]
    linarith
  exact least.trans_le ((halfway_strictMono.monotone (Nat.zero_le n)).trans rounds.le.1)

/-- No number rounds to two doubles: they would be neighbours, and its midpoint goes to one of them. -/
theorem Rounds.unique {m n : Nat} {q : ℚ} (first : Rounds m q) (second : Rounds n q) : m = n := by
  wlog less : m < n generalizing m n with symmetric
  · rcases Nat.lt_trichotomy m n with lt | eq | gt
    · exact symmetric first second lt
    · exact eq
    · exact (symmetric second first gt).symm
  have between := halfway_strictMono.monotone (Nat.succ_le_of_lt less)
  have onMidpoint : halfway (m + 1) = halfway n :=
    le_antisymm between (second.le.1.trans first.le.2)
  have neighbours : m + 1 = n := halfway_strictMono.injective onMidpoint
  subst neighbours
  unfold Rounds at first second
  split at first <;> split at second
  · omega
  · exact absurd (second.1.trans_le first.2) (lt_irrefl _)
  · exact absurd (first.2.trans_le second.1) (lt_irrefl _)
  · omega

end Double

/-! ## The interval of a double -/

namespace RoundingInterval

open Double

/-- Numbers over powers of two and points of a decimal grid are compared over one denominator. -/
theorem cast_dyadic (a : Nat) (scale place : Int) :
    ((a * Nat.pow 2 scale.toNat * Nat.pow 10 (-place).toNat : Nat) : ℚ)
      = a * 2 ^ scale * (2 ^ (-scale).toNat * 10 ^ (-place).toNat) := by
  rw [zpow_eq_div two_pos scale]
  push_cast [Nat.pow_eq]
  field_simp

theorem cast_point (k : Nat) (scale place : Int) :
    ((k * (Nat.pow 2 (-scale).toNat * Nat.pow 10 place.toNat) : Nat) : ℚ)
      = k * 10 ^ place * (2 ^ (-scale).toNat * 10 ^ (-place).toNat) := by
  rw [zpow_eq_div (by norm_num : (0 : ℚ) < 10) place]
  push_cast [Nat.pow_eq]
  field_simp

theorem dyadic_le_point_iff (a k : Nat) (scale place : Int) :
    a * Nat.pow 2 scale.toNat * Nat.pow 10 (-place).toNat
        ≤ k * (Nat.pow 2 (-scale).toNat * Nat.pow 10 place.toNat) ↔
      (a : ℚ) * 2 ^ scale ≤ k * 10 ^ place := by
  rw [← @Nat.cast_le ℚ, cast_dyadic, cast_point, mul_le_mul_iff_left₀ (by positivity)]

theorem point_le_dyadic_iff (a k : Nat) (scale place : Int) :
    k * (Nat.pow 2 (-scale).toNat * Nat.pow 10 place.toNat)
        ≤ a * Nat.pow 2 scale.toNat * Nat.pow 10 (-place).toNat ↔
      (k : ℚ) * 10 ^ place ≤ a * 2 ^ scale := by
  rw [← @Nat.cast_le ℚ, cast_dyadic, cast_point, mul_le_mul_iff_left₀ (by positivity)]

variable {x : Double} {n : Nat}

theorem quarter_units (m : ℚ) (e : Int) : 4 * m * 2 ^ (e - 2) = m * 2 ^ e := by
  rw [zpow_sub₀ two_ne_zero]
  ring

theorem low_eq (named : x.magnitude = n + 1) :
    ((4 * x.significand - if x.magnitude % Nat.pow 2 52 = 0 ∧ Nat.pow 2 52 < x.magnitude then 1 else 2
      : Nat) : ℚ) * 2 ^ (x.exponent - 2) = halfway n := by
  have significand : x.significand = significandOf (n + 1) := by rw [← named]; rfl
  have exponent : x.exponent = exponentOf (n + 1) := by rw [← named]; rfl
  have number : (significandOf n : ℚ) * 2 ^ exponentOf n + 2 ^ exponentOf n
      = significandOf (n + 1) * 2 ^ exponentOf (n + 1) := (numberOf_succ n).symm
  have positive : 1 ≤ significandOf (n + 1) := by
    simp only [significandOf, two_pow_52]
    split_ifs <;> omega
  rw [named, significand, exponent, Nat.cast_sub (by split <;> omega), halfway, numberOf, unitOf]
  push_cast
  rw [sub_mul, quarter_units, ← number]
  rcases step_cases n with ⟨plain, same⟩ | ⟨-, -, grown, boundary⟩
  · -- In the middle of a binade, or at the start of the first one, the units on both sides are equal.
    rw [if_neg ?_, same, zpow_sub₀ two_ne_zero]
    · ring
    · simp only [significandOf, exponentOf, two_pow_52] at plain same ⊢
      split_ifs at plain same <;> omega
  · rw [if_pos boundary, grown, zpow_sub₀ two_ne_zero, zpow_add_one₀ two_ne_zero]
    ring

theorem high_eq (named : x.magnitude = n + 1) :
    ((4 * x.significand + 2 : Nat) : ℚ) * 2 ^ (x.exponent - 2) = halfway (n + 1) := by
  have significand : x.significand = significandOf (n + 1) := by rw [← named]; rfl
  have exponent : x.exponent = exponentOf (n + 1) := by rw [← named]; rfl
  rw [significand, exponent, halfway, numberOf, unitOf]
  push_cast
  rw [add_mul, quarter_units, zpow_sub₀ two_ne_zero]
  ring

/-- The interval of a double covers the points of a grid that round to it. -/
theorem covers_onGrid_iff (named : x.magnitude = n + 1) (place : Int) (k : Nat) :
    ((ofDouble x).onGrid place).covers k = true ↔ Rounds n (k * 10 ^ place) := by
  have parity : x.significand % 2 = (n + 1) % 2 := by
    unfold significand
    rw [named, two_pow_52]
    split <;> omega
  have low := low_eq named
  have high := high_eq named
  unfold covers Rounds
  simp only [onGrid, ofDouble, parity, decide_eq_true_eq, ← low, ← high]
  split
  · simp only [Bool.and_eq_true, decide_eq_true_eq]
    exact and_congr (dyadic_le_point_iff _ _ _ _) (point_le_dyadic_iff _ _ _ _)
  · simp only [Bool.and_eq_true, decide_eq_true_eq]
    refine and_congr ?_ ?_
    · rw [← not_le, point_le_dyadic_iff, not_le]
    · rw [← not_le, dyadic_le_point_iff, not_le]

theorem value_eq (named : x.magnitude = n + 1) :
    ((4 * x.significand : Nat) : ℚ) * 2 ^ (x.exponent - 2) = numberOf (n + 1) := by
  rw [Nat.cast_mul, Nat.cast_ofNat, quarter_units, ← named]
  rfl

theorem reaches_iff (named : x.magnitude = n + 1) (place : Int) :
    (ofDouble x).reaches place = true ↔ (10 : ℚ) ^ place ≤ numberOf (n + 1) := by
  have least := point_le_dyadic_iff (4 * x.significand) 1 (x.exponent - 2) place
  rw [one_mul, Nat.cast_one, one_mul, value_eq named] at least
  rw [reaches, decide_eq_true_iff]
  exact least

/-- The value lies between two neighbours on a grid. -/
theorem floor_onGrid (named : x.magnitude = n + 1) (place : Int) :
    ∃ floor, ((ofDouble x).onGrid place).value / ((ofDouble x).onGrid place).denominator = floor ∧
      (floor : ℚ) * 10 ^ place ≤ numberOf (n + 1) ∧
      numberOf (n + 1) < (floor + 1 : Nat) * 10 ^ place := by
  have positive : 0 < ((ofDouble x).onGrid place).denominator :=
    Nat.mul_pos (Nat.pow_pos (by decide)) (Nat.pow_pos (by decide))
  refine ⟨_, rfl, ?_, ?_⟩
  · rw [← value_eq named, ← point_le_dyadic_iff]
    exact Nat.div_mul_le_self _ _
  · rw [← value_eq named, ← not_le, ← point_le_dyadic_iff, not_le]
    exact Nat.lt_mul_of_div_lt (Nat.lt_succ_self _) positive

end RoundingInterval

end RecordStore
