import Mathlib.Tactic.Linarith
import RecordStore.Proofs.Comparison.Values

/-! # When decimals overflow

The result of arithmetic on decimals is rounded to the greatest scale at which it fits.  It has no
result only where it would not even fit as a whole number, and that is a matter of its exact value:
`Exceeds` says that the value lies half a unit below `2 ^ 96` or beyond.

For sums and products this is the rule that rounds them, `fit?_eq_none_iff`.  A quotient is produced
digit by digit.  `Division.Reaches` is what the loop keeps, the exact value as the quotient so far and
what the remainder makes of it; `divideFrom_ends` says that the loop ends, with a quotient that fits
unless the value exceeds.
-/

namespace RecordStore

namespace Decimal

/-- Whether a number is too great for a decimal, because the whole number nearest to it is. -/
def Exceeds (q : ℚ) : Prop := (limit : ℚ) - 1 / 2 ≤ |q|

theorem one_lt_limit : 1 < limit := by decide

/-! ## Values -/

theorem value_neg (x : Decimal) : (-x).value = -x.value := by
  have scale : (-x).scale = x.scale := by
    change x.neg.scale = _
    unfold neg
    split <;> rfl
  rw [value, coefficient_neg, scale, value, Int.cast_neg, neg_div]

theorem abs_value (x : Decimal) : |x.value| = x.magnitude / 10 ^ x.scale := by
  rw [value, abs_div, abs_of_pos (by positivity : (0 : ℚ) < 10 ^ x.scale), ← Int.cast_abs,
    Int.abs_eq_natAbs, natAbs_coefficient, Int.cast_natCast]

theorem value_of_isZero {x : Decimal} (zero : x.isZero = true) : x.value = 0 := by
  have magnitude : x.magnitude = 0 := by simpa [isZero] using zero
  rw [← abs_eq_zero, abs_value, magnitude, Nat.cast_zero, zero_div]

theorem not_exceeds_zero : ¬ Exceeds 0 := by
  have room : (1 : ℚ) < limit := by exact_mod_cast one_lt_limit
  rw [Exceeds, abs_zero]
  linarith

theorem not_exceeds_value (x : Decimal) : ¬ Exceeds x.value := by
  have small : (x.magnitude : ℚ) + 1 ≤ limit := by exact_mod_cast x.magnitude_lt
  have unit : (1 : ℚ) ≤ 10 ^ x.scale := one_le_pow₀ (by norm_num)
  have below : (x.magnitude : ℚ) / 10 ^ x.scale ≤ x.magnitude :=
    div_le_self (Nat.cast_nonneg _) unit
  rw [Exceeds, abs_value, not_le]
  linarith

/-! ## Rounding -/

theorem ofSigned?_eq_none_iff {negative : Bool} {magnitude scale : Nat} (small : scale ≤ 28) :
    ofSigned? negative magnitude scale = none ↔ limit ≤ magnitude := by
  unfold ofSigned?
  split
  · next fits =>
    simp only [reduceCtorEq, false_iff, Nat.not_le]
    exact fits.1
  · next unfit =>
    simp only [true_iff]
    exact Nat.le_of_not_lt fun fits => unfit ⟨fits, small⟩

/-- The tie below the limit is rounded up, because the limit is even. -/
theorem roundHalfEven_lt_iff {n d : Nat} (positive : 0 < d) :
    roundHalfEven n d < limit ↔ 2 * n + d < 2 * (d * limit) := by
  obtain ⟨half, even⟩ : ∃ half, limit = 2 * half := ⟨2 ^ 95, rfl⟩
  have parts : d * (n / d) + n % d = n := Nat.div_add_mod n d
  have rest : n % d < d := Nat.mod_lt n positive
  simp only [even, roundHalfEven, Nat.mul_left_comm d 2]
  generalize n / d = quotient at *
  generalize n % d = remainder at *
  rcases Nat.lt_trichotomy (quotient + 1) (2 * half) with below | last | beyond
  · have room : d * (quotient + 2) ≤ d * (2 * half) := Nat.mul_le_mul_left d below
    rw [Nat.mul_add, Nat.mul_left_comm] at room
    split <;> omega
  · have room : d * (quotient + 1) = d * (2 * half) := congrArg (d * ·) last
    rw [Nat.mul_add, Nat.mul_left_comm] at room
    split <;> omega
  · have full : d * (2 * half) ≤ d * quotient := Nat.mul_le_mul_left d (by omega)
    rw [Nat.mul_left_comm] at full
    split <;> omega

theorem fitDropping_eq_none_iff {negative : Bool} {n dropped scale : Nat} (small : scale ≤ 28) :
    fitDropping negative n dropped scale = none ↔
      limit ≤ roundHalfEven n (10 ^ (dropped + scale)) := by
  induction scale generalizing dropped with
  | zero => exact ofSigned?_eq_none_iff small
  | succ scale ih =>
    rw [fitDropping]
    split
    · next fitted =>
      -- What fits with fewer digits dropped, fits with more.
      have fits : ¬ limit ≤ roundHalfEven n (10 ^ dropped) := by
        rw [← ofSigned?_eq_none_iff small]
        exact fun none => absurd (none.symm.trans fitted) (by simp)
      rw [Nat.not_le, roundHalfEven_lt_iff (by positivity)] at fits
      have more : 10 ^ dropped ≤ 10 ^ (dropped + (scale + 1)) :=
        Nat.pow_le_pow_right (by decide) (by omega)
      simp only [reduceCtorEq, false_iff, Nat.not_le]
      rw [roundHalfEven_lt_iff (by positivity)]
      nlinarith [one_lt_limit]
    · rw [ih (by omega), Nat.add_right_comm, Nat.add_assoc dropped]

/-- A number is rounded to a decimal unless it exceeds what decimals hold. -/
theorem fit?_eq_none_iff {negative : Bool} {n scale : Nat} :
    fit? negative n scale = none ↔ Exceeds (n / 10 ^ scale) := by
  have unit : (0 : ℚ) < 10 ^ scale := by positivity
  have digits : scale - 28 + min scale 28 = scale := by omega
  rw [fit?, fitDropping_eq_none_iff (Nat.min_le_right _ _), digits, ← not_iff_not, Nat.not_le,
    roundHalfEven_lt_iff (by positivity), Exceeds, not_le,
    abs_of_nonneg (by positivity), div_lt_iff₀ unit]
  rw [← Nat.cast_lt (α := ℚ)]
  push_cast
  constructor <;> intro h <;> linarith

/-! ## Sums and products -/

theorem add?_eq_none_iff (x y : Decimal) : x.add? y = none ↔ Exceeds (x.value + y.value) := by
  unfold add?
  split
  · next zero => simpa [value_of_isZero zero] using y.not_exceeds_value
  · split
    · next zero => simpa [value_of_isZero zero] using x.not_exceeds_value
    · simp only [fit?_eq_none_iff]
      generalize common : max x.scale y.scale = scale
      have unit : (0 : ℚ) < 10 ^ scale := by positivity
      have raised : ∀ z : Decimal, z.scale ≤ scale →
          (z.coefficient : ℚ) * 10 ^ (scale - z.scale) / 10 ^ scale = z.value := by
        intro z within
        rw [value, div_eq_div_iff unit.ne' (by positivity), mul_assoc, ← pow_add,
          Nat.sub_add_cancel within]
      rw [Exceeds, Exceeds, abs_of_nonneg (by positivity), ← raised x (by omega),
        ← raised y (by omega), ← add_div, abs_div, abs_of_pos unit, Nat.cast_natAbs]
      simp only [Nat.pow_eq]
      push_cast
      rfl

theorem sub?_eq_none_iff (x y : Decimal) : x.sub? y = none ↔ Exceeds (x.value - y.value) := by
  rw [sub?, add?_eq_none_iff, value_neg, ← sub_eq_add_neg]

theorem mul?_eq_none_iff (x y : Decimal) : x.mul? y = none ↔ Exceeds (x.value * y.value) := by
  have product : |x.value * y.value|
      = ((x.magnitude * y.magnitude : Nat) : ℚ) / 10 ^ (x.scale + y.scale) := by
    rw [abs_mul, abs_value, abs_value, div_mul_div_comm, pow_add, Nat.cast_mul]
  have fitted : fit? (x.negative != y.negative) (x.magnitude * y.magnitude) (x.scale + y.scale)
      = none ↔ Exceeds (x.value * y.value) := by
    rw [fit?_eq_none_iff, Exceeds, Exceeds, product, abs_of_nonneg (by positivity)]
  unfold mul?
  simp only
  split
  · next zero =>
    have zero : x.value * y.value = 0 := by
      rcases Bool.or_eq_true_iff.1 zero with zero | zero <;> simp [value_of_isZero zero]
    simpa [zero] using not_exceeds_zero
  · split
    · next short =>
      split
      · -- Digits so far behind the point leave nothing of a product of two words.
        next far =>
        simp only [isShort, Bool.and_eq_true, decide_eq_true_eq] at short
        have small : x.magnitude * y.magnitude + 1 ≤ limit :=
          (Nat.mul_lt_mul'' short.1 short.2).trans (by decide)
        have unit : (1 : ℚ) ≤ 10 ^ (x.scale + y.scale) := one_le_pow₀ (by norm_num)
        have below : ((x.magnitude * y.magnitude : Nat) : ℚ) / 10 ^ (x.scale + y.scale)
            ≤ (x.magnitude * y.magnitude : Nat) := div_le_self (Nat.cast_nonneg _) unit
        have bound : ((x.magnitude * y.magnitude : Nat) : ℚ) + 1 ≤ limit := by
          exact_mod_cast small
        simp only [reduceCtorEq, false_iff, Exceeds, product, not_le]
        linarith
      · rw [Option.map_eq_none_iff, fitted]
    · exact fitted

/-! ## Quotients -/

theorem roomFor_le (quotient bound : Nat) : roomFor quotient bound ≤ bound := by
  induction bound with
  | zero => exact Nat.le_refl 0
  | succ bound ih =>
    rw [roomFor]
    split
    · exact Nat.le_refl _
    · exact Nat.le_succ_of_le ih

/-- A quotient can grow by the room that there is for it, and not by one place more. -/
theorem roomFor_spec {quotient : Nat} (small : quotient < limit) (bound : Nat) :
    quotient * 10 ^ roomFor quotient bound < limit ∧
      (roomFor quotient bound < bound → limit ≤ quotient * 10 ^ (roomFor quotient bound + 1)) := by
  induction bound with
  | zero => simpa [roomFor] using small
  | succ bound ih =>
    rw [roomFor]
    split
    · next fits => exact ⟨fits, fun less => absurd less (Nat.lt_irrefl _)⟩
    · next full =>
      refine ⟨ih.1, fun _ => ?_⟩
      rcases (roomFor_le quotient bound).lt_or_eq with less | equal
      · exact ih.2 less
      · rw [equal]
        exact Nat.le_of_not_lt full

/-- Whether a division has come to a state with a value still to be written out: what has been written,
and the part of a unit that the remainder is. -/
structure Division.Reaches (divisor : Nat) (value : ℚ) (d : Division) : Prop where
  remainder_lt : d.remainder < divisor
  value_eq : value * 10 ^ d.scale = d.quotient + d.remainder / divisor

/-- A division with more digits appended to its quotient. -/
def Division.grown (divisor : Nat) (d : Division) (places : Nat) : Division :=
  ⟨d.quotient * 10 ^ places + d.remainder * 10 ^ places / divisor, d.scale + places,
    d.remainder * 10 ^ places % divisor⟩

/-- Whether a division of a value ends as it should: without a result if the value exceeds what decimals
hold, and with a coefficient and a scale of a decimal if it does not. -/
def EndsRight (value : ℚ) : Option (Nat × Nat × Bool) → Prop
  | none => Exceeds value
  | some (coefficient, scale, _) => ¬ Exceeds value ∧ coefficient < limit ∧ scale ≤ 28

section Division

variable {divisor : Nat} {value : ℚ} {d : Division}

theorem not_exceeds_of_lt (nonneg : 0 ≤ value) (scale : Int) (fraction : 0 ≤ scale)
    (below : value * 10 ^ scale < limit - 1 / 2) : ¬ Exceeds value := by
  have unit : (1 : ℚ) ≤ 10 ^ scale := one_le_zpow₀ (by norm_num) fraction
  have grown : value ≤ value * 10 ^ scale := le_mul_of_one_le_right nonneg unit
  rw [Exceeds, abs_of_nonneg nonneg, not_le]
  linarith

/-- With a digit behind the point, there is room for ten times what fits. -/
theorem not_exceeds_of_lt_ten (nonneg : 0 ≤ value) (scale : Int) (fraction : 1 ≤ scale)
    (below : value * 10 ^ scale < 2 * limit) : ¬ Exceeds value := by
  have room : (1 : ℚ) < limit := by exact_mod_cast one_lt_limit
  refine not_exceeds_of_lt nonneg (scale - 1) (by omega) ?_
  have tenth : value * 10 ^ scale = value * 10 ^ (scale - 1) * 10 := by
    rw [mul_assoc, ← zpow_add_one₀ (by norm_num), sub_add_cancel]
  linarith

theorem shortenQuotient_lt {quotient : Nat} (remainder : Nat) (small : quotient < 2 * limit) :
    shortenQuotient quotient remainder < limit := by
  have room := one_lt_limit
  simp only [shortenQuotient]
  split <;> omega

namespace Division.Reaches

theorem bounds (state : d.Reaches divisor value) :
    (d.quotient : ℚ) ≤ value * 10 ^ d.scale ∧ value * 10 ^ d.scale < d.quotient + 1 := by
  have positive : (0 : ℚ) < divisor := by exact_mod_cast Nat.zero_lt_of_lt state.remainder_lt
  have part : (d.remainder : ℚ) / divisor < 1 := by
    rw [div_lt_one positive]
    exact_mod_cast state.remainder_lt
  rw [state.value_eq]
  exact ⟨le_add_of_nonneg_right (by positivity), by linarith⟩

/-- A quotient that is too great already, with no digit behind the point that could be dropped. -/
theorem exceeds (nonneg : 0 ≤ value) (state : d.Reaches divisor value) (whole : d.scale ≤ 0)
    (full : limit ≤ d.quotient) : Exceeds value := by
  have unit : (10 : ℚ) ^ d.scale ≤ 1 := zpow_le_one_of_nonpos₀ (by norm_num) whole
  have shrunk : value * 10 ^ d.scale ≤ value := mul_le_of_le_one_right nonneg unit
  have written : (limit : ℚ) ≤ d.quotient := by exact_mod_cast full
  have low := state.bounds.1
  rw [Exceeds, abs_of_nonneg nonneg]
  linarith

/-- A quotient that is the whole of the value, with no digit missing in front of the point. -/
theorem not_exceeds_of_exact (nonneg : 0 ≤ value) (state : d.Reaches divisor value)
    (fraction : 0 ≤ d.scale) (small : d.quotient < limit) (isExact : d.remainder = 0) :
    ¬ Exceeds value := by
  refine not_exceeds_of_lt nonneg d.scale fraction ?_
  have written : (d.quotient : ℚ) + 1 ≤ limit := by exact_mod_cast small
  rw [state.value_eq, isExact, Nat.cast_zero, zero_div]
  linarith

/-- Appending digits to the quotient writes out more of the same value. -/
theorem grown (state : d.Reaches divisor value) (places : Nat) :
    (d.grown divisor places).Reaches divisor value where
  remainder_lt := Nat.mod_lt _ (Nat.zero_lt_of_lt state.remainder_lt)
  value_eq := by
    have positive : (0 : ℚ) < divisor := by exact_mod_cast Nat.zero_lt_of_lt state.remainder_lt
    have parts : ((divisor * (d.remainder * 10 ^ places / divisor)
        + d.remainder * 10 ^ places % divisor : Nat) : ℚ) = (d.remainder * 10 ^ places : Nat) := by
      rw [Nat.div_add_mod]
    simp only [Division.grown]
    push_cast at parts ⊢
    rw [zpow_add₀ (by norm_num), ← mul_assoc, state.value_eq, zpow_natCast]
    field_simp
    linarith

/-- A block of digits carries a quotient that had room for them beyond the limit by less than as much
again. -/
theorem quotient_grown_lt (state : d.Reaches divisor value) {places : Nat} (few : places ≤ 9)
    (within : d.quotient * 10 ^ places < limit) :
    (d.grown divisor places).quotient < 2 * limit := by
  have digits : d.remainder * 10 ^ places / divisor < 10 ^ places := by
    rw [Nat.div_lt_iff_lt_mul (Nat.zero_lt_of_lt state.remainder_lt), Nat.mul_comm]
    exact Nat.mul_lt_mul_of_pos_left state.remainder_lt (by positivity)
  have block : 10 ^ places ≤ limit := (Nat.pow_le_pow_right (by decide) few).trans (by decide)
  change d.quotient * 10 ^ places + d.remainder * 10 ^ places / divisor < 2 * limit
  omega

end Division.Reaches

theorem grow_eq (divisor fuel : Nat) (d : Division) (places : Nat) (strip : Bool) :
    divideFrom.grow divisor fuel d places strip =
      if limit ≤ d.quotient * 10 ^ places then none
      else if limit ≤ (d.grown divisor places).quotient then
        if d.scale + places < 1 then none
        else some (shortenQuotient (d.grown divisor places).quotient
          (d.grown divisor places).remainder, (d.scale + places - 1).toNat, strip)
      else divideFrom divisor fuel (d.grown divisor places) strip := by
  rw [divideFrom.grow]
  rfl

/-- A step that appends digits ends right if the loop does from the state that it leads to. -/
theorem grow_ends {fuel places : Nat} {strip : Bool} (nonneg : 0 ≤ value)
    (state : d.Reaches divisor value) (few : places ≤ 9) (room : d.scale + places ≤ 28)
    (full : limit ≤ d.quotient * 10 ^ places → Exceeds value)
    (loop : (d.grown divisor places).quotient < limit →
      EndsRight value (divideFrom divisor fuel (d.grown divisor places) strip)) :
    EndsRight value (divideFrom.grow divisor fuel d places strip) := by
  rw [grow_eq]
  split
  · next beyond => exact full beyond
  next within =>
  have twice := state.quotient_grown_lt few (Nat.lt_of_not_le within)
  split
  · next carried =>
    have twice' : ((d.grown divisor places).quotient : ℚ) + 1 ≤ 2 * limit := by exact_mod_cast twice
    split
    · next whole =>
      exact (state.grown places).exceeds nonneg (show d.scale + places ≤ 0 by omega) carried
    · next fraction =>
      refine ⟨?_, shortenQuotient_lt _ twice, by omega⟩
      exact not_exceeds_of_lt_ten nonneg (d.scale + places) (by omega)
        ((state.grown places).bounds.2.trans_le twice')
  · next fits => exact loop (Nat.lt_of_not_le fits)

/-- Rounding the last digit of a quotient is rounding the value. -/
theorem Division.Reaches.rounded_lt_iff (state : d.Reaches divisor value) :
    (if divisor < 2 * d.remainder ∨ (divisor = 2 * d.remainder ∧ d.quotient % 2 = 1) then
      d.quotient + 1 else d.quotient) < limit ↔ value * 10 ^ d.scale < limit - 1 / 2 := by
  have positive := Nat.zero_lt_of_lt state.remainder_lt
  have unit : (0 : ℚ) < divisor := by exact_mod_cast positive
  have quotient : (divisor * d.quotient + d.remainder) / divisor = d.quotient := by
    rw [Nat.mul_add_div positive, Nat.div_eq_of_lt state.remainder_lt, Nat.add_zero]
  have remainder : (divisor * d.quotient + d.remainder) % divisor = d.remainder := by
    rw [Nat.mul_add_mod, Nat.mod_eq_of_lt state.remainder_lt]
  have rounded := roundHalfEven_lt_iff (n := divisor * d.quotient + d.remainder) positive
  simp only [roundHalfEven, quotient, remainder] at rounded
  rw [rounded, state.value_eq, ← lt_sub_iff_add_lt', div_lt_iff₀ unit, ← Nat.cast_lt (α := ℚ)]
  push_cast
  constructor <;> intro h <;> linarith

/-- A step that rounds the last digit for which there is room ends right. -/
theorem rounded_ends (nonneg : 0 ≤ value) (state : d.Reaches divisor value)
    (small : d.quotient < limit) (scale : d.scale ≤ 28) (fraction : 0 ≤ d.scale) {rounded : Nat}
    (near : rounded ≤ d.quotient + 1)
    (rounding : rounded < limit ↔ value * 10 ^ d.scale < limit - 1 / 2) :
    EndsRight value
      (if rounded < limit then some (rounded, d.scale.toNat, true)
      else if d.scale ≤ 0 then none
      else some (shortenQuotient rounded 0, d.scale.toNat - 1, true)) := by
  have room := one_lt_limit
  split
  · next fits =>
    exact ⟨not_exceeds_of_lt nonneg d.scale fraction (rounding.1 fits), fits, by omega⟩
  · next carried =>
    rw [rounding, not_lt] at carried
    split
    · next whole =>
      have scale : d.scale = 0 := le_antisymm whole fraction
      rw [scale, zpow_zero, mul_one] at carried
      rwa [EndsRight, Exceeds, abs_of_nonneg nonneg]
    · refine ⟨?_, shortenQuotient_lt 0 (by omega), by omega⟩
      have twice : (d.quotient : ℚ) + 1 ≤ 2 * limit := by
        exact_mod_cast (show d.quotient + 1 ≤ 2 * limit by omega)
      exact not_exceeds_of_lt_ten nonneg d.scale (by omega)
        (state.bounds.2.trans_le twice)

/-- How many digits a quotient can grow by in one step: as many as fit, if these are not all that the
scale has left. -/
theorem room_spec (small : d.quotient < limit) {room : Nat}
    (isRoom : (if d.scale = 28 then 0 else roomFor d.quotient (min 9 (28 - d.scale).toNat)) = room) :
    d.quotient * 10 ^ room < limit ∧ room ≤ min 9 (28 - d.scale).toNat ∧
      (d.scale ≠ 28 → room < min 9 (28 - d.scale).toNat →
        limit ≤ d.quotient * 10 ^ (room + 1)) := by
  subst isRoom
  split
  · next last => exact ⟨by simpa using small, Nat.zero_le _, fun other => absurd last other⟩
  · obtain ⟨fits, most⟩ := roomFor_spec small (min 9 (28 - d.scale).toNat)
    exact ⟨fits, roomFor_le _ _, fun _ => most⟩

/-- The loop ends, and ends right, if it has a step left for every digit that may be produced. -/
theorem divideFrom_ends (nonneg : 0 ≤ value) (fuel : Nat) :
    ∀ {d : Division}, d.Reaches divisor value → d.quotient < limit → d.scale ≤ 28 →
      28 < fuel + d.scale → ∀ strip, EndsRight value (divideFrom divisor fuel d strip) := by
  induction fuel with
  | zero =>
    intro d _ _ scale enough
    omega
  | succ fuel ih =>
    intro d state small scale enough strip
    have overflow : ∀ places : Nat, d.scale + places ≤ 0 →
        limit ≤ d.quotient * 10 ^ places → Exceeds value := by
      intro places whole beyond
      exact (state.grown places).exceeds nonneg whole (Nat.le_add_right_of_le beyond)
    rw [divideFrom]
    split
    · next isExact =>
      split
      · next fraction =>
        exact ⟨state.not_exceeds_of_exact nonneg fraction small isExact, small, by omega⟩
      · next whole =>
        generalize digits : min 9 (-d.scale).toNat = places
        refine grow_ends nonneg state (by omega) (by omega) (overflow places (by omega)) ?_
        intro fits
        exact ih (state.grown places) fits (show d.scale + places ≤ 28 by omega)
          (show 28 < fuel + (d.scale + places) by omega) strip
    · simp only
      generalize bound : (if d.scale = 28 then 0
        else roomFor d.quotient (min 9 (28 - d.scale).toNat)) = room
      obtain ⟨fits, most, next⟩ := room_spec small bound
      split
      · next missing =>
        exact overflow (room + 1) (by omega) (next missing.1 (by omega))
      next enoughRoom =>
      split
      · refine rounded_ends nonneg state small scale (by omega) ?_ state.rounded_lt_iff
        split <;> omega
      · refine grow_ends nonneg state (by omega) (by omega)
          (fun beyond => absurd fits (Nat.not_lt.2 beyond)) ?_
        intro fits
        exact ih (state.grown room) fits (show d.scale + room ≤ 28 by omega)
          (show 28 < fuel + (d.scale + room) by omega) true

end Division

theorem stripBlock_le (block : Nat) (c : Nat × Nat) :
    (stripBlock block c).1 ≤ c.1 ∧ (stripBlock block c).2 ≤ c.2 := by
  unfold stripBlock
  split
  · exact ⟨Nat.div_le_self _ _, Nat.sub_le _ _⟩
  · exact ⟨Nat.le_refl _, Nat.le_refl _⟩

theorem stripZeros_le (coefficient scale : Nat) :
    (stripZeros coefficient scale).1 ≤ coefficient ∧ (stripZeros coefficient scale).2 ≤ scale := by
  have eights : ∀ fuel m s, (stripZeros.eights fuel m s).1 ≤ m ∧ (stripZeros.eights fuel m s).2 ≤ s := by
    intro fuel
    induction fuel with
    | zero => exact fun m s => ⟨Nat.le_refl _, Nat.le_refl _⟩
    | succ fuel ih =>
      intro m s
      rw [stripZeros.eights]
      split
      · obtain ⟨smaller, less⟩ := ih (m / Nat.pow 10 8) (s - 8)
        exact ⟨smaller.trans (Nat.div_le_self _ _), less.trans (Nat.sub_le _ _)⟩
      · exact ⟨Nat.le_refl _, Nat.le_refl _⟩
  obtain ⟨first, first'⟩ := eights scale coefficient scale
  obtain ⟨second, second'⟩ := stripBlock_le 4 (stripZeros.eights scale coefficient scale)
  obtain ⟨third, third'⟩ := stripBlock_le 2 (stripBlock 4 (stripZeros.eights scale coefficient scale))
  obtain ⟨last, last'⟩ :=
    stripBlock_le 1 (stripBlock 2 (stripBlock 4 (stripZeros.eights scale coefficient scale)))
  exact ⟨last.trans (third.trans (second.trans first)),
    last'.trans (third'.trans (second'.trans first'))⟩

theorem div?_eq_none_iff (x : Decimal) {y : Decimal} (nonzero : y.isZero = false) :
    x.div? y = none ↔ Exceeds (x.value / y.value) := by
  have positive : 0 < y.magnitude := Nat.pos_of_ne_zero (by simpa [isZero] using nonzero)
  have unit : (0 : ℚ) < y.magnitude := by exact_mod_cast positive
  rw [div?, if_neg (by simp [nonzero])]
  split
  · next zero => simpa [value_of_isZero zero] using not_exceeds_zero
  · have start : Division.Reaches y.magnitude |x.value / y.value|
        ⟨x.magnitude / y.magnitude, x.scale - y.scale, x.magnitude % y.magnitude⟩ := by
      refine ⟨Nat.mod_lt _ positive, ?_⟩
      have parts : ((y.magnitude * (x.magnitude / y.magnitude) + x.magnitude % y.magnitude : Nat) : ℚ)
          = x.magnitude := by rw [Nat.div_add_mod]
      push_cast at parts
      rw [abs_div, abs_value, abs_value, zpow_sub₀ (by norm_num), zpow_natCast, zpow_natCast]
      field_simp
      linarith
    have ends := divideFrom_ends (abs_nonneg _) 60 start
      ((Nat.div_le_self _ _).trans_lt x.magnitude_lt)
      (show (x.scale : Int) - y.scale ≤ 28 by have := x.scale_le; omega)
      (show 28 < ((60 : Nat) : Int) + ((x.scale : Int) - y.scale) by have := y.scale_le; omega) false
    have exceeds : Exceeds |x.value / y.value| ↔ Exceeds (x.value / y.value) := by
      rw [Exceeds, abs_abs, Exceeds]
    simp only
    generalize divideFrom y.magnitude 60 _ false = quotient? at ends ⊢
    cases quotient? with
    | none => simpa using exceeds.1 ends
    | some quotient =>
      obtain ⟨coefficient, scale, strip⟩ := quotient
      obtain ⟨within, small, few⟩ := ends
      rw [exceeds] at within
      simp only [within, iff_false, Option.map_eq_none_iff]
      split
      · obtain ⟨smaller, fewer⟩ := stripZeros_le coefficient scale
        rw [ofSigned?_eq_none_iff (fewer.trans few), Nat.not_le]
        exact smaller.trans_lt small
      · rw [ofSigned?_eq_none_iff few, Nat.not_le]
        exact small

end Decimal

end RecordStore
