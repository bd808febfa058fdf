import RecordStore.Proofs.RoundTrip.Digits
import RecordStore.Proofs.RoundTrip.Rounding
import RecordStore.Proofs.Typing.Admission

/-! # The shortest text of a double names it

Seventeen digits are enough: on a grid of that many the spacing is less than the distance of the
midpoints around a double, so that a neighbour of the double rounds to it.  The digits that are chosen
therefore round to the double, and to no other: `rounds_shortest`.

A text stands for the number of its digits, whichever form it has.  Two doubles with one text are thus
one double, the sign of a zero included: `text_json_injective`.
-/

namespace RecordStore

/-- The number that digits and their place stand for. -/
def Digits.value (d : Digits) : ℚ := d.coefficient * 10 ^ d.exponent

theorem Digits.value_trim (coefficient : Nat) (exponent : Int) (fuel : Nat) :
    (trim coefficient exponent fuel).value = coefficient * 10 ^ exponent := by
  induction fuel generalizing coefficient exponent with
  | zero => rfl
  | succ fuel ih =>
    rw [trim]
    split
    · next zero =>
      have tenth : (coefficient : ℚ) = (coefficient / 10 : Nat) * 10 := by
        exact_mod_cast (Nat.div_mul_cancel (Nat.dvd_of_mod_eq_zero zero)).symm
      rw [ih, zpow_add_one₀ (by norm_num), tenth]
      ring
    · rfl

namespace Double

/-! ## Fine grids -/

theorem significandOf_lt (n : Nat) : significandOf n < 2 * Nat.pow 2 52 := by
  simp only [significandOf, two_pow_52]
  split_ifs <;> omega

/-- The midpoints around a double are far apart, compared with the double. -/
theorem numberOf_lt_spacing (n : Nat) :
    numberOf (n + 1) < 10 ^ 16 * (halfway (n + 1) - halfway n) := by
  have positive := unitOf_pos n
  have apart : halfway (n + 1) - halfway n = unitOf n / 2 + unitOf (n + 1) / 2 := by
    rw [halfway, halfway, numberOf_succ]
    ring
  have number : numberOf (n + 1) = significandOf (n + 1) * unitOf (n + 1) := rfl
  rw [apart, number]
  rcases step_cases n with ⟨-, same⟩ | ⟨first, -, grown, -⟩
  · have units : unitOf (n + 1) = unitOf n := by rw [unitOf, same, unitOf]
    have bound : (significandOf (n + 1) : ℚ) < 10 ^ 16 := by
      exact_mod_cast (significandOf_lt (n + 1)).trans (by decide)
    rw [units]
    nlinarith
  · have units : unitOf (n + 1) = 2 * unitOf n := by
      rw [unitOf, grown, zpow_add_one₀ two_ne_zero, unitOf, mul_comm]
    rw [units, first, two_pow_52]
    push_cast
    linarith

theorem le_halfway_of_not_rounds {n : Nat} {q : ℚ} (other : ¬ Rounds n q)
    (below : q < halfway (n + 1)) : q ≤ halfway n := by
  by_contra above
  rw [not_le] at above
  refine other ?_
  unfold Rounds
  split
  · exact ⟨above.le, below.le⟩
  · exact ⟨above, below⟩

theorem halfway_le_of_not_rounds {n : Nat} {q : ℚ} (other : ¬ Rounds n q)
    (above : halfway n < q) : halfway (n + 1) ≤ q := by
  by_contra below
  rw [not_le] at below
  exact absurd above (not_lt.2 (le_halfway_of_not_rounds other below))

end Double

namespace RoundingInterval

open Double

variable {x : Double} {n : Nat}

theorem covers_of_nearestWhole? {i : RoundingInterval} {k : Nat}
    (nearest : i.nearestWhole? = some k) : i.covers k = true := by
  unfold nearestWhole? at nearest
  simp only at nearest
  split at nearest
  · contradiction
  · next here _ => cases nearest; exact here
  · next there => cases nearest; exact there
  · next here there =>
    split at nearest <;> cases nearest
    · exact here
    · exact there

theorem not_covers_of_nearestWhole?_eq_none {i : RoundingInterval} (none : i.nearestWhole? = none) :
    i.covers (i.value / i.denominator) = false ∧
      i.covers (i.value / i.denominator + 1) = false := by
  unfold nearestWhole? at none
  simp only at none
  split at none
  · next here there => exact ⟨here, there⟩
  · contradiction
  · contradiction
  · split at none <;> contradiction

/-- A grid that divides a double into enough parts has a point that rounds to it. -/
theorem nearestWhole?_ne_none (named : x.magnitude = n + 1) {place : Int}
    (fine : (10 : ℚ) ^ (place + 16) ≤ numberOf (n + 1)) :
    ((ofDouble x).onGrid place).nearestWhole? ≠ none := by
  intro none
  obtain ⟨notHere, notThere⟩ := not_covers_of_nearestWhole?_eq_none none
  obtain ⟨floor, isFloor, below, above⟩ := floor_onGrid named place
  rw [isFloor, Bool.eq_false_iff, Ne, covers_onGrid_iff named] at notHere notThere
  have here := le_halfway_of_not_rounds notHere (below.trans_lt (numberOf_lt_halfway (n + 1)))
  have there := halfway_le_of_not_rounds notThere ((halfway_lt_numberOf n).trans above)
  have spacing := numberOf_lt_spacing n
  rw [zpow_add₀ (by norm_num)] at fine
  push_cast at there
  linarith

end RoundingInterval

namespace Double

variable {x : Double} {n : Nat}

/-! ## The leading place -/

theorem ten_zpow_le_of_scaled {a b : Nat} {p k : Int} (positive : b ≠ 0) (scaled : p * b ≤ a * k)
    (powers : ((10 : ℚ) ^ a) ^ k ≤ ((2 : ℚ) ^ b) ^ k) : (10 : ℚ) ^ p ≤ 2 ^ k := by
  rw [← pow_le_pow_iff_left₀ (by positivity) (by positivity) positive]
  calc ((10 : ℚ) ^ p) ^ b = 10 ^ (p * b) := by rw [← zpow_natCast, ← zpow_mul]
    _ ≤ 10 ^ (a * k) := zpow_le_zpow_right₀ (by norm_num) scaled
    _ = (10 ^ a) ^ k := by rw [zpow_mul, zpow_natCast]
    _ ≤ (2 ^ b) ^ k := powers
    _ = (2 ^ k) ^ b := by
      rw [← zpow_natCast, ← zpow_natCast, ← zpow_mul, ← zpow_mul, mul_comm]

/-- The guess of the leading place is too great by one at most. -/
theorem ten_zpow_guess_le {k : Int} (bounded : -1100 ≤ k ∧ k ≤ 1100) :
    (10 : ℚ) ^ (k * 30103 / 100000 - 1) ≤ 2 ^ k := by
  -- Two powers near to each other on either side of one: 10^59 < 2^196 and 2^93 < 10^28.
  rcases le_total 0 k with positive | negative
  · refine @ten_zpow_le_of_scaled 59 196 _ _ (by decide) (by omega) ?_
    exact zpow_le_zpow_left₀ positive (by positivity) (by norm_num)
  · refine @ten_zpow_le_of_scaled 28 93 _ _ (by decide) (by omega) ?_
    obtain ⟨m, rfl⟩ : ∃ m : Nat, k = -m := ⟨k.natAbs, by omega⟩
    rw [zpow_neg, zpow_neg, zpow_natCast, zpow_natCast]
    exact inv_anti₀ (by positivity) (pow_le_pow_left₀ (by positivity) (by norm_num) m)

theorem ten_zpow_leadingPlace_le (finite : x.isFinite = true) (named : x.magnitude = n + 1) :
    (10 : ℚ) ^ x.leadingPlace ≤ numberOf (n + 1) := by
  have reaches := RoundingInterval.reaches_iff named
  unfold leadingPlace
  simp only
  split
  · have nonzero : x.significand ≠ 0 := by
      simp only [significand, two_pow_52]
      split_ifs <;> omega
    have small : x.significand.log2 < 53 := by
      rw [Nat.log2_lt nonzero]
      simp only [significand, two_pow_52]
      split_ifs <;> omega
    have exponent : -1074 ≤ x.exponent ∧ x.exponent ≤ 971 := by
      have below : x.magnitude < infiniteMagnitude := of_decide_eq_true finite
      rw [infiniteMagnitude, two_pow_52] at below
      simp only [Double.exponent, two_pow_52]
      split_ifs <;> omega
    have binary : (2 : ℚ) ^ ((x.significand.log2 : Int) + x.exponent) ≤ numberOf (n + 1) := by
      have log : ((2 : ℚ) ^ x.significand.log2) ≤ x.significand := by
        exact_mod_cast Nat.log2_self_le nonzero
      rw [zpow_add₀ two_ne_zero, zpow_natCast, ← named]
      exact mul_le_mul_of_nonneg_right log (by positivity)
    exact (ten_zpow_guess_le (by omega)).trans binary
  · next reached =>
    split
    · next more => exact (reaches _).1 more
    · exact (reaches _).1 (by simpa using reached)

/-! ## Shortest digits -/

/-- The digits that are chosen for a double round to it. -/
theorem rounds_shortest (finite : x.isFinite = true) (named : x.magnitude = n + 1) :
    Rounds n x.shortest.value := by
  have leading := ten_zpow_leadingPlace_le finite named
  unfold shortest
  simp only
  cases found : (List.range 17).findSome? fun (k : Nat) =>
      (((RoundingInterval.ofDouble x).onGrid (x.leadingPlace - k)).nearestWhole?).map fun n =>
        Digits.trim n (x.leadingPlace - k) 20 with
  | none =>
    have last := List.findSome?_eq_none_iff.1 found 16 (by decide)
    rw [Option.map_eq_none_iff] at last
    exact absurd last (RoundingInterval.nearestWhole?_ne_none named (by simpa using leading))
  | some d =>
    obtain ⟨k, -, chosen⟩ := List.exists_of_findSome?_eq_some found
    obtain ⟨m, nearest, rfl⟩ := Option.map_eq_some_iff.1 chosen
    rw [Option.getD_some, Digits.value_trim, ← RoundingInterval.covers_onGrid_iff named]
    exact RoundingInterval.covers_of_nearestWhole? nearest

end Double

/-! ## Numerals -/

/-- The exponent at the end of a numeral, behind a letter and a sign. -/
def exponentValue : List Char → Int
  | _ :: sign :: digits =>
    if sign = '-' then -(digitsValue 0 digits : Nat) else digitsValue 0 digits
  | _ => 0

/-- The number that a numeral without a sign stands for. -/
def numeralValue (text : List Char) : ℚ :=
  let mantissa := text.takeWhile (· ≠ 'e')
  let fraction := (mantissa.dropWhile (· ≠ '.')).tail
  digitsValue 0 (mantissa.takeWhile (· ≠ '.') ++ fraction)
    * 10 ^ (exponentValue (text.dropWhile (· ≠ 'e')) - fraction.length)

/-- A text is cut where a mark stands for the first time, or at its end. -/
theorem cut_at_mark {mark : Char} {front ending : List Char} (free : ∀ c ∈ front, c ≠ mark)
    (begins : ∀ c ∈ ending.head?, c = mark) :
    (front ++ ending).takeWhile (· ≠ mark) = front ∧
      (front ++ ending).dropWhile (· ≠ mark) = ending := by
  have passed : ∀ c ∈ front, decide (c ≠ mark) = true := by simpa using free
  rw [List.takeWhile_append_of_pos passed, List.dropWhile_append_of_pos passed]
  cases ending with
  | nil => simp
  | cons c rest =>
    obtain rfl := begins c rfl
    simp

theorem numeralValue_whole {whole ending : List Char} (areDigits : ∀ c ∈ whole, IsDigit c)
    (begins : ∀ c ∈ ending.head?, c = 'e') :
    numeralValue (whole ++ ending) = digitsValue 0 whole * 10 ^ exponentValue ending := by
  obtain ⟨mantissa, exponent⟩ :=
    cut_at_mark (fun c member => (areDigits c member).ne (by decide)) begins
  obtain ⟨front, behind⟩ := @cut_at_mark '.' whole []
    (fun c member => (areDigits c member).ne (by decide)) (by simp)
  rw [List.append_nil] at front behind
  simp only [numeralValue, mantissa, exponent, front, behind]
  simp

theorem numeralValue_point {whole fraction ending : List Char}
    (areDigits : ∀ c ∈ whole ++ fraction, IsDigit c) (begins : ∀ c ∈ ending.head?, c = 'e') :
    numeralValue (whole ++ '.' :: fraction ++ ending)
      = digitsValue 0 (whole ++ fraction) * 10 ^ (exponentValue ending - fraction.length) := by
  obtain ⟨wholeDigits, fractionDigits⟩ := List.forall_mem_append.1 areDigits
  have free : ∀ c ∈ whole ++ '.' :: fraction, c ≠ 'e' := by
    intro c member
    rcases List.mem_append.1 member with inWhole | behind
    · exact (wholeDigits c inWhole).ne (by decide)
    · rcases List.mem_cons.1 behind with rfl | inFraction
      · decide
      · exact (fractionDigits c inFraction).ne (by decide)
  obtain ⟨mantissa, exponent⟩ := cut_at_mark free begins
  obtain ⟨front, behind⟩ := @cut_at_mark '.' whole ('.' :: fraction)
    (fun c member => (wholeDigits c member).ne (by decide)) (by simp)
  simp only [numeralValue, mantissa, exponent, front, behind, List.tail_cons]

theorem digitsValue_zeros (acc count : Nat) :
    digitsValue acc (List.replicate count '0') = acc * 10 ^ count := by
  induction count generalizing acc with
  | zero => simp
  | succ count ih =>
    have zero : (digitValue? '0').getD 0 = 0 := by decide
    rw [List.replicate_succ, digitsValue_cons, zero, ih, pow_succ]
    ring

namespace Digits

variable (d : Digits)

theorem positionalText_whole (whole : 0 ≤ d.exponent) (wholeSuffix : String) :
    (d.positionalText wholeSuffix).toList = Nat.toDigits 10 d.coefficient ++
      List.replicate d.exponent.toNat '0' ++ wholeSuffix.toList := by
  unfold positionalText
  simp only
  rw [if_pos whole, String.toList_append, String.toList_ofList]
  rfl

/-- The digits of a fraction, with zeros in front so that one is left before the point. -/
theorem exists_positionalText_fraction (fractional : ¬ 0 ≤ d.exponent) (wholeSuffix : String) :
    ∃ whole fraction, (d.positionalText wholeSuffix).toList = whole ++ '.' :: fraction ∧
      (∀ c ∈ whole ++ fraction, IsDigit c) ∧ whole ≠ [] ∧
      digitsValue 0 (whole ++ fraction) = d.coefficient ∧ (fraction.length : Int) = -d.exponent := by
  have value := Timestamp.digitsValue_padded ((-d.exponent).toNat + 1) d.coefficient
  have areDigits := Timestamp.isDigit_of_mem_padded ((-d.exponent).toNat + 1) d.coefficient
  have long := Timestamp.le_length_padded ((-d.exponent).toNat + 1) d.coefficient
  have text : (d.positionalText wholeSuffix).toList =
      let padded := Timestamp.padded ((-d.exponent).toNat + 1) d.coefficient
      padded.take (padded.length - (-d.exponent).toNat)
        ++ '.' :: padded.drop (padded.length - (-d.exponent).toNat) := by
    unfold positionalText
    simp only
    rw [if_neg fractional, String.toList_ofList]
    rfl
  generalize Timestamp.padded ((-d.exponent).toNat + 1) d.coefficient = padded
    at value areDigits long text
  refine ⟨_, _, text, ?_, ?_, ?_, ?_⟩
  · rwa [List.take_append_drop]
  · rw [← List.length_pos_iff, List.length_take]
    omega
  · rwa [List.take_append_drop]
  · rw [List.length_drop]
    omega

theorem numeralValue_positionalText : numeralValue (d.positionalText ".0").toList = d.value := by
  by_cases whole : 0 ≤ d.exponent
  · obtain ⟨value, areDigits⟩ := toDigits_spec d.coefficient
    obtain ⟨n, place⟩ : ∃ n : Nat, d.exponent = n := ⟨d.exponent.toNat, by omega⟩
    have suffix : ".0".toList = '.' :: ['0'] ++ [] := rfl
    have allDigits : ∀ c ∈ Nat.toDigits 10 d.coefficient ++ List.replicate n '0' ++ ['0'],
        IsDigit c := by
      simp only [List.forall_mem_append]
      refine ⟨⟨areDigits, fun c member => ?_⟩, by simpa using isDigit_zero⟩
      rw [List.eq_of_mem_replicate member]
      exact isDigit_zero
    have zero : digitsValue (d.coefficient * 10 ^ n) ['0'] = d.coefficient * 10 ^ n * 10 :=
      digitsValue_zeros _ 1
    rw [d.positionalText_whole whole, place, Int.toNat_natCast, suffix, ← List.append_assoc,
      numeralValue_point allDigits (by simp), digitsValue_append, digitsValue_append, value,
      digitsValue_zeros, zero, Digits.value, place]
    push_cast
    simp [exponentValue]
  · obtain ⟨front, fraction, text, areDigits, -, value, length⟩ :=
      d.exists_positionalText_fraction whole ".0"
    rw [text, ← List.append_nil (_ ++ _), numeralValue_point areDigits (by simp), value, length,
      Digits.value]
    simp [exponentValue]

theorem exponentValue_sign (place : Int) :
    exponentValue ('e' :: (if place < 0 then '-' else '+') :: Nat.toDigits 10 place.natAbs)
      = place := by
  rw [exponentValue, (toDigits_spec place.natAbs).1]
  by_cases negative : place < 0
  · rw [if_pos negative, if_pos rfl]
    omega
  · rw [if_neg negative, if_neg (by decide)]
    omega

theorem numeralValue_exponentText : numeralValue d.exponentText.toList = d.value := by
  obtain ⟨value, areDigits⟩ := toDigits_spec d.coefficient
  obtain ⟨first, rest, digits⟩ :=
    List.exists_cons_of_ne_nil (Nat.toDigits_ne_nil (n := d.coefficient))
  rw [digits] at value areDigits
  have exponent := exponentValue_sign (d.exponent + rest.length)
  unfold exponentText
  simp only [decimalDigits, digits]
  rw [String.toList_ofList, List.length_cons, Nat.add_sub_cancel]
  cases rest with
  | nil =>
    have text : [first].take 1 ++
        (if ([] : List Char).length + 1 = 1 then [] else '.' :: [first].drop 1) = [first] := rfl
    rw [text, numeralValue_whole areDigits (by simp), exponent, value, Digits.value]
    simp
  | cons second rest =>
    have text : (first :: second :: rest).take 1 ++
        (if (second :: rest).length + 1 = 1 then [] else '.' :: (first :: second :: rest).drop 1)
        = [first] ++ '.' :: second :: rest := by simp
    rw [text, numeralValue_point areDigits (by simp), exponent, List.singleton_append, value,
      Digits.value]
    congr 2
    omega

/-! ## Texts -/

/-- The text of digits in the form of JSON. -/
def jsonText (d : Digits) : String :=
  if DoubleFormat.json.positional (d.exponent + ((decimalDigits d.coefficient).length - 1 : Nat))
  then d.positionalText ".0"
  else d.exponentText

theorem numeralValue_jsonText : numeralValue d.jsonText.toList = d.value := by
  unfold jsonText
  split
  · exact d.numeralValue_positionalText
  · exact d.numeralValue_exponentText

theorem beginsWithDigit_positionalText (wholeSuffix : String) :
    BeginsWithDigit (d.positionalText wholeSuffix).toList := by
  by_cases whole : 0 ≤ d.exponent
  · rw [d.positionalText_whole whole, List.append_assoc]
    exact beginsWithDigit_append (toDigits_spec d.coefficient).2 Nat.toDigits_ne_nil _
  · obtain ⟨front, fraction, text, areDigits, nonempty, -, -⟩ :=
      d.exists_positionalText_fraction whole wholeSuffix
    rw [text]
    exact beginsWithDigit_append (List.forall_mem_append.1 areDigits).1 nonempty _

theorem beginsWithDigit_exponentText : BeginsWithDigit d.exponentText.toList := by
  have areDigits := (toDigits_spec d.coefficient).2
  unfold exponentText
  simp only [decimalDigits]
  rw [String.toList_ofList, List.append_assoc]
  refine beginsWithDigit_append (fun c member => areDigits c (List.mem_of_mem_take member)) ?_ _
  simp [Nat.toDigits_ne_nil]

theorem beginsWithDigit_jsonText : BeginsWithDigit d.jsonText.toList := by
  unfold jsonText
  split
  · exact d.beginsWithDigit_positionalText ".0"
  · exact d.beginsWithDigit_exponentText

end Digits

namespace Double

variable {x y : Double}

/-- The text behind the sign. -/
def unsignedText (x : Double) : String := if x.isZero then "0.0" else x.shortest.jsonText

theorem toList_text_json (finite : x.isFinite = true) :
    (x.text .json).toList = (if x.negative then ['-'] else []) ++ x.unsignedText.toList := by
  have sign : (if x.negative then ['-'] else []) = (if x.negative then "-" else "").toList := by
    split <;> rfl
  rw [sign, ← String.toList_append, String.toList_inj]
  rw [text, isNaN_of_isFinite finite]
  simp only [Bool.false_eq_true, if_false, finite, Bool.not_true]
  unfold unsignedText Digits.jsonText
  split
  · rw [String.append_assoc]
    rfl
  · split <;> rfl

theorem numeralValue_unsignedText :
    numeralValue x.unsignedText.toList = if x.isZero then 0 else x.shortest.value := by
  unfold unsignedText
  split
  · decide +kernel
  · exact x.shortest.numeralValue_jsonText

theorem beginsWithDigit_unsignedText (x : Double) : BeginsWithDigit x.unsignedText.toList := by
  unfold unsignedText
  split
  · exact ⟨'0', rfl, isDigit_zero⟩
  · exact x.shortest.beginsWithDigit_jsonText

/-- A double is its sign and its magnitude. -/
theorem ext_parts (sign : x.negative = y.negative) (magnitude : x.magnitude = y.magnitude) :
    x = y := by
  have boundX := x.bits.toNat_lt
  have boundY := y.bits.toNat_lt
  have bits : x.bits.toNat = y.bits.toNat := by
    have high : Nat.pow 2 63 = 9223372036854775808 := rfl
    simp only [negative, Double.magnitude, high, decide_eq_decide] at sign magnitude
    omega
  cases x
  cases y
  exact congrArg Double.mk (UInt64.toNat_inj.1 bits)

theorem magnitude_eq_of_numeralValue (finiteX : x.isFinite = true) (finiteY : y.isFinite = true)
    (equal : numeralValue x.unsignedText.toList = numeralValue y.unsignedText.toList) :
    x.magnitude = y.magnitude := by
  have rounds : ∀ z : Double, z.isFinite = true → ∀ n, z.magnitude = n + 1 →
      Rounds n (numeralValue z.unsignedText.toList) := by
    intro z finite n named
    have nonzero : z.isZero = false := decide_eq_false (by omega)
    rw [numeralValue_unsignedText, nonzero]
    exact rounds_shortest finite named
  have zero : ∀ z : Double, z.magnitude = 0 → numeralValue z.unsignedText.toList = 0 := by
    intro z named
    rw [numeralValue_unsignedText, isZero, decide_eq_true named]
    rfl
  rcases namedX : x.magnitude with _ | m <;> rcases namedY : y.magnitude with _ | n
  · rfl
  · have positive := (rounds y finiteY n namedY).pos
    rw [← equal, zero x namedX] at positive
    exact absurd positive (lt_irrefl 0)
  · have positive := (rounds x finiteX m namedX).pos
    rw [equal, zero y namedY] at positive
    exact absurd positive (lt_irrefl 0)
  · have first := rounds x finiteX m namedX
    rw [equal] at first
    rw [first.unique (rounds y finiteY n namedY)]

/-- Finite doubles with the same text are the same, the sign of a zero included. -/
theorem text_json_injective (finiteX : x.isFinite = true) (finiteY : y.isFinite = true)
    (same : x.text .json = y.text .json) : x = y := by
  have texts := congrArg String.toList same
  rw [toList_text_json finiteX, toList_text_json finiteY] at texts
  obtain ⟨sign, unsigned⟩ :=
    minus_append_inj x.beginsWithDigit_unsignedText y.beginsWithDigit_unsignedText texts
  exact ext_parts sign (magnitude_eq_of_numeralValue finiteX finiteY (congrArg numeralValue unsigned))

end Double

end RecordStore
