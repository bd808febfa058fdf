import RecordStore.Number.DecimalText
import RecordStore.Proofs.RoundTrip.Digits

/-! # Decimals are read back from their texts

The text of a decimal has all the digits of its scale, so that it is read back with the scale and the
magnitude.  The sign is read back unless the number is a zero: `read?_render`.
-/

namespace RecordStore

open Timestamp (padded isDigit_of_mem_padded digitsValue_padded le_length_padded)

namespace Decimal

/-! ## Reading digits -/

/-- Digits for which there is room extend a number, behind the point also its scale. -/
theorem Reading.extend_digits {digits : List Char} (areDigits : ∀ c ∈ digits, IsDigit c)
    (r : Reading) (fits : digitsValue r.coefficient digits < limit)
    (room : r.afterPoint = true → r.scale + digits.length ≤ maxScale) (rest : List Char) :
    r.extend (digits ++ rest) = Reading.extend
      { r with
        coefficient := digitsValue r.coefficient digits
        scale := if r.afterPoint then r.scale + digits.length else r.scale
        hasDigit := r.hasDigit || !digits.isEmpty } rest := by
  induction digits generalizing r with
  | nil => simp
  | cons c digits ih =>
    rw [List.forall_mem_cons] at areDigits
    obtain ⟨d, value⟩ := Option.isSome_iff_exists.1 areDigits.1
    have notPoint : c ≠ '.' := IsDigit.ne areDigits.1 (by decide)
    have notUnderscore : c ≠ '_' := IsDigit.ne areDigits.1 (by decide)
    have notFull : r.isFull = false := by
      cases behind : r.afterPoint with
      | false => simp [isFull, behind]
      | true =>
        have more := room behind
        rw [List.length_cons] at more
        simp only [isFull, behind, Bool.true_and, decide_eq_false_iff_not]
        omega
    rw [digitsValue_cons, value, Option.getD_some] at fits
    have next : 10 * r.coefficient + d < limit := (le_digitsValue _ _).trans_lt fits
    rw [List.cons_append, Reading.extend]
    simp only [isRoundedBy, notFull, Bool.false_and, Bool.false_eq_true, if_false, notPoint,
      notUnderscore, value, next, if_true]
    rw [ih areDigits.2 _ fits]
    · congr 1
      rw [mk.injEq]
      refine ⟨?_, ?_, rfl, ?_⟩
      · rw [digitsValue_cons, value, Option.getD_some]
      · cases r.afterPoint <;> simp [Nat.add_comm, Nat.add_left_comm]
      · simp
    · intro behind
      have more := room behind
      rw [List.length_cons] at more
      simp only at behind
      simp only [behind, if_true]
      omega

/-- A number written without a point. -/
theorem extend_whole {digits : List Char} (areDigits : ∀ c ∈ digits, IsDigit c)
    (nonempty : digits ≠ []) (fits : digitsValue 0 digits < limit) :
    Reading.extend ⟨0, 0, false, false⟩ digits
      = some ⟨digitsValue 0 digits, 0, false, true⟩ := by
  have read := Reading.extend_digits areDigits ⟨0, 0, false, false⟩ fits (by simp) []
  rw [List.append_nil] at read
  rw [read, Reading.extend]
  simp [nonempty]

/-- A number written with a point. -/
theorem extend_point {whole fraction : List Char} (wholeDigits : ∀ c ∈ whole, IsDigit c)
    (fractionDigits : ∀ c ∈ fraction, IsDigit c) (nonempty : whole ≠ [])
    (fits : digitsValue 0 (whole ++ fraction) < limit) (room : fraction.length ≤ maxScale) :
    Reading.extend ⟨0, 0, false, false⟩ (whole ++ '.' :: fraction)
      = some ⟨digitsValue 0 (whole ++ fraction), fraction.length, true, true⟩ := by
  rw [digitsValue_append] at fits ⊢
  have front := Reading.extend_digits wholeDigits ⟨0, 0, false, false⟩
    ((le_digitsValue _ _).trans_lt fits) (by simp) ('.' :: fraction)
  have back := Reading.extend_digits fractionDigits
    ⟨digitsValue 0 whole, 0, true, true⟩ fits (by simpa using room) []
  rw [List.append_nil] at back
  have hasDigit : whole.isEmpty = false := List.isEmpty_eq_false_iff.2 nonempty
  rw [front, Reading.extend]
  simp only [Reading.isRoundedBy, Reading.isFull, Bool.false_and, Bool.false_eq_true, if_false,
    if_true, hasDigit, Bool.not_false, Bool.or_true]
  rw [back, Reading.extend]
  simp

/-! ## Written decimals -/

/-- The text of a decimal behind its sign. -/
def renderUnsigned (x : Decimal) : List Char :=
  let digits := padded (x.scale + 1) x.magnitude
  if x.scale = 0 then Nat.toDigits 10 x.magnitude
  else digits.take (digits.length - x.scale) ++ '.' :: digits.drop (digits.length - x.scale)

theorem render_eq (x : Decimal) :
    x.render = (if x.negative then ['-'] else []) ++ x.renderUnsigned := by
  unfold render renderUnsigned
  by_cases whole : x.scale = 0
  · simp only [whole, if_true]
    rfl
  · simp only [whole, if_false, List.append_assoc]
    rfl

/-- There is a zero in front of the point if nothing else is. -/
theorem whole_ne_nil (x : Decimal) :
    (padded (x.scale + 1) x.magnitude).take
      ((padded (x.scale + 1) x.magnitude).length - x.scale) ≠ [] := by
  have long := le_length_padded (x.scale + 1) x.magnitude
  rw [← List.length_pos_iff, List.length_take]
  omega

theorem exists_renderUnsigned (x : Decimal) :
    ∃ c rest, x.renderUnsigned = c :: rest ∧ IsDigit c := by
  unfold renderUnsigned
  split
  · have areDigits := (toDigits_spec x.magnitude).2
    obtain ⟨c, rest, equal⟩ := List.exists_cons_of_ne_nil (Nat.toDigits_ne_nil (n := x.magnitude))
    exact ⟨c, rest, equal, areDigits c (equal ▸ List.mem_cons_self)⟩
  · obtain ⟨c, rest, equal⟩ := List.exists_cons_of_ne_nil x.whole_ne_nil
    refine ⟨c, rest ++ _, congrArg (· ++ _) equal, ?_⟩
    have member := List.mem_of_mem_take (equal ▸ List.mem_cons_self)
    exact isDigit_of_mem_padded _ _ c member

theorem extend_renderUnsigned (x : Decimal) :
    Reading.extend ⟨0, 0, false, false⟩ x.renderUnsigned
      = some ⟨x.magnitude, x.scale, decide (x.scale ≠ 0), true⟩ := by
  have magnitude : x.magnitude < limit := x.magnitude_lt
  have scale : x.scale ≤ maxScale := x.scale_le
  unfold renderUnsigned
  split
  · next whole =>
    obtain ⟨value, areDigits⟩ := toDigits_spec x.magnitude
    rw [extend_whole areDigits Nat.toDigits_ne_nil (by rwa [value]), value, whole]
    rfl
  · next pointed =>
    have areDigits := isDigit_of_mem_padded (x.scale + 1) x.magnitude
    have value := digitsValue_padded (x.scale + 1) x.magnitude
    have long := le_length_padded (x.scale + 1) x.magnitude
    have length : ((padded (x.scale + 1) x.magnitude).drop
        ((padded (x.scale + 1) x.magnitude).length - x.scale)).length = x.scale := by
      rw [List.length_drop]
      omega
    rw [extend_point (fun c member => areDigits c (List.mem_of_mem_take member))
      (fun c member => areDigits c (List.mem_of_mem_drop member)) x.whole_ne_nil
      (by rwa [List.take_append_drop, value]) (by rwa [length]), List.take_append_drop, value,
      length]
    simp [pointed]

/-! ## Reading back -/

theorem ofParts?_coefficient (x : Decimal) :
    ofParts? x.coefficient x.scale = some x.unsignedZero := by
  rw [ofParts?, natAbs_coefficient, ofSigned?, dif_pos ⟨x.magnitude_lt, x.scale_le⟩]
  have sign : decide (x.coefficient < 0) = (x.negative && decide (x.magnitude ≠ 0)) := by
    cases negative : x.negative <;> simp [coefficient, negative, Nat.pos_iff_ne_zero]
  unfold unsignedZero isZero
  by_cases zero : x.magnitude = 0 <;> simp [sign, zero]

theorem readUnsigned?_renderUnsigned (x : Decimal) :
    readUnsigned? x.negative x.renderUnsigned = some x.unsignedZero := by
  rw [readUnsigned?, extend_renderUnsigned]
  exact x.ofParts?_coefficient

/-- The text of a decimal is read as that decimal, but for the sign of a zero. -/
theorem read?_render (x : Decimal) : read? x.render = some x.unsignedZero := by
  have unsigned := x.readUnsigned?_renderUnsigned
  have positional : readPositional? x.render = some x.unsignedZero := by
    rw [render_eq]
    cases negative : x.negative with
    | true => rwa [negative] at unsigned
    | false =>
      rw [negative] at unsigned
      obtain ⟨c, rest, equal, digit⟩ := x.exists_renderUnsigned
      -- The first digit is taken for neither sign.
      have notMinus : c ≠ '-' := digit.ne (by decide)
      have notPlus : c ≠ '+' := digit.ne (by decide)
      rw [equal] at unsigned
      simp only [Bool.false_eq_true, if_false, List.nil_append, equal]
      rw [readPositional?]
      · exact unsigned
      · exact fun _ same => notMinus (List.cons.inj same).1
      · exact fun _ same => notPlus (List.cons.inj same).1
  rw [read?, positional]

end Decimal

end RecordStore
