import RecordStore.Proofs.RoundTrip.Decimals
import RecordStore.Proofs.RoundTrip.Moments
import RecordStore.Proofs.Typing.Admission

/-! # Values are read back from their JSON

A value is written as JSON and coerced to its kind again.  Integers of 64 bits and decimals travel
as texts, and a text is read without the white space around it, of which written numbers have none.

`coerce_toJson` says that every value comes back as it is, moments in plain years provided, except
that a decimal zero comes back without its sign.
-/

namespace RecordStore

open Timestamp (isBlank_eq_false_of_isDigit)

/-! ## White space -/

theorem trimFront_of_solid {text : List Char} (solid : ∀ c ∈ text, isBlank c = false) :
    trimFront text = text := by
  cases text with
  | nil => rfl
  | cons c rest => exact Timestamp.trimFront_cons (solid c List.mem_cons_self) rest

theorem trimText_of_solid {text : List Char} (solid : ∀ c ∈ text, isBlank c = false) :
    trimText text = text := by
  have reversed : ∀ c ∈ text.reverse, isBlank c = false := by simpa using solid
  rw [trimText, trimFront_of_solid solid, trimFront_of_solid reversed, List.reverse_reverse]

/-! ## Written integers -/

namespace IntegerRange

variable {range : IntegerRange} {digits : List Char}

/-- The integer of a sign and a magnitude. -/
def signed (negative : Bool) (magnitude : Nat) : Int :=
  if negative then -(magnitude : Int) else magnitude

theorem signed_next (negative : Bool) (acc d : Nat) :
    (if negative then 10 * signed negative acc - d else 10 * signed negative acc + d)
      = signed negative (10 * acc + d) := by
  cases negative <;> simp only [signed, if_true, Bool.false_eq_true, if_false] <;> omega

/-- Digits behind the number read so far, if the whole number is in the range. -/
theorem readDigits_eq_ok (areDigits : ∀ c ∈ digits, IsDigit c) (negative : Bool) (acc : Nat)
    (zeroFits : range.low ≤ 0 ∧ 0 ≤ range.high)
    (fits : range.low ≤ signed negative (digitsValue acc digits) ∧
      signed negative (digitsValue acc digits) ≤ range.high) :
    range.readDigits negative (signed negative acc) digits
      = .ok (signed negative (digitsValue acc digits)) := by
  induction digits generalizing acc with
  | nil => rfl
  | cons c rest ih =>
    rw [List.forall_mem_cons] at areDigits
    obtain ⟨d, value⟩ := Option.isSome_iff_exists.1 areDigits.1
    rw [digitsValue_cons, value, Option.getD_some] at fits ⊢
    -- The magnitude grows with every digit: it is in the range here if it is at the end.
    have grows := le_digitsValue (10 * acc + d) rest
    have within : range.low ≤ signed negative (10 * acc + d) ∧
        signed negative (10 * acc + d) ≤ range.high := by
      cases negative <;> simp only [signed, if_true, Bool.false_eq_true, if_false] at fits ⊢ <;>
        omega
    rw [readDigits]
    simp only [value, signed_next, if_neg (not_lt.2 within.1), if_neg (not_lt.2 within.2)]
    exact ih areDigits.2 _ fits

end IntegerRange

theorem toList_toString_int (n : Int) :
    (toString n).toList = (if n < 0 then ['-'] else []) ++ Nat.toDigits 10 n.natAbs := by
  cases n with
  | ofNat m =>
    have positive : ¬ Int.ofNat m < 0 := Int.not_lt.2 (Int.natCast_nonneg m)
    rw [if_neg positive, Int.toString_eq_repr]
    exact Nat.toList_repr
  | negSucc m =>
    rw [if_pos (Int.negSucc_lt_zero m), Int.toString_eq_repr, Int.repr, String.toList_append,
      Nat.toList_repr]
    rfl

theorem solid_toString_int (n : Int) : ∀ c ∈ (toString n).toList, isBlank c = false := by
  intro c member
  rw [toList_toString_int, List.mem_append] at member
  rcases member with sign | digit
  · split at sign
    · rw [List.mem_singleton.1 sign]
      decide
    · contradiction
  · exact isBlank_eq_false_of_isDigit ((toDigits_spec _).2 c digit)

/-- A written integer is read by every range that it is in, if the range has negative numbers. -/
theorem IntegerRange.read_toString {range : IntegerRange} {n : Int}
    (bounds : range.low < 0 ∧ 0 ≤ range.high) (low : range.low ≤ n) (high : n ≤ range.high) :
    range.read (toString n).toList = .ok n := by
  obtain ⟨value, areDigits⟩ := toDigits_spec n.natAbs
  have nonempty : Nat.toDigits 10 n.natAbs ≠ [] := Nat.toDigits_ne_nil
  obtain ⟨first, rest, digits⟩ := List.exists_cons_of_ne_nil nonempty
  have magnitude : signed (decide (n < 0)) n.natAbs = n := by
    by_cases negative : n < 0 <;>
      simp only [signed, negative, decide_true, decide_false, if_true, Bool.false_eq_true,
        if_false] <;>
      omega
  have read : range.readDigits (decide (n < 0)) 0 (first :: rest) = .ok n := by
    have all := readDigits_eq_ok areDigits (decide (n < 0)) 0 ⟨bounds.1.le, bounds.2⟩
      (by rw [value, magnitude]; exact ⟨low, high⟩)
    rw [value, magnitude, digits] at all
    rw [← all]
    simp [signed]
  rw [toList_toString_int, digits]
  by_cases negative : n < 0
  · rw [decide_eq_true negative] at read
    rw [if_pos negative, List.singleton_append, IntegerRange.read, if_pos bounds.1]
    · exact read
    · exact fun none => List.cons_ne_nil _ _ none
  · rw [decide_eq_false negative] at read
    have digit : IsDigit first := areDigits first (digits ▸ List.mem_cons_self)
    have notMinus : first ≠ '-' := digit.ne (by decide)
    have notPlus : first ≠ '+' := digit.ne (by decide)
    rw [if_neg negative, List.nil_append, IntegerRange.read]
    · exact read
    all_goals simp_all

/-! ## Written decimals -/

theorem Decimal.solid_render (x : Decimal) : ∀ c ∈ x.render, isBlank c = false := by
  intro c member
  rw [render_eq, List.mem_append] at member
  rcases member with sign | unsigned
  · split at sign
    · rw [List.mem_singleton.1 sign]
      decide
    · contradiction
  · unfold renderUnsigned at unsigned
    split at unsigned
    · exact isBlank_eq_false_of_isDigit ((toDigits_spec _).2 c unsigned)
    · have padded := Timestamp.isDigit_of_mem_padded (x.scale + 1) x.magnitude
      rcases List.mem_append.1 unsigned with whole | behind
      · exact isBlank_eq_false_of_isDigit (padded c (List.mem_of_mem_take whole))
      · rcases List.mem_cons.1 behind with rfl | fraction
        · decide
        · exact isBlank_eq_false_of_isDigit (padded c (List.mem_of_mem_drop fraction))

/-! ## Coercion -/

namespace Value

/-- The value, without the sign of a zero if it is a decimal. -/
def unsignedZero : Value → Value
  | .decimal x => .decimal x.unsignedZero
  | value => value

theorem readInt64_toString (n : Int64) :
    (IntegerRange.signed64.read (trimText (toString n.toInt).toList)).toOption.bind int64?
      = some n := by
  have high := n.toInt_lt
  have fits : n.toInt ≤ IntegerRange.signed64.high := Int.le_sub_one_of_lt high
  rw [trimText_of_solid (solid_toString_int _),
    IntegerRange.read_toString (by decide) n.le_toInt fits]
  exact int64?_eq_some.2 rfl

/-- What is written for a value is coerced to the value, but for the sign of a decimal zero. -/
theorem coerce_toJson {kind : FieldKind} {value : Value} (admits : kind.Admits value)
    (plain : ∀ t, value = .dateTime t → t.HasPlainYear) :
    coerce kind value.toJson = .ok value.unsignedZero := by
  cases admits with
  | string | boolean => rfl
  | int n =>
    have whole : (Json.int n.toInt).wholeNumber? = some n.toInt64 :=
      int64?_eq_some.2 (Int32.toInt_toInt64 n)
    have word : int32? n.toInt64.toInt = some n := int32?_eq_some.2 (Int32.toInt_toInt64 n).symm
    simp only [toJson, coerce, whole, word, unsignedZero]
  | bigInt n => simp only [toJson, coerce, readInt64_toString, unsignedZero]
  | float finite =>
    rw [toJson, Json.number, if_pos finite]
    rfl
  | decimal x =>
    have read : (Json.str x.text).decimalText?.bind Decimal.read? = some x.unsignedZero := by
      rw [Json.decimalText?, Decimal.text, String.toList_ofList, trimText_of_solid x.solid_render]
      exact x.read?_render
    simp only [toJson, coerce, read, unsignedZero]
  | dateTime t =>
    have read : (Json.str t.text).str?.bind Timestamp.read? = some t := by
      rw [Json.str?, Option.bind_some]
      exact Timestamp.read?_text_eq_some_iff.2 ⟨plain t rfl, rfl⟩
    simp only [toJson, coerce, read, unsignedZero]
  | enumeration declared => simp only [toJson, coerce, if_pos declared, unsignedZero]

end Value

end RecordStore
