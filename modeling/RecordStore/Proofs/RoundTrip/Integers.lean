import Mathlib.Data.List.TakeWhile
import RecordStore.Proofs.RoundTrip.Rounding
import RecordStore.Proofs.RoundTrip.Values

/-! # Integers are read as what they are

A JSON value is taken for an integer in three forms: an integer literal, a double that is whole and
small enough to be exact, and, for 64 bits, a text of digits.  Each form is described without its
reader: `Double.value` is the number that a double denotes, `SignedDigits` and `WritesInteger` say
which texts write an integer, and which one.

The readers are proved exact for these descriptions, one by one, from the digits
(`IntegerRange.read_eq_ok_iff`) and the bits (`Double.integer?_eq_some_iff`) up to
`Value.coerce_integers`: what is coerced to an integer denotes that integer, and everything else is a
mismatch.
-/

namespace RecordStore

open Timestamp (isBlank_eq_false_of_isDigit trimFront_cons)

/-! ## Doubles -/

namespace Double

variable {x : Double}

/-- The number that a double denotes. -/
def value (x : Double) : ℚ :=
  if x.negative then -numberOf x.magnitude else numberOf x.magnitude

theorem wholeMagnitude?_eq_some_iff {n : Nat} :
    x.wholeMagnitude? = some n ↔ numberOf x.magnitude = n := by
  have number : numberOf x.magnitude = x.significand * 2 ^ x.exponent := rfl
  rw [number, wholeMagnitude?]
  rcases x.exponent with e | e
  · rw [Int.ofNat_eq_natCast, zpow_natCast, Option.some.injEq, Nat.pow_eq]
    exact_mod_cast Iff.rfl
  · have positive : 0 < Nat.pow 2 (e + 1) := Nat.pow_pos two_pos
    have divided : (x.significand * 2 ^ Int.negSucc e : ℚ) = n ↔
        x.significand = n * Nat.pow 2 (e + 1) := by
      rw [zpow_negSucc, ← div_eq_mul_inv, div_eq_iff (by positivity), Nat.pow_eq]
      exact_mod_cast Iff.rfl
    simp only [divided]
    split
    · next whole =>
      rw [Option.some.injEq, Nat.div_eq_iff_eq_mul_left positive (Nat.dvd_of_mod_eq_zero whole)]
    · next fractional =>
      refine iff_of_false (by simp) fun equal => fractional ?_
      rw [equal, Nat.mul_mod_left]

theorem numberOf_nonneg (n : Nat) : 0 ≤ numberOf n := by
  unfold numberOf
  positivity

/-- A double denotes an integer if its absolute value is whole, with its sign. -/
theorem value_eq_intCast_iff {n : Int} :
    x.value = n ↔
      ∃ m : Nat, numberOf x.magnitude = m ∧ (if x.negative then -(m : Int) else m) = n := by
  unfold value
  constructor
  · intro equal
    have absolute : numberOf x.magnitude = n.natAbs := by
      rw [Nat.cast_natAbs, Int.cast_abs, ← equal]
      split
      · rw [abs_neg, abs_of_nonneg (numberOf_nonneg _)]
      · rw [abs_of_nonneg (numberOf_nonneg _)]
    refine ⟨n.natAbs, absolute, ?_⟩
    rw [absolute] at equal
    rw [← @Int.cast_inj ℚ, ← equal]
    split
    · rw [Int.cast_neg, Int.cast_natCast]
    · rw [Int.cast_natCast]
  · rintro ⟨m, whole, rfl⟩
    rw [whole]
    split <;> push_cast <;> rfl

/-- The integer of a double is the one that it denotes. -/
theorem integer?_eq_some_iff {n : Int} : x.integer? = some n ↔ x.isFinite = true ∧ x.value = n := by
  unfold integer?
  split
  · next finite =>
    simp only [value_eq_intCast_iff, ← wholeMagnitude?_eq_some_iff, finite, true_and]
    cases x.wholeMagnitude? <;> simp
  · next infinite => simp [infinite]

end Double

/-! ## Digits -/

/-- Whether a text is digits behind a sign or none, and which integer they stand for. -/
inductive SignedDigits : List Char → Int → Prop where
  | unsigned {digits : List Char} (nonempty : digits ≠ []) (areDigits : ∀ c ∈ digits, IsDigit c) :
      SignedDigits digits (digitsValue 0 digits)
  | plus {digits : List Char} (nonempty : digits ≠ []) (areDigits : ∀ c ∈ digits, IsDigit c) :
      SignedDigits ('+' :: digits) (digitsValue 0 digits)
  | minus {digits : List Char} (nonempty : digits ≠ []) (areDigits : ∀ c ∈ digits, IsDigit c) :
      SignedDigits ('-' :: digits) (-(digitsValue 0 digits : Int))

theorem SignedDigits.solid {text : List Char} {n : Int} (written : SignedDigits text n) :
    ∀ c ∈ text, isBlank c = false := by
  cases written with
  | unsigned _ areDigits => exact fun c member => isBlank_eq_false_of_isDigit (areDigits c member)
  | plus _ areDigits | minus _ areDigits =>
    exact List.forall_mem_cons.2
      ⟨by decide, fun c member => isBlank_eq_false_of_isDigit (areDigits c member)⟩

namespace IntegerRange

variable {range : IntegerRange}

/-- Digits are read as the number that they stand for, which is in the range. -/
theorem readDigits_ok {negative : Bool} {acc : Nat} {n : Int} {digits : List Char}
    (read : range.readDigits negative (signed negative acc) digits = .ok n) :
    (∀ c ∈ digits, IsDigit c) ∧ n = signed negative (digitsValue acc digits) ∧
      (digits ≠ [] → range.low ≤ n ∧ n ≤ range.high) := by
  induction digits generalizing acc with
  | nil =>
    cases read
    simp
  | cons c rest ih =>
    rw [readDigits] at read
    cases value : digitValue? c with
    | none => simp [value] at read
    | some d =>
      have next : (if negative then 10 * signed negative acc - d else 10 * signed negative acc + d)
          = signed negative (10 * acc + d) := signed_next negative acc d
      simp only [value, next] at read
      split_ifs at read with tooLarge tooSmall
      obtain ⟨areDigits, equal, inRange⟩ := ih read
      refine ⟨List.forall_mem_cons.2 ⟨by simp [IsDigit, value], areDigits⟩, ?_, fun _ => ?_⟩
      · rw [equal, digitsValue_cons, value, Option.getD_some]
      · cases rest with
        | nil =>
          cases read
          exact ⟨not_lt.1 tooSmall, not_lt.1 tooLarge⟩
        | cons => exact inRange (List.cons_ne_nil _ _)

theorem readDigits_eq_ok_iff (zeroFits : range.low ≤ 0 ∧ 0 ≤ range.high) {digits : List Char}
    (nonempty : digits ≠ []) (negative : Bool) {n : Int} :
    range.readDigits negative 0 digits = .ok n ↔ (∀ c ∈ digits, IsDigit c) ∧
      n = signed negative (digitsValue 0 digits) ∧ range.low ≤ n ∧ n ≤ range.high := by
  have zero : (0 : Int) = signed negative 0 := by cases negative <;> rfl
  rw [zero]
  constructor
  · intro read
    obtain ⟨areDigits, equal, inRange⟩ := readDigits_ok read
    exact ⟨areDigits, equal, inRange nonempty⟩
  · rintro ⟨areDigits, rfl, inRange⟩
    exact readDigits_eq_ok areDigits negative 0 zeroFits inRange

theorem read_plus {digits : List Char} (nonempty : digits ≠ []) :
    range.read ('+' :: digits) = range.readDigits false 0 digits := by
  rw [read]
  simpa using nonempty

theorem read_minus (negatives : range.low < 0) {digits : List Char} (nonempty : digits ≠ []) :
    range.read ('-' :: digits) = range.readDigits true 0 digits := by
  rw [read, if_pos negatives]
  simpa using nonempty

theorem read_unsigned {c : Char} (plus : c ≠ '+') (minus : c ≠ '-') (rest : List Char) :
    range.read (c :: rest) = range.readDigits false 0 (c :: rest) := by
  rw [read] <;> simp [plus, minus]

/-- What a range with negative numbers reads is digits behind a sign or none, that stand for one of
its numbers. -/
theorem read_eq_ok_iff (bounds : range.low < 0 ∧ 0 ≤ range.high) {text : List Char} {n : Int} :
    range.read text = .ok n ↔ SignedDigits text n ∧ range.low ≤ n ∧ n ≤ range.high := by
  have zeroFits : range.low ≤ 0 ∧ 0 ≤ range.high := ⟨bounds.1.le, bounds.2⟩
  constructor
  · intro accepted
    cases text with
    | nil => contradiction
    | cons c rest =>
      by_cases plus : c = '+'
      · subst plus
        have nonempty : rest ≠ [] := by
          rintro rfl
          contradiction
        rw [read_plus nonempty, readDigits_eq_ok_iff zeroFits nonempty] at accepted
        obtain ⟨areDigits, rfl, inRange⟩ := accepted
        exact ⟨.plus nonempty areDigits, inRange⟩
      by_cases minus : c = '-'
      · subst minus
        have nonempty : rest ≠ [] := by
          rintro rfl
          contradiction
        rw [read_minus bounds.1 nonempty, readDigits_eq_ok_iff zeroFits nonempty] at accepted
        obtain ⟨areDigits, rfl, inRange⟩ := accepted
        exact ⟨.minus nonempty areDigits, inRange⟩
      · have nonempty : c :: rest ≠ [] := List.cons_ne_nil c rest
        rw [read_unsigned plus minus, readDigits_eq_ok_iff zeroFits nonempty] at accepted
        obtain ⟨areDigits, rfl, inRange⟩ := accepted
        exact ⟨.unsigned nonempty areDigits, inRange⟩
  · rintro ⟨written, inRange⟩
    cases written with
    | unsigned nonempty areDigits =>
      obtain ⟨c, rest, rfl⟩ := List.exists_cons_of_ne_nil nonempty
      have digit : IsDigit c := areDigits c List.mem_cons_self
      rw [read_unsigned (digit.ne (by decide)) (digit.ne (by decide)),
        readDigits_eq_ok_iff zeroFits nonempty]
      exact ⟨areDigits, rfl, inRange⟩
    | plus nonempty areDigits =>
      rw [read_plus nonempty, readDigits_eq_ok_iff zeroFits nonempty]
      exact ⟨areDigits, rfl, inRange⟩
    | minus nonempty areDigits =>
      rw [read_minus bounds.1 nonempty, readDigits_eq_ok_iff zeroFits nonempty]
      exact ⟨areDigits, rfl, inRange⟩

end IntegerRange

/-! ## White space -/

theorem trimFront_append_of_blank {front : List Char} (blank : ∀ c ∈ front, isBlank c = true)
    (rest : List Char) : trimFront (front ++ rest) = trimFront rest := by
  rw [trimFront, List.dropWhile_append_of_pos blank, trimFront]

/-- White space is taken away from around a text that has none. -/
theorem trimText_append {front core back : List Char} (blankFront : ∀ c ∈ front, isBlank c = true)
    (blankBack : ∀ c ∈ back, isBlank c = true) (solid : ∀ c ∈ core, isBlank c = false) :
    trimText (front ++ core ++ back) = core := by
  have blankReversed : ∀ c ∈ back.reverse, isBlank c = true := by simpa using blankBack
  have solidReversed : ∀ c ∈ core.reverse, isBlank c = false := by simpa using solid
  rw [trimText, List.append_assoc, trimFront_append_of_blank blankFront]
  cases core with
  | nil =>
    rw [List.nil_append, ← List.append_nil back, trimFront_append_of_blank blankBack]
    rfl
  | cons c rest =>
    rw [List.cons_append, trimFront_cons (solid c List.mem_cons_self), ← List.cons_append,
      List.reverse_append, trimFront_append_of_blank blankReversed,
      trimFront_of_solid solidReversed, List.reverse_reverse]

/-- Nothing but white space is taken away. -/
theorem exists_eq_append_trimText (text : List Char) :
    ∃ front back, text = front ++ trimText text ++ back ∧
      (∀ c ∈ front, isBlank c = true) ∧ ∀ c ∈ back, isBlank c = true := by
  have cut : ∀ text : List Char, text.takeWhile isBlank ++ trimFront text = text :=
    fun text => List.takeWhile_append_dropWhile
  refine ⟨text.takeWhile isBlank, ((trimFront text).reverse.takeWhile isBlank).reverse, ?_,
    fun c member => List.mem_takeWhile_imp member,
    fun c member => List.mem_takeWhile_imp (List.mem_reverse.1 member)⟩
  rw [trimText, List.append_assoc, ← List.reverse_append, cut, List.reverse_reverse, cut]

/-- Whether a text writes an integer, with nothing but white space around it. -/
def WritesInteger (text : List Char) (n : Int) : Prop :=
  ∃ front core back, text = front ++ core ++ back ∧ (∀ c ∈ front, isBlank c = true) ∧
    (∀ c ∈ back, isBlank c = true) ∧ SignedDigits core n

theorem signedDigits_trimText_iff {text : List Char} {n : Int} :
    SignedDigits (trimText text) n ↔ WritesInteger text n := by
  constructor
  · intro written
    obtain ⟨front, back, cut, blankFront, blankBack⟩ := exists_eq_append_trimText text
    exact ⟨front, _, back, cut, blankFront, blankBack, written⟩
  · rintro ⟨front, core, back, rfl, blankFront, blankBack, written⟩
    rwa [trimText_append blankFront blankBack written.solid]

/-! ## JSON values -/

namespace Json

/-- Whether a JSON value is a number that denotes an integer, and has lost no digit of it. -/
inductive DenotesInteger : Json → Int → Prop where
  | int (n : Int) : DenotesInteger (.int n) n
  | float {x : Double} {n : Int} (finite : x.isFinite = true) (whole : x.value = n)
      (precise : n.natAbs ≤ Nat.pow 2 53 - 1) : DenotesInteger (.float x) n

/-- Whether a JSON value gives an integer, as a number that denotes it or as a text that writes it. -/
def GivesInteger (raw : Json) (n : Int) : Prop :=
  raw.DenotesInteger n ∨ ∃ s, raw = .str s ∧ WritesInteger s.toList n

theorem wholeNumber?_eq_some_iff {raw : Json} {w : Int64} :
    raw.wholeNumber? = some w ↔ raw.DenotesInteger w.toInt := by
  cases raw with
  | int n =>
    rw [wholeNumber?, int64?_eq_some]
    constructor
    · rintro equal
      rw [equal]
      exact .int n
    · rintro ⟨⟩
      rfl
  | float x =>
    rw [wholeNumber?]
    constructor
    · intro read
      split at read
      · next n denotes =>
        split_ifs at read with precise
        obtain ⟨finite, whole⟩ := Double.integer?_eq_some_iff.1 denotes
        rw [int64?_eq_some.1 read]
        exact .float finite whole precise
      · contradiction
    · rintro (_ | ⟨finite, whole, precise⟩)
      have denotes := Double.integer?_eq_some_iff.2 ⟨finite, whole⟩
      simp only [denotes]
      rw [if_pos (show w.toInt.natAbs ≤ maxExactInteger from precise)]
      exact int64?_eq_some.2 rfl
  | _ => exact iff_of_false (by simp [wholeNumber?]) nofun

end Json

theorem read_signed64_eq_some_iff {text : List Char} {w : Int64} :
    (IntegerRange.signed64.read (trimText text)).toOption.bind int64? = some w ↔
      WritesInteger text w.toInt := by
  have read : ∀ n, (IntegerRange.signed64.read (trimText text)).toOption = some n ↔
      WritesInteger text n ∧ IntegerRange.signed64.low ≤ n ∧ n ≤ IntegerRange.signed64.high := by
    intro n
    rw [← signedDigits_trimText_iff, ← IntegerRange.read_eq_ok_iff (by decide)]
    cases IntegerRange.signed64.read (trimText text) <;> simp [Except.toOption]
  simp only [Option.bind_eq_some_iff, read, int64?_eq_some]
  constructor
  · rintro ⟨n, ⟨written, -⟩, equal⟩
    rwa [equal]
  · intro written
    have high := w.toInt_lt
    exact ⟨_, ⟨written, w.le_toInt, Int.le_sub_one_of_lt high⟩, rfl⟩

/-! ## Coercion -/

namespace Value

theorem coerce_bigInt_eq_ok_iff {raw : Json} {i : Int64} :
    coerce .bigInt raw = .ok (.bigInt i) ↔ raw.GivesInteger i.toInt := by
  rw [Json.GivesInteger, ← Json.wholeNumber?_eq_some_iff]
  cases raw with
  | null => simp [coerce, Json.wholeNumber?]
  | str s =>
    simp only [Json.wholeNumber?, reduceCtorEq, false_or, Json.str.injEq, exists_eq_left',
      ← read_signed64_eq_some_iff, coerce]
    split <;> next read => simp [read]
  | bool | int | float | arr | obj =>
    simp only [coerce, reduceCtorEq, false_and, exists_false, or_false]
    split <;> next read => simp [read]

theorem coerce_int_eq_ok_iff {raw : Json} {i : Int32} :
    coerce .int raw = .ok (.int i) ↔ raw.DenotesInteger i.toInt := by
  have narrowed : coerce .int raw = .ok (.int i) ↔
      ∃ w, raw.wholeNumber? = some w ∧ int32? w.toInt = some i := by
    cases raw with
    | null => simp [coerce, Json.wholeNumber?]
    | bool | int | float | str | arr | obj =>
      simp only [coerce]
      split
      · next read => simp [read]
      · next read =>
        simp only [read, Option.some.injEq, exists_eq_left']
        split <;> next word => simp [word]
  rw [narrowed]
  constructor
  · rintro ⟨w, read, word⟩
    rw [int32?_eq_some.1 word]
    exact Json.wholeNumber?_eq_some_iff.1 read
  · intro denotes
    rw [← Int32.toInt_toInt64] at denotes
    exact ⟨i.toInt64, Json.wholeNumber?_eq_some_iff.2 denotes,
      int32?_eq_some.2 (Int32.toInt_toInt64 i).symm⟩

/-- A mismatch says which kind was expected, and is all there is where no value is given. -/
theorem exists_mismatch_iff {kind : FieldKind} {raw : Json} :
    (∃ found, coerce kind raw = .error ⟨kind.text, found⟩) ↔
      ∀ value, coerce kind raw ≠ .ok value := by
  have expected : ∀ fault, coerce kind raw = .error fault → fault.expected = kind.text := by
    intro fault refused
    unfold coerce at refused
    split at refused
    · contradiction
    · cases kind <;> simp only at refused <;> repeat' split at refused
      all_goals first | contradiction | (cases refused; rfl)
  cases coerced : coerce kind raw with
  | ok value => simp
  | error fault =>
    obtain ⟨kindText, found⟩ := fault
    obtain rfl : kindText = kind.text := expected _ coerced
    simp

theorem coerce_ne_ok_iff {kind : FieldKind} {raw : Json} :
    (∀ value, coerce kind raw ≠ .ok value) ↔
      raw.isNull = false ∧ ∀ value, kind.Holds value → coerce kind raw ≠ .ok value := by
  constructor
  · intro refused
    refine ⟨?_, fun value _ => refused value⟩
    cases raw with
    | null => exact absurd rfl (refused .null)
    | _ => rfl
  · rintro ⟨present, refused⟩ value read
    exact refused value (coerce_holds present read) read

/-- A JSON value is coerced to an integer if it is a number that denotes that very integer, or, for
64 bits, a text that writes it.  Every other value that is there is a mismatch. -/
theorem coerce_integers (raw : Json) :
    (∀ i : Int64, coerce .bigInt raw = .ok (.bigInt i) ↔ raw.GivesInteger i.toInt) ∧
    (∀ i : Int32, coerce .int raw = .ok (.int i) ↔ raw.DenotesInteger i.toInt) ∧
    ((∃ found, coerce .bigInt raw = .error ⟨FieldKind.bigInt.text, found⟩) ↔
      raw.isNull = false ∧ ∀ i : Int64, ¬ raw.GivesInteger i.toInt) ∧
    ((∃ found, coerce .int raw = .error ⟨FieldKind.int.text, found⟩) ↔
      raw.isNull = false ∧ ∀ i : Int32, ¬ raw.DenotesInteger i.toInt) := by
  have noLong : (∀ value, FieldKind.bigInt.Holds value → coerce .bigInt raw ≠ .ok value) ↔
      ∀ i : Int64, ¬ raw.GivesInteger i.toInt := by
    simp only [← coerce_bigInt_eq_ok_iff]
    exact ⟨fun refused i => refused _ (.bigInt i), fun refused value (.bigInt i) => refused i⟩
  have noShort : (∀ value, FieldKind.int.Holds value → coerce .int raw ≠ .ok value) ↔
      ∀ i : Int32, ¬ raw.DenotesInteger i.toInt := by
    simp only [← coerce_int_eq_ok_iff]
    exact ⟨fun refused i => refused _ (.int i), fun refused value (.int i) => refused i⟩
  exact ⟨fun i => coerce_bigInt_eq_ok_iff, fun i => coerce_int_eq_ok_iff,
    by rw [exists_mismatch_iff, coerce_ne_ok_iff, noLong],
    by rw [exists_mismatch_iff, coerce_ne_ok_iff, noShort]⟩

/-- The greatest exact double is an integer, and the next whole double is none. -/
example :
    coerce .bigInt (.float (Double.ofNat 9007199254740991)) = .ok (.bigInt 9007199254740991) ∧
      coerce .bigInt (.float (Double.ofNat 9007199254740992))
        = .error ⟨"bigint", "imprecise number"⟩ := by
  decide +kernel

end Value

end RecordStore
