import RecordStore.Json.Writer
import RecordStore.Proofs.RoundTrip.Doubles
import RecordStore.Proofs.RoundTrip.Values

/-! # Texts tell values apart

The JSON text of a value says which of the values of its field it is: `compact_toJson_inj`.  Moments
are told apart in every year, also in those whose texts cannot be read back; two zeros that differ in
their signs are told apart, and so are two decimals of one number that differ in their scales.
-/

namespace RecordStore

/-! ## Quoted texts -/

/-- The character that a backslash and a letter stand for. -/
def unescapeLetter (letter : Char) : Char :=
  if letter = 'n' then '\n'
  else if letter = 'r' then '\r'
  else if letter = 't' then '\t'
  else if letter = 'b' then '\x08'
  else if letter = 'f' then '\x0c'
  else letter

/-- The number of a hexadecimal digit. -/
def hexValue (digit : Char) : Nat :=
  if digit.toNat < 'a'.toNat then digit.toNat - '0'.toNat else digit.toNat + 10 - 'a'.toNat

/-- The first character that stands in a JSON string, and what comes behind it. -/
def unescape? : List Char → Option (Char × List Char)
  | [] => none
  | '\\' :: 'u' :: '0' :: '0' :: high :: low :: rest =>
    some (Char.ofNat (16 * hexValue high + hexValue low), rest)
  | '\\' :: letter :: rest => some (unescapeLetter letter, rest)
  | c :: rest => some (c, rest)

theorem unescape?_escapeChar (c : Char) (rest : List Char) :
    unescape? (escapeChar c ++ rest) = some (c, rest) := by
  unfold escapeChar
  split_ifs with quote backslash newline carriage tab backspace feed control
  iterate 7 · subst_vars; rfl
  · have read : ∀ n < 0x20,
        Char.ofNat (16 * hexValue (hexDigit (n / 16)) + hexValue (hexDigit (n % 16)))
          = Char.ofNat n := by decide
    simp only [List.cons_append, List.nil_append, unescape?, read c.toNat control, Char.ofNat_toNat]
  · rw [List.singleton_append, unescape?]
    all_goals simp_all

theorem flatMap_escapeChar_injective {s t : List Char}
    (same : s.flatMap escapeChar = t.flatMap escapeChar) : s = t := by
  have nothing : ∀ c (rest : List Char), [] ≠ escapeChar c ++ rest := by
    intro c rest nil
    have read := unescape?_escapeChar c rest
    rw [← nil] at read
    contradiction
  induction s generalizing t with
  | nil =>
    cases t with
    | nil => rfl
    | cons d t => exact absurd same (nothing d _)
  | cons c s ih =>
    cases t with
    | nil => exact absurd same.symm (nothing c _)
    | cons d t =>
      have read := congrArg unescape? same
      rw [List.flatMap_cons, List.flatMap_cons, unescape?_escapeChar, unescape?_escapeChar,
        Option.some.injEq, Prod.mk.injEq] at read
      rw [read.1, ih read.2]

theorem quoteJson_injective {s t : String} (same : quoteJson s = quoteJson t) : s = t := by
  have texts := String.ofList_inj.1 same
  rw [List.cons_append, List.cons_append, List.cons.injEq] at texts
  exact String.toList_inj.1 (flatMap_escapeChar_injective (List.append_cancel_right texts.2))

/-! ## Integers -/

theorem toString_int_injective {m n : Int} (same : toString m = toString n) : m = n := by
  have texts := congrArg String.toList same
  rw [toList_toString_int, toList_toString_int] at texts
  obtain ⟨sign, digits⟩ := @minus_append_inj (m < 0) (n < 0) _ _
    (beginsWithDigit_toDigits _) (beginsWithDigit_toDigits _) (by simpa using texts)
  have values := congrArg (digitsValue 0) digits
  rw [(toDigits_spec _).1, (toDigits_spec _).1] at values
  rw [decide_eq_decide] at sign
  omega

/-! ## Decimals -/

theorem Decimal.beginsWithDigit_renderUnsigned (x : Decimal) :
    BeginsWithDigit x.renderUnsigned := by
  obtain ⟨first, rest, equal, digit⟩ := x.exists_renderUnsigned
  exact ⟨first, by rw [equal]; rfl, digit⟩

theorem Decimal.text_injective {x y : Decimal} (same : x.text = y.text) : x = y := by
  have texts := String.ofList_inj.1 same
  have values := x.read?_render
  rw [texts, y.read?_render, Option.some.injEq] at values
  rw [render_eq, render_eq] at texts
  obtain ⟨sign, -⟩ :=
    minus_append_inj x.beginsWithDigit_renderUnsigned y.beginsWithDigit_renderUnsigned texts
  have parts : ∀ z : Decimal, z.unsignedZero.magnitude = z.magnitude ∧
      z.unsignedZero.scale = z.scale := by
    intro z
    unfold unsignedZero
    split <;> exact ⟨rfl, rfl⟩
  have magnitude := (parts x).1.symm.trans (values ▸ (parts y).1)
  have scale := (parts x).2.symm.trans (values ▸ (parts y).2)
  cases x
  cases y
  simp only at sign magnitude scale
  subst sign magnitude scale
  rfl

/-! ## Moments -/

namespace Timestamp

/-- Digits in front of a mark are told apart from what follows them. -/
theorem digits_append_inj {a b r s : List Char} {mark : Char} (digitsA : ∀ c ∈ a, IsDigit c)
    (digitsB : ∀ c ∈ b, IsDigit c) (other : ¬ IsDigit mark)
    (same : a ++ mark :: r = b ++ mark :: s) : a = b ∧ r = s := by
  obtain ⟨frontA, behindA⟩ :=
    @cut_at_mark mark a (mark :: r) (fun c member => (digitsA c member).ne other) (by simp)
  obtain ⟨frontB, behindB⟩ :=
    @cut_at_mark mark b (mark :: s) (fun c member => (digitsB c member).ne other) (by simp)
  rw [same] at frontA behindA
  exact ⟨frontA.symm.trans frontB, (List.cons.inj (behindA.symm.trans behindB)).2⟩

theorem padded_append_inj {width m n : Nat} {r s : List Char} {mark : Char}
    (other : ¬ IsDigit mark) (same : padded width m ++ mark :: r = padded width n ++ mark :: s) :
    m = n ∧ r = s := by
  obtain ⟨digits, rest⟩ := digits_append_inj (isDigit_of_mem_padded width m)
    (isDigit_of_mem_padded width n) other same
  have numbers := congrArg (digitsValue 0) digits
  rw [digitsValue_padded, digitsValue_padded] at numbers
  exact ⟨numbers, rest⟩

/-- The sign of a year, which only years of other than four digits have. -/
def yearSign (year : Int) : Option Char :=
  if 0 ≤ year ∧ year ≤ 9999 then none else some (if year < 0 then '-' else '+')

theorem renderYear_eq (year : Int) :
    renderYear year = (yearSign year).toList ++ padded 4 year.natAbs := by
  unfold renderYear yearSign
  split
  · have positive : year.toNat = year.natAbs := by omega
    rw [positive]
    rfl
  · rfl

theorem not_isDigit_of_mem_yearSign {year : Int} {c : Char} (sign : c ∈ yearSign year) :
    ¬ IsDigit c := by
  unfold yearSign at sign
  split_ifs at sign <;> cases sign <;> decide

theorem eq_of_yearSign {y z : Int} (signs : yearSign y = yearSign z)
    (numbers : y.natAbs = z.natAbs) : y = z := by
  unfold yearSign at signs
  split_ifs at signs <;> first | omega | exact absurd signs (by decide)

theorem renderYear_append_inj {y z : Int} {r s : List Char}
    (same : renderYear y ++ '-' :: r = renderYear z ++ '-' :: s) : y = z ∧ r = s := by
  have digits : ∀ year rest, BeginsWithDigit (padded 4 year ++ rest) := fun year =>
    beginsWithDigit_append (isDigit_of_mem_padded 4 year) (padded_ne_nil (by decide) year)
  rw [renderYear_eq, renderYear_eq, List.append_assoc, List.append_assoc] at same
  obtain ⟨signs, behind⟩ := sign_append_inj (fun _ => not_isDigit_of_mem_yearSign)
    (fun _ => not_isDigit_of_mem_yearSign) (digits _ _) (digits _ _) same
  obtain ⟨numbers, rest⟩ := padded_append_inj (by decide) behind
  exact ⟨eq_of_yearSign signs numbers, rest⟩

theorem text_injective {s t : Timestamp} (same : s.text = t.text) : s = t := by
  have texts := String.ofList_inj.1 same
  simp only [render, List.append_assoc, List.cons_append] at texts
  obtain ⟨year, texts⟩ := renderYear_append_inj texts
  obtain ⟨month, texts⟩ := padded_append_inj (by decide) texts
  obtain ⟨day, texts⟩ := padded_append_inj (by decide) texts
  obtain ⟨hour, texts⟩ := padded_append_inj (by decide) texts
  obtain ⟨minute, texts⟩ := padded_append_inj (by decide) texts
  obtain ⟨second, texts⟩ := padded_append_inj (by decide) texts
  obtain ⟨micro, -⟩ := padded_append_inj (by decide) texts
  obtain ⟨⟨_, _, _, _⟩, _, _, _, _, _⟩ := s
  obtain ⟨⟨_, _, _, _⟩, _, _, _, _, _⟩ := t
  simp only at year month day hour minute second micro
  subst year month day hour minute second micro
  rfl

end Timestamp

/-! ## Values of one field -/

/-- The text of a value begins with a quote, a sign or a digit, or is that of a truth value. -/
theorem FieldKind.Admits.compact_ne_null {kind : FieldKind} {value : Value}
    (admits : kind.Admits value) : value.toJson.compact ≠ Json.null.compact := by
  have quoted : ∀ s, quoteJson s ≠ "null" := by
    intro s same
    have texts := congrArg String.toList same
    rw [quoteJson, String.toList_ofList, List.cons_append] at texts
    exact absurd (List.cons.inj texts).1 (by decide)
  have signed : ∀ (negative : Bool) (digits : List Char), BeginsWithDigit digits →
      (if negative then ['-'] else []) ++ digits ≠ "null".toList := by
    rintro negative digits ⟨first, begins, digit⟩ same
    have heads := congrArg List.head? same
    cases negative
    · obtain rfl : first = 'n' := by simpa [Option.mem_def.1 begins] using heads
      exact absurd digit (by decide)
    · exact absurd (Option.some.inj heads) (by decide)
  cases admits with
  | string s | enumeration => exact quoted _
  | bigInt | decimal | dateTime => exact quoted _
  | boolean b => cases b <;> decide
  | int n =>
    intro same
    have texts : (toString n.toInt).toList = "null".toList := congrArg String.toList same
    rw [toList_toString_int] at texts
    exact signed (n.toInt < 0) _ (beginsWithDigit_toDigits _) (by simpa using texts)
  | @float x finite =>
    intro same
    simp only [Value.toJson, Json.number, finite, if_true, Json.compact] at same
    have texts := congrArg String.toList same
    rw [Double.toList_text_json finite] at texts
    exact signed x.negative _ x.beginsWithDigit_unsignedText texts

theorem FieldKind.Admits.compact_inj {kind : FieldKind} {a b : Value} (admitsA : kind.Admits a)
    (admitsB : kind.Admits b) (same : a.toJson.compact = b.toJson.compact) : a = b := by
  cases admitsA with
  | string | enumeration =>
    cases admitsB
    exact congrArg _ (quoteJson_injective same)
  | int m =>
    cases admitsB
    exact congrArg Value.int (Int32.toInt_inj.1 (toString_int_injective same))
  | bigInt m =>
    cases admitsB
    have texts := quoteJson_injective same
    exact congrArg Value.bigInt (Int64.toInt_inj.1 (toString_int_injective texts))
  | float finite =>
    cases admitsB with
    | float finite' =>
      simp only [Value.toJson, Json.number, finite, finite', if_true, Json.compact] at same
      rw [Double.text_json_injective finite finite' same]
  | decimal x =>
    cases admitsB
    exact congrArg Value.decimal (Decimal.text_injective (quoteJson_injective same))
  | boolean p =>
    cases admitsB with
    | boolean q => cases p <;> cases q <;> first | rfl | exact absurd same (by decide)
  | dateTime t =>
    cases admitsB
    exact congrArg Value.dateTime (Timestamp.text_injective (quoteJson_injective same))

/-- The values that a field admits have different texts. -/
theorem Field.Admits.compact_toJson_inj {field : Field} {a b : Value} (admitsA : field.Admits a)
    (admitsB : field.Admits b) : a.toJson.compact = b.toJson.compact ↔ a = b := by
  refine ⟨fun same => ?_, fun equal => by rw [equal]⟩
  rcases admitsA with ⟨rfl, -⟩ | admitsA <;> rcases admitsB with ⟨rfl, -⟩ | admitsB
  · rfl
  · exact absurd same.symm admitsB.compact_ne_null
  · exact absurd same admitsA.compact_ne_null
  · exact admitsA.compact_inj admitsB same

end RecordStore
