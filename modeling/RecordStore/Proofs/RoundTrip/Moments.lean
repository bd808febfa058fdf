import RecordStore.Proofs.RoundTrip.Digits
import RecordStore.Time.Reader

/-! # Moments are read back from their texts

The text of a moment is read back as the moment if its year is written with four digits.  The text of
any other year begins with a sign, which only the lenient forms allow, and these do not have the `Z`
at the end: it cannot be read at all.

`read?_text_eq_some_iff` says both.
-/

namespace RecordStore

/-! ## Numbers in a text -/

namespace Scan

theorem digitsFrom_append {digits : List Char} (areDigits : ∀ c ∈ digits, IsDigit c) {most : Nat}
    (room : digits.length ≤ most) (acc : Nat) (rest : List Char) :
    digitsFrom acc most (digits ++ rest)
      = digitsFrom (digitsValue acc digits) (most - digits.length) rest := by
  induction digits generalizing acc most with
  | nil => rfl
  | cons c digits ih =>
    obtain ⟨most, rfl⟩ : ∃ n, most = n + 1 := ⟨most - 1, by simp at room; omega⟩
    rw [List.forall_mem_cons] at areDigits
    obtain ⟨d, digit⟩ := Option.isSome_iff_exists.1 areDigits.1
    rw [List.cons_append, digitsFrom]
    simp only [digit]
    rw [ih areDigits.2 (by simpa using room), digitsValue_cons, digit, Option.getD_some,
      List.length_cons, Nat.add_sub_add_right]

theorem digitsFrom_of_not_isDigit {c : Char} (other : ¬ IsDigit c) (acc most : Nat)
    (rest : List Char) : digitsFrom acc most (c :: rest) = (acc, c :: rest) := by
  cases most with
  | zero => rfl
  | succ most =>
    have none : digitValue? c = none := by simpa [IsDigit] using other
    rw [digitsFrom]
    simp only [none]

/-- Digits in front of something that is no digit are read as a number. -/
theorem number_append {digits : List Char} (nonempty : digits ≠ [])
    (areDigits : ∀ c ∈ digits, IsDigit c) {most : Nat} (room : digits.length ≤ most) {c : Char}
    (other : ¬ IsDigit c) (rest : List Char) :
    number most (digits ++ c :: rest) = some (digitsValue 0 digits, c :: rest) := by
  cases digits with
  | nil => contradiction
  | cons first digits =>
    rw [List.forall_mem_cons] at areDigits
    obtain ⟨d, digit⟩ := Option.isSome_iff_exists.1 areDigits.1
    rw [List.length_cons] at room
    rw [List.cons_append, number]
    simp only [digit]
    rw [digitsFrom_append areDigits.2 (by omega), digitsFrom_of_not_isDigit other,
      digitsValue_cons, digit]
    simp

end Scan

namespace Timestamp

open Scan

theorem padded_ne_nil {width : Nat} (positive : 0 < width) (n : Nat) : padded width n ≠ [] := by
  intro nil
  have long := le_length_padded width n
  rw [nil, List.length_nil] at long
  omega

theorem number_padded {width n most : Nat} (positive : 0 < width) (fits : n < 10 ^ width)
    (room : width ≤ most) {c : Char} (other : ¬ IsDigit c) (rest : List Char) :
    number most (padded width n ++ c :: rest) = some (n, c :: rest) := by
  have length := length_padded positive fits
  rw [number_append (padded_ne_nil positive n) (isDigit_of_mem_padded width n) (by omega) other,
    digitsValue_padded]

theorem fixed_padded {width n : Nat} (positive : 0 < width) (fits : n < 10 ^ width) {c : Char}
    (other : ¬ IsDigit c) (rest : List Char) :
    fixed width (padded width n ++ c :: rest) = some (n, c :: rest) := by
  have front : (padded width n ++ c :: rest).take width = padded width n :=
    List.take_left' (length_padded positive fits)
  rw [fixed, front, number_padded positive fits le_rfl other, if_pos]
  refine ⟨length_padded positive fits, ?_⟩
  rw [List.all_eq_true]
  exact isDigit_of_mem_padded width n

theorem isBlank_eq_false_of_isDigit {c : Char} (digit : IsDigit c) : isBlank c = false := by
  have range : 48 ≤ c.toNat ∧ c.toNat ≤ 57 := by
    rw [IsDigit, digitValue?] at digit
    split at digit
    · next range => exact range
    · contradiction
  simp only [isBlank, Bool.or_eq_false_iff, Bool.and_eq_false_iff, decide_eq_false_iff_not,
    beq_eq_false_iff_ne]
  omega

theorem trimFront_cons {c : Char} (solid : isBlank c = false) (rest : List Char) :
    trimFront (c :: rest) = c :: rest := by
  simp [trimFront, solid]

/-- A text that neither begins nor ends with white space has none around it. -/
theorem trimText_cons_concat {c d : Char} (first : isBlank c = false) (last : isBlank d = false)
    (middle : List Char) : trimText (c :: middle ++ [d]) = c :: middle ++ [d] := by
  rw [trimText, List.cons_append, trimFront_cons first, ← List.cons_append, List.reverse_concat,
    trimFront_cons last]
  simp

theorem readField_padded {width n most : Nat} (positive : 0 < width) (fits : n < 10 ^ width)
    (room : width ≤ most) {c : Char} (other : ¬ IsDigit c) (rest : List Char) :
    readField most (padded width n ++ c :: rest) = some (n, c :: rest) := by
  have solid : trimFront (padded width n ++ c :: rest) = padded width n ++ c :: rest := by
    have digits := isDigit_of_mem_padded width n
    obtain ⟨first, others, equal⟩ := List.exists_cons_of_ne_nil (padded_ne_nil positive n)
    rw [equal] at digits ⊢
    exact trimFront_cons (isBlank_eq_false_of_isDigit (digits first List.mem_cons_self)) _
  rw [readField, solid, number_padded positive fits room other]

/-! ## Plain years -/

theorem fraction_padded {micro : Nat} (fits : micro < 10 ^ 6) :
    fraction ('.' :: padded 6 micro ++ ['Z']) = some (micro, ['Z']) := by
  have length := length_padded (by decide : 0 < 6) fits
  have read : number 9 (padded 6 micro ++ ['Z']) = some (micro, ['Z']) :=
    number_padded (by decide) fits (by decide) (by decide) []
  rw [List.cons_append, fraction, micros, read]
  simp only [List.length_append, List.length_singleton, length]
  -- Six of the nine digits that count have been read.
  have scaled : micro * Nat.pow 10 (9 - (6 + 1 - 1)) / 1000 = micro :=
    Nat.mul_div_cancel micro (by decide)
  rw [scaled]
  rfl

theorem ofFields?_date (t : Timestamp) :
    Day.ofFields? t.date.year t.date.month t.date.day = some t.date := by
  rw [Day.ofFields?, dif_pos t.date.valid]

theorem ofFields?_fields (t : Timestamp) :
    ofFields? t.date t.hour t.minute t.second t.micro = some t := by
  rw [ofFields?, dif_pos t.valid]

theorem shiftMinutes_zero (t : Timestamp) : t.shiftMinutes 0 = t := by
  have bounds := t.valid
  obtain ⟨date, hour, minute, second, micro, valid⟩ := t
  have notBefore : ¬ ((hour * 60 + minute : Nat) : Int) + 0 < 0 := by omega
  have notBehind : ¬ (1440 : Int) ≤ ((hour * 60 + minute : Nat) : Int) + 0 := by omega
  simp only [shiftMinutes, if_neg notBefore, if_neg notBehind, mk.injEq, true_and, and_true]
  omega

theorem bind_of_eq_some {α β : Type} {x : Option α} {f : α → Option β} {a : α} {b : Option β}
    (read : x = some a) (rest : f a = b) : x >>= f = b := by
  rw [read]
  exact rest

theorem readInternet?_render {t : Timestamp} (plain : t.HasPlainYear) :
    readInternet? t.render = some t := by
  have date := t.date.valid
  have month := daysInMonth_le t.date.year t.date.month
  have time := t.valid
  unfold HasPlainYear at plain
  have year : ((t.date.year.toNat : Nat) : Int) = t.date.year := Int.toNat_of_nonneg plain.1
  have fraction : fraction ('.' :: (padded 6 t.micro ++ ['Z'])) = some (t.micro, ['Z']) :=
    fraction_padded (by omega)
  rw [render, renderYear, if_pos plain]
  simp only [List.append_assoc, List.cons_append]
  -- Every block is read up to the mark behind it, and gives its field.
  refine bind_of_eq_some (fixed_padded (by decide) (by omega) (by decide) _) ?_
  refine bind_of_eq_some rfl ?_
  refine bind_of_eq_some (fixed_padded (by decide) (by omega) (by decide) _) ?_
  refine bind_of_eq_some rfl ?_
  refine bind_of_eq_some (fixed_padded (by decide) (by omega) (by decide) _) ?_
  refine bind_of_eq_some rfl ?_
  refine bind_of_eq_some (fixed_padded (by decide) (by omega) (by decide) _) ?_
  refine bind_of_eq_some rfl ?_
  refine bind_of_eq_some (fixed_padded (by decide) (by omega) (by decide) _) ?_
  refine bind_of_eq_some rfl ?_
  refine bind_of_eq_some (fixed_padded (by decide) (by omega) (by decide) _) ?_
  refine bind_of_eq_some fraction ?_
  refine bind_of_eq_some (rfl : readOffset ['Z'] = some (0, [])) ?_
  refine bind_of_eq_some (year ▸ ofFields?_date t) ?_
  refine bind_of_eq_some (ofFields?_fields t) ?_
  exact congrArg some (shiftMinutes_zero t)

/-! ## Years with a sign -/

theorem readInternet?_of_not_isDigit {c : Char} (other : ¬ IsDigit c) (rest : List Char) :
    readInternet? (c :: rest) = none := by
  have unread : fixed 4 (c :: rest) = none := by
    rw [fixed, if_neg]
    rintro ⟨-, areDigits⟩
    rw [List.take_succ_cons, List.all_cons, Bool.and_eq_true] at areDigits
    exact other areDigits.1
  rw [readInternet?, unread]
  rfl

theorem readYear_signed {sign : Char} (isSign : sign = '-' ∨ sign = '+') (year : Nat)
    (rest : List Char) :
    ∃ value, readYear (sign :: (padded 4 year ++ '-' :: rest)) = some (value, '-' :: rest) := by
  have read := number_append (padded_ne_nil (by decide : 0 < 4) year) (isDigit_of_mem_padded 4 year)
    (show (padded 4 year).length ≤ (padded 4 year ++ '-' :: rest).length by simp)
    (by decide : ¬ IsDigit '-') rest
  rcases isSign with rfl | rfl
  · rw [readYear, trimFront_cons (by decide)]
    simp only [read, Option.map_some]
    exact ⟨_, rfl⟩
  · rw [readYear, trimFront_cons (by decide)]
    simp only [read, Option.map_some]
    exact ⟨_, rfl⟩

/-- A date with a signed year ends in front of the time. -/
theorem readDate_signed {sign : Char} (isSign : sign = '-' ∨ sign = '+') {year month day : Nat}
    (monthFits : month < 100) (dayFits : day < 100) {rest left : List Char} {date : Day}
    (read : readDate (sign :: (padded 4 year ++ '-' :: (padded 2 month ++ '-' ::
      (padded 2 day ++ 'T' :: rest)))) = some (date, left)) : left = 'T' :: rest := by
  obtain ⟨value, yearRead⟩ := readYear_signed isSign year
    (padded 2 month ++ '-' :: (padded 2 day ++ 'T' :: rest))
  rw [readDate, yearRead] at read
  simp (disch := first | omega | decide) only [Option.bind_eq_bind, Option.bind_some, char, if_true,
    readField_padded, Option.bind_eq_some_iff, Option.ite_none_right_eq_some, Option.some.injEq,
    Prod.mk.injEq] at read
  obtain ⟨_, -, -, -, rfl⟩ := read
  rfl

/-- The time of a moment ends in a `Z`, for which a lenient time has no place. -/
theorem readTime?_render (t : Timestamp) (date : Day) :
    readTime? date (padded 2 t.hour ++ ':' :: (padded 2 t.minute ++ ':' :: (padded 2 t.second ++
      '.' :: (padded 6 t.micro ++ ['Z'])))) = none := by
  have time := t.valid
  have fraction : fraction ('.' :: (padded 6 t.micro ++ ['Z'])) = some (t.micro, ['Z']) :=
    fraction_padded (by omega)
  rw [readTime?]
  simp (disch := first | omega | decide) only [readField_padded, Option.bind_eq_bind,
    Option.bind_some, char, if_true, fraction]
  rfl

theorem readTime?_mark (date : Day) (rest : List Char) : readTime? date ('T' :: rest) = none := by
  have unread : readField 2 ('T' :: rest) = none := by
    rw [readField, trimFront_cons (by decide)]
    rfl
  rw [readTime?, unread]
  rfl

theorem renderYear_of_not_plain {year : Int} (signed : ¬ (0 ≤ year ∧ year ≤ 9999)) :
    ∃ sign, (sign = '-' ∨ sign = '+') ∧ renderYear year = sign :: padded 4 year.natAbs := by
  rw [renderYear, if_neg signed]
  split
  · exact ⟨_, .inl rfl, rfl⟩
  · exact ⟨_, .inr rfl, rfl⟩

theorem read_render_of_signed {t : Timestamp} (signed : ¬ t.HasPlainYear) :
    readInternet? t.render = none ∧ readLenient? t.render = none ∧
      readBareDate? t.render = none := by
  have date := t.date.valid
  have month := daysInMonth_le t.date.year t.date.month
  obtain ⟨sign, isSign, year⟩ := renderYear_of_not_plain signed
  have other : ¬ IsDigit sign := by rcases isSign with rfl | rfl <;> decide
  simp only [render, year, List.append_assoc, List.cons_append]
  refine ⟨readInternet?_of_not_isDigit other _, ?_, ?_⟩
  · rw [readLenient?, Option.bind_eq_bind, Option.bind_eq_none_iff]
    rintro ⟨date, rest⟩ read
    rw [readDate_signed isSign (by omega) (by omega) read]
    simp only [trimFront_cons (show isBlank 'T' = false by decide), readTime?_mark, Option.none_or,
      char, if_true, Option.bind_some]
    exact readTime?_render t date
  · rw [readBareDate?, Option.bind_eq_bind, Option.bind_eq_none_iff]
    rintro ⟨date, rest⟩ read
    rw [readDate_signed isSign (by omega) (by omega) read]
    rfl

/-! ## Both -/

theorem trimText_render (t : Timestamp) : trimText t.render = t.render := by
  obtain ⟨first, rest, year, solid⟩ :
      ∃ first rest, renderYear t.date.year = first :: rest ∧ isBlank first = false := by
    by_cases plain : t.HasPlainYear
    · have digits := isDigit_of_mem_padded 4 t.date.year.toNat
      have year : renderYear t.date.year = padded 4 t.date.year.toNat := if_pos plain
      obtain ⟨first, rest, equal⟩ :=
        List.exists_cons_of_ne_nil (padded_ne_nil (by decide : 0 < 4) t.date.year.toNat)
      rw [year, equal]
      rw [equal] at digits
      exact ⟨first, rest, rfl, isBlank_eq_false_of_isDigit (digits first List.mem_cons_self)⟩
    · obtain ⟨sign, isSign, equal⟩ := renderYear_of_not_plain plain
      refine ⟨sign, _, equal, ?_⟩
      rcases isSign with rfl | rfl <;> decide
  rw [render, year]
  exact trimText_cons_concat solid (by decide) _

/-- The text of a moment is read as that moment and nothing else, and only in plain years. -/
theorem read?_text_eq_some_iff {s t : Timestamp} :
    read? t.text = some s ↔ t.HasPlainYear ∧ t = s := by
  rw [read?, text, String.toList_ofList, trimText_render]
  by_cases plain : t.HasPlainYear
  · simp [readInternet?_render plain, plain]
  · obtain ⟨internet, lenient, bare⟩ := read_render_of_signed plain
    simp [internet, lenient, bare, plain]

end Timestamp

end RecordStore
