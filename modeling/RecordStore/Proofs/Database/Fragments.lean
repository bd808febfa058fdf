import Mathlib.Data.List.Forall2
import RecordStore.Proofs.Database.Tokens

/-! # Tokens of the parts of a statement

`Scans` says of a part of a statement that it has certain tokens whatever stands behind it, if only
that begins with a blank, a comma or a parenthesis.  A keyword, a quoted name, a quoted text and a
number have one token each, and parts with separators between them have the tokens of all.
-/

namespace RecordStore

open Lexer

/-! ## Texts that end where a separator begins -/

/-- Whether a text has no NUL. -/
def IsNulFree (text : String) : Prop := '\x00' ∉ text.toList

instance (text : String) : Decidable (IsNulFree text) := inferInstanceAs (Decidable (¬ _))

/-- What stands between the parts of a definition. -/
def separators : List Char := [' ', '\n', ',', '(', ')']

/-- Whether a token that stands in front of a text ends there. -/
def EndsToken (text : List Char) : Prop := ∀ c ∈ text.head?, c ∈ separators

theorem EndsToken.beginsWith {text : List Char} (ends : EndsToken text) {isMember : Char → Bool}
    (stops : separators.all (fun c => !isMember c) = true) : beginsWith isMember text = false := by
  cases text with
  | nil => rfl
  | cons c rest => simpa [Lexer.beginsWith] using List.all_eq_true.1 stops c (ends c rfl)

theorem takeWhile_of_beginsWith {isMember : Char → Bool} {rest : List Char}
    (stops : beginsWith isMember rest = false) :
    rest.takeWhile isMember = [] ∧ rest.dropWhile isMember = rest := by
  cases rest with
  | nil => exact ⟨rfl, rfl⟩
  | cons c rest =>
    have none : isMember c = false := by simpa [Lexer.beginsWith] using stops
    simp [none]

theorem takeWhile_append {isMember : Char → Bool} {front rest : List Char}
    (all : ∀ c ∈ front, isMember c = true) (stops : beginsWith isMember rest = false) :
    (front ++ rest).takeWhile isMember = front ∧ (front ++ rest).dropWhile isMember = rest := by
  obtain ⟨taken, dropped⟩ := takeWhile_of_beginsWith stops
  rw [List.takeWhile_append_of_pos all, List.dropWhile_append_of_pos all, taken, dropped]
  exact ⟨List.append_nil front, rfl⟩

/-- Whether no vertical tab begins a text.  White space in front of it would go on with one. -/
def BeginsWithoutTab (text : List Char) : Prop := text.head? ≠ some '\x0b'

theorem BeginsWithoutTab.append {front rest : List Char} (begins : BeginsWithoutTab front)
    (goesOn : BeginsWithoutTab rest) : BeginsWithoutTab (front ++ rest) := by
  cases front with
  | nil => exact goesOn
  | cons => exact begins

theorem EndsToken.beginsWithoutTab {text : List Char} (ends : EndsToken text) :
    BeginsWithoutTab text :=
  fun tab => absurd (ends _ tab) (by decide)

/-- White space has no tokens. -/
theorem tokensOf_dropWhile {text : List Char} (begins : BeginsWithoutTab text) :
    tokensOf (text.dropWhile isSpace) = tokensOf text := by
  cases text with
  | nil => rfl
  | cons c rest =>
    cases space : isSpace c with
    | true =>
      have blank : c ∈ blanks := by
        have notTab : c ≠ '\x0b' := by simpa [BeginsWithoutTab] using begins
        simpa [isSpace, notTab] using space
      rw [List.dropWhile_cons_of_pos space, tokensOf_skip (skip?_of_mem_blanks blank rest)]
    | false => rw [List.dropWhile_cons_of_neg (by simp [space])]

/-- Whether a part of a statement has certain tokens, whatever ends it. -/
structure Scans (text : String) (parts : List Token) : Prop where
  isNulFree : IsNulFree text
  begins : BeginsWithoutTab text.toList
  tokensOf_append : ∀ {rest}, EndsToken rest →
    tokensOf (text.toList ++ rest) = parts ++ tokensOf rest

namespace Scans

theorem tokens_eq {text : String} {parts : List Token} (scans : Scans text parts) :
    tokens text = parts := by
  have notNul : ∀ c ∈ text.toList, decide (c ≠ '\x00') = true := by
    intro c member
    rw [decide_eq_true_iff]
    rintro rfl
    exact scans.isNulFree member
  have whole : (text.toList ++ []).takeWhile (· ≠ '\x00') = text.toList :=
    (takeWhile_append notNul rfl).1
  have ends : EndsToken [] := by simp [EndsToken]
  have all := scans.tokensOf_append ends
  rw [List.append_nil] at whole
  rw [List.append_nil, tokensOf_nil, List.append_nil] at all
  rw [tokens, whole, all]

end Scans

/-! ## The beginnings of tokens -/

/-- A character of a class is none of certain others that are not of it. -/
theorem ne_of_mem {isMember : Char → Bool} {others : List Char}
    (outside : others.all (fun c => !isMember c) = true) {first : Char}
    (inside : isMember first = true) : ∀ c ∈ others, first ≠ c := by
  rintro _ member rfl
  have notMember := List.all_eq_true.1 outside first member
  simp [inside] at notMember

theorem skip?_eq_none {first : Char} {rest : List Char}
    (solid : ∀ c ∈ blanks ++ ['\uFEFF', '-', '/'], first ≠ c) : skip? first rest = none := by
  have noBlank : first ∉ blanks := fun blank => solid first (List.mem_append_left _ blank) rfl
  unfold skip?
  rw [if_neg noBlank, if_neg (solid _ (by decide))]
  split
  · exact absurd rfl (solid '-' (by decide))
  · exact absurd rfl (solid '/' (by decide))
  · rfl

/-- The characters that begin quoted texts and blobs. -/
def special : List Char := ['\'', '"', '\x60', '[', 'x', 'X']

theorem readToken_of_ordinary {first : Char} {rest : List Char}
    (ordinary : ∀ c ∈ special, first ≠ c) :
    readToken first rest =
      if isWordStart first then readWord first rest
      else if IsDigit first ∨ first = '.' ∧ beginsWith (IsDigit ·) rest then readNumber first rest
      else if isSigil first then readParameter first rest
      else readMark first rest := by
  simp only [special, List.mem_cons, List.not_mem_nil, or_false, forall_eq_or_imp,
    forall_eq] at ordinary
  simp [readToken, ordinary]

/-! ## Words -/

/-- Whether a text is a keyword: capital letters, of which the first does not begin a blob. -/
def IsKeyword (text : String) : Prop :=
  text.toList ≠ [] ∧ text.toList.head? ≠ some 'X' ∧ text.toList.all Char.isUpper = true

instance (text : String) : Decidable (IsKeyword text) := inferInstanceAs (Decidable (_ ∧ _))

section Letters

variable {c : Char}

theorem isWordStart_of_isUpper (upper : c.isUpper = true) : isWordStart c = true := by
  simp [isWordStart, upper]

theorem isWordPart_of_isUpper (upper : c.isUpper = true) : isWordPart c = true := by
  rw [isWordPart, isWordStart_of_isUpper upper]
  rfl

theorem skip?_of_isUpper (upper : c.isUpper = true) (rest : List Char) : skip? c rest = none :=
  skip?_eq_none (ne_of_mem (by decide) upper)

theorem readToken_of_isUpper (upper : c.isUpper = true) (notBlob : c ≠ 'X') (rest : List Char) :
    readToken c rest = readWord c rest := by
  have capital : (c.isUpper && c ≠ 'X') = true := by simp [upper, notBlob]
  have ordinary : ∀ d ∈ special, c ≠ d :=
    @ne_of_mem (fun c => c.isUpper && c ≠ 'X') special (by decide) c capital
  rw [readToken_of_ordinary ordinary, if_pos (isWordStart_of_isUpper upper)]

end Letters

theorem Scans.word {text : String} (keyword : IsKeyword text) : Scans text [.word text] := by
  obtain ⟨nonempty, notBlob, capitals⟩ := keyword
  rw [List.all_eq_true] at capitals
  have whole : String.ofList text.toList = text := String.ofList_toList
  refine ⟨fun nul => absurd (capitals _ nul) (by decide),
    fun tab => absurd (capitals _ (List.mem_of_mem_head? tab)) (by decide), fun {rest} ends => ?_⟩
  obtain ⟨first, others, chars⟩ := List.exists_cons_of_ne_nil nonempty
  rw [chars] at notBlob capitals whole
  rw [chars, List.cons_append]
  obtain ⟨firstUpper, othersUpper⟩ := List.forall_mem_cons.1 capitals
  have stops : beginsWith isWordPart rest = false := ends.beginsWith (by decide)
  obtain ⟨taken, dropped⟩ :=
    takeWhile_append (fun c member => isWordPart_of_isUpper (othersUpper c member)) stops
  refine tokensOf_read (skip?_of_isUpper firstUpper _) ?_
  rw [readToken_of_isUpper firstUpper (by simpa using notBlob), readWord, taken, dropped, whole]

/-! ## Quoted texts -/

theorem mem_encode {mark c : Char} {text : List Char} : c ∈ Quoted.encode mark text ↔ c ∈ text := by
  induction text with
  | nil => rfl
  | cons d rest ih =>
    unfold Quoted.encode
    split <;> simp_all

section Quotes

variable {mark : Char} {text : String}

theorem skip?_quote (isQuote : mark = '\'' ∨ mark = '"') (rest : List Char) :
    skip? mark rest = none := by
  rcases isQuote with rfl | rfl <;> rfl

theorem Scans.quoteWith (isQuote : mark = '\'' ∨ mark = '"') (nulFree : IsNulFree text) :
    Scans (quoteWith mark text) [.quoted mark text] := by
  have chars : (RecordStore.quoteWith mark text).toList
      = mark :: Quoted.encode mark text.toList ++ [mark] := String.toList_ofList
  refine ⟨fun nul => ?_, ?_, fun {rest} ends => ?_⟩
  · rw [chars] at nul
    have inside : '\x00' ∈ text.toList := by
      rcases isQuote with rfl | rfl <;> simpa [mem_encode] using nul
    exact nulFree inside
  · rw [chars, BeginsWithoutTab]
    rcases isQuote with rfl | rfl <;> simp
  · -- A quote behind the closing one would be read as part of the text.
    have closes : Quoted.Closes mark rest := by
      intro again
      have separates := ends mark again
      rcases isQuote with rfl | rfl <;> contradiction
    have read := Quoted.decode_encode text.toList closes
    rw [chars, List.cons_append, List.cons_append, List.append_assoc]
    refine tokensOf_read (skip?_quote isQuote _) ?_
    rw [readToken, if_pos (by tauto), readQuoted]
    simp only [List.singleton_append, read, String.ofList_toList]

theorem Scans.name (nulFree : IsNulFree text) : Scans (quoteName text) [.name text] :=
  .quoteWith (.inr rfl) nulFree

theorem Scans.literal (nulFree : IsNulFree text) : Scans (quoteLiteral text) [.literal text] :=
  .quoteWith (.inl rfl) nulFree

end Quotes

/-! ## Numbers -/

/-- Digits, and maybe a point and more digits behind them. -/
inductive IsNumeral : List Char → Prop
  | whole {digits : List Char} (nonempty : digits ≠ []) (areDigits : ∀ c ∈ digits, IsDigit c) :
    IsNumeral digits
  | fraction {digits fraction : List Char} (nonempty : digits ≠ [])
    (areDigits : ∀ c ∈ digits, IsDigit c) (fractionDigits : ∀ c ∈ fraction, IsDigit c) :
    IsNumeral (digits ++ '.' :: fraction)

theorem IsNumeral.ne_nul {text : List Char} (numeral : IsNumeral text) : '\x00' ∉ text := by
  have noDigit : ¬ IsDigit '\x00' := by decide
  cases numeral with
  | whole _ areDigits => exact fun nul => noDigit (areDigits _ nul)
  | fraction _ areDigits fractionDigits =>
    simpa using ⟨fun nul => noDigit (areDigits _ nul), fun nul => noDigit (fractionDigits _ nul)⟩

theorem IsNumeral.beginsWithDigit {text : List Char} (numeral : IsNumeral text) :
    BeginsWithDigit text := by
  cases numeral with
  | whole nonempty areDigits => simpa using beginsWithDigit_append areDigits nonempty []
  | fraction nonempty areDigits _ => exact beginsWithDigit_append areDigits nonempty _

section Digits

variable {c : Char}

theorem IsDigit.isWordStart_eq_false (digit : IsDigit c) : isWordStart c = false := by
  have range : '0'.toNat ≤ c.toNat ∧ c.toNat ≤ '9'.toNat := by
    unfold IsDigit digitValue? at digit
    split at digit
    · next range => exact range
    · contradiction
  have digits : ∀ n ≤ '9'.toNat, '0'.toNat ≤ n → isWordStart (Char.ofNat n) = false := by decide
  rw [← Char.ofNat_toNat c]
  exact digits c.toNat range.2 range.1

theorem IsDigit.ne_of_mem {others : List Char}
    (outside : others.all (fun c => !decide (IsDigit c)) = true) (digit : IsDigit c) :
    ∀ d ∈ others, c ≠ d :=
  RecordStore.ne_of_mem outside (decide_eq_true digit)

theorem IsDigit.skip?_eq_none (digit : IsDigit c) (rest : List Char) : skip? c rest = none :=
  RecordStore.skip?_eq_none (ne_of_mem (by decide) digit)

theorem IsDigit.readToken_eq (digit : IsDigit c) (rest : List Char) :
    readToken c rest = readNumber c rest := by
  have ordinary : ∀ d ∈ special, c ≠ d := ne_of_mem (by decide) digit
  have noWord : ¬ isWordStart c = true := by simp [digit.isWordStart_eq_false]
  rw [readToken_of_ordinary ordinary, if_neg noWord, if_pos (.inl digit)]

end Digits

theorem EndsToken.afterExponent_eq {rest : List Char} (ends : EndsToken rest) :
    afterExponent rest = rest := by
  unfold afterExponent
  split
  · rfl
  · next c rest =>
    refine if_neg ?_
    rintro ⟨rfl | rfl, -⟩ <;> exact absurd (ends _ rfl) (by decide)

theorem EndsToken.afterFraction_eq {rest : List Char} (ends : EndsToken rest) :
    afterFraction rest = rest := by
  unfold afterFraction
  split
  · exact absurd (ends _ rfl) (by decide)
  · rfl

theorem beginsWith_eq_false {isMember isOther : Char → Bool} {rest : List Char}
    (stops : beginsWith isOther rest = false) (among : ∀ c, isMember c = true → isOther c = true) :
    beginsWith isMember rest = false := by
  cases rest with
  | nil => rfl
  | cons c rest =>
    have none : isOther c = false := stops
    by_contra member
    rw [among c (by simpa [beginsWith] using member)] at none
    contradiction

theorem isWordPart_of_isDigitPart (c : Char) (part : isDigitPart c = true) :
    isWordPart c = true := by
  rw [isDigitPart, Bool.or_eq_true, decide_eq_true_iff, decide_eq_true_iff] at part
  rcases part with digit | rfl
  · simp [isWordPart, digit]
  · rfl

/-- The digits of a number go on up to what is no part of a word. -/
theorem afterDigits_append {digits rest : List Char} (areDigits : ∀ c ∈ digits, IsDigit c)
    (stops : beginsWith isWordPart rest = false) : afterDigits (digits ++ rest) = rest :=
  (takeWhile_append (fun c member => by simp [isDigitPart, areDigits c member])
    (beginsWith_eq_false stops isWordPart_of_isDigitPart)).2

theorem afterNumber_digits {first : Char} {digits rest : List Char} (firstDigit : IsDigit first)
    (areDigits : ∀ c ∈ digits, IsDigit c) (stops : beginsWith isWordPart rest = false) :
    afterNumber first (digits ++ rest) = afterExponent (afterFraction rest) := by
  -- A zero and an X would begin a hexadecimal number.
  have noHex : beginsWith (· ∈ ['x', 'X']) (digits ++ rest) = false := by
    cases digits with
    | nil =>
      refine beginsWith_eq_false stops fun c mark => ?_
      simp only [List.mem_cons, List.not_mem_nil, or_false, decide_eq_true_eq] at mark
      rcases mark with rfl | rfl <;> rfl
    | cons c digits =>
      have digit := areDigits c List.mem_cons_self
      simp [beginsWith, digit.ne (by decide : ¬ IsDigit 'x'), digit.ne (by decide : ¬ IsDigit 'X')]
  rw [afterNumber, if_neg (firstDigit.ne (by decide)), if_neg (by rw [noHex]; tauto),
    afterDigits_append areDigits stops]

theorem IsNumeral.afterNumber_eq {first : Char} {others rest : List Char}
    (numeral : IsNumeral (first :: others)) (ends : EndsToken rest) :
    afterNumber first (others ++ rest) = rest := by
  have stops : beginsWith isWordPart rest = false := ends.beginsWith (by decide)
  generalize text : first :: others = chars at numeral
  cases numeral with
  | whole nonempty areDigits =>
    subst text
    obtain ⟨firstDigit, othersDigits⟩ := List.forall_mem_cons.1 areDigits
    rw [afterNumber_digits firstDigit othersDigits stops, ends.afterFraction_eq,
      ends.afterExponent_eq]
  | @fraction digits fraction nonempty areDigits fractionDigits =>
    obtain ⟨_, digits, rfl⟩ := List.exists_cons_of_ne_nil nonempty
    obtain ⟨rfl, rfl⟩ := List.cons.inj text
    obtain ⟨firstDigit, othersDigits⟩ := List.forall_mem_cons.1 areDigits
    rw [List.append_eq, List.append_assoc, afterNumber_digits firstDigit othersDigits rfl,
      List.cons_append, afterFraction, afterDigits_append fractionDigits stops,
      ends.afterExponent_eq]

theorem cut_append (front behind : List Char) :
    cut (front ++ behind) behind = String.ofList front := by
  simp [cut]

theorem Scans.number {text : String} (numeral : IsNumeral text.toList) :
    Scans text [.number text] := by
  obtain ⟨first, begins, digit⟩ := numeral.beginsWithDigit
  have notTab : first ≠ '\x0b' := digit.ne (by decide)
  refine ⟨numeral.ne_nul, by simpa [BeginsWithoutTab, Option.mem_def.1 begins] using notTab,
    fun {rest} ends => ?_⟩
  obtain ⟨others, chars⟩ := List.head?_eq_some_iff.1 begins
  have stops : beginsWith isWordPart rest = false := ends.beginsWith (by decide)
  have front : cut (text.toList ++ rest) rest = text := by
    rw [cut_append, String.ofList_toList]
  rw [chars] at numeral front ⊢
  refine tokensOf_read (digit.skip?_eq_none _) ?_
  rw [digit.readToken_eq, readNumber]
  simp only [List.append_eq, numeral.afterNumber_eq ends, stops]
  rw [← front]
  rfl

/-- A minus sign is a token unless it begins a comment or an arrow. -/
theorem tokensOf_minus {next : Char} (notMinus : next ≠ '-') (notArrow : next ≠ '>')
    (rest : List Char) : tokensOf ('-' :: next :: rest) = .mark "-" :: tokensOf (next :: rest) := by
  have shortest : operators.find? (fun operator => operator.isPrefixOf ('-' :: next :: rest))
      = some ['-'] := by
    have noArrow : ('>' == next) = false := beq_eq_false_iff_ne.2 notArrow.symm
    simp [operators, List.find?, List.isPrefixOf, noArrow]
  have isMark : readToken '-' (next :: rest) = readMark '-' (next :: rest) := rfl
  refine tokensOf_read ?_ ?_
  · simp [skip?, blanks, notMinus]
  · rw [isMark, readMark, shortest]
    rfl

theorem Scans.negative {text : String} {parts : List Token} (scans : Scans text parts)
    (begins : BeginsWithDigit text.toList) : Scans ("-" ++ text) (.mark "-" :: parts) := by
  obtain ⟨first, isFirst, digit⟩ := begins
  obtain ⟨others, chars⟩ := List.head?_eq_some_iff.1 isFirst
  have minus : ("-" ++ text).toList = '-' :: text.toList := by
    rw [String.toList_append]
    rfl
  refine ⟨?_, ?_, fun {rest} ends => ?_⟩
  · have inside := scans.isNulFree
    simp_all [IsNulFree]
  · simp [BeginsWithoutTab, minus]
  · have behind := scans.tokensOf_append ends
    rw [chars] at behind
    rw [minus, chars, List.cons_append, List.cons_append,
      tokensOf_minus (digit.ne (by decide)) (digit.ne (by decide)), List.cons_append, ← behind]
    rfl

/-! ## Separators -/

/-- Whether a text can stand between parts of a statement, with certain commas and parentheses as
its tokens. -/
def Separates (separator : String) (marks : List Token) : Prop :=
  separator.toList ≠ [] ∧ separator.toList.all (· ∈ separators) = true ∧
    (separator.toList.filter (· ∉ [' ', '\n'])).map (fun c => .mark (String.singleton c)) = marks

instance (separator : String) (marks : List Token) : Decidable (Separates separator marks) :=
  inferInstanceAs (Decidable (_ ∧ _))

theorem Separates.mem_separators {separator : String} {marks : List Token}
    (separates : Separates separator marks) : ∀ c ∈ separator.toList, c ∈ separators := by
  simpa using separates.2.1

theorem readToken_punctuation {c : Char} (punctuation : c = ',' ∨ c = '(' ∨ c = ')')
    (rest : List Char) :
    skip? c rest = none ∧ readToken c rest = (.mark (String.singleton c), rest) := by
  rcases punctuation with rfl | rfl | rfl <;> exact ⟨rfl, rfl⟩

section Separators

variable {separator : String} {marks : List Token}

theorem Separates.endsToken (separates : Separates separator marks) (rest : List Char) :
    EndsToken (separator.toList ++ rest) := by
  have each := separates.mem_separators
  obtain ⟨first, others, chars⟩ := List.exists_cons_of_ne_nil separates.1
  rw [chars] at each ⊢
  rintro _ ⟨⟩
  exact each first List.mem_cons_self

theorem Separates.isNulFree (separates : Separates separator marks) : IsNulFree separator :=
  fun nul => absurd (separates.mem_separators _ nul) (by decide)

/-- A separator has its tokens in front of whatever does not go on with its white space. -/
theorem Separates.tokensOf_append (separates : Separates separator marks) {rest : List Char}
    (begins : BeginsWithoutTab rest) :
    tokensOf (separator.toList ++ rest) = marks ++ tokensOf rest := by
  have each := separates.mem_separators
  obtain ⟨-, -, rfl⟩ := separates
  -- The induction is on the characters: a blank or a line break is skipped, any other is a token.
  generalize separator.toList = chars at each ⊢
  induction chars with
  | nil => rfl
  | cons c chars ih =>
    obtain ⟨first, others⟩ := List.forall_mem_cons.1 each
    simp only [separators, List.mem_cons, List.not_mem_nil, or_false] at first
    have ends : EndsToken chars := fun c member => others c (List.mem_of_mem_head? member)
    have goesOn : BeginsWithoutTab (chars ++ rest) := ends.beginsWithoutTab.append begins
    rw [List.cons_append]
    rcases first with rfl | rfl | punctuation
    · rw [tokensOf_skip (skip?_of_mem_blanks (by decide) _), tokensOf_dropWhile goesOn, ih others]
      rfl
    · rw [tokensOf_skip (skip?_of_mem_blanks (by decide) _), tokensOf_dropWhile goesOn, ih others]
      rfl
    · obtain ⟨kept, read⟩ := readToken_punctuation punctuation (chars ++ rest)
      rw [tokensOf_read kept read, ih others]
      rcases punctuation with rfl | rfl | rfl <;> rfl

end Separators

/-! ## Putting parts together -/

namespace Scans

variable {text text' separator : String} {parts parts' marks : List Token}

theorem append (scans : Scans text parts) (separates : Separates separator marks)
    (scans' : Scans text' parts') :
    Scans (text ++ separator ++ text') (parts ++ marks ++ parts') where
  isNulFree := by
    have first := scans.isNulFree
    have between := separates.isNulFree
    have last := scans'.isNulFree
    simp_all [IsNulFree]
  begins := by
    rw [String.toList_append, String.toList_append, List.append_assoc]
    exact scans.begins.append (separates.endsToken _).beginsWithoutTab
  tokensOf_append {rest} ends := by
    simp only [String.toList_append, List.append_assoc]
    rw [scans.tokensOf_append (separates.endsToken _),
      separates.tokensOf_append (scans'.begins.append ends.beginsWithoutTab),
      scans'.tokensOf_append ends]

theorem empty : Scans "" [] := ⟨by decide, nofun, fun _ => rfl⟩

theorem before (scans : Scans text parts) (separates : Separates separator marks) :
    Scans (text ++ separator) (parts ++ marks) := by
  simpa using scans.append separates empty

/-- A blank leaves no token between two parts. -/
theorem spaced (scans : Scans text parts) (scans' : Scans text' parts') :
    Scans (text ++ " " ++ text') (parts ++ parts') := by
  have blank : Separates " " [] := by decide
  simpa using scans.append blank scans'

theorem intercalate (separates : Separates separator marks) {texts : List String}
    {tokens : List (List Token)} (each : List.Forall₂ Scans texts tokens) :
    Scans (separator.intercalate texts) (marks.intercalate tokens) := by
  induction each with
  | nil => exact empty
  | cons first others ih =>
    cases others with
    | nil => simpa using first
    | cons next others =>
      rw [String.intercalate_cons_cons, List.intercalate_cons_cons]
      exact first.append separates ih

theorem forall₂_map {Part : Type} {text : Part → String} {tokens : Part → List Token}
    {parts : List Part} (each : ∀ part ∈ parts, Scans (text part) (tokens part)) :
    List.Forall₂ Scans (parts.map text) (parts.map tokens) := by
  simpa [List.forall₂_map_left_iff, List.forall₂_map_right_iff, List.forall₂_same] using each

theorem words (words : List String) (keywords : ∀ word ∈ words, IsKeyword word) :
    Scans (" ".intercalate words) (words.map .word) := by
  induction words with
  | nil => exact empty
  | cons first rest ih =>
    obtain ⟨firstKeyword, others⟩ := List.forall_mem_cons.1 keywords
    cases rest with
    | nil => exact word firstKeyword
    | cons next rest =>
      rw [String.intercalate_cons_cons]
      exact (word firstKeyword).spaced (ih others)

end Scans

/-- Whether a text adds certain tokens to everything that it stands behind. -/
def Adds (text : String) (parts : List Token) : Prop :=
  ∀ {front : String} {before : List Token},
    Scans front before → Scans (front ++ text) (before ++ parts)

theorem Adds.nothing : Adds "" [] := fun scans => by simpa using scans

theorem Scans.adds {text : String} {parts : List Token} (scans : Scans text parts) :
    Adds (" " ++ text) parts := by
  intro front before scansFront
  rw [← String.append_assoc]
  exact scansFront.spaced scans

end RecordStore
