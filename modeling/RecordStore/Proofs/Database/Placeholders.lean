import RecordStore.Proofs.RoundTrip.Digits
import RecordStore.Sql.Clause

/-! # Placeholders in the text of a clause

A database finds the placeholders of a statement in its text.  `placeholders` does the same: it goes
through the text, passes over quoted names, and reads the digits behind every question mark.

A name may hold anything, question marks, digits and quotes included.  `Clause.placeholders_text`
says that nevertheless the placeholders of a text are those of its clause, in the same order.
-/

namespace RecordStore

/-! ## Going through a text -/

/-- What a character of a statement belongs to. -/
inductive Lexeme where
  | name
  /-- A placeholder, with its number so far. -/
  | placeholder (number : Nat)
  | other

/-- What a character outside of names and numbers begins. -/
def Lexeme.begin (c : Char) : Lexeme :=
  if c = '"' then .name else if c = '?' then .placeholder 0 else .other

/-- The numbers of the placeholders in a text that is entered within a lexeme. -/
def placeholdersFrom : Lexeme → List Char → List Nat
  | .placeholder number, [] => [number]
  | .name, [] => []
  | .other, [] => []
  -- A quote that is written twice ends the name and begins it again.
  | .name, c :: rest => placeholdersFrom (if c = '"' then .other else .name) rest
  | .placeholder number, c :: rest =>
    match digitValue? c with
    | some digit => placeholdersFrom (.placeholder (10 * number + digit)) rest
    | none => number :: placeholdersFrom (.begin c) rest
  | .other, c :: rest => placeholdersFrom (.begin c) rest

/-- The numbers of the placeholders in a text, outside of quoted names. -/
def placeholders (text : String) : List Nat := placeholdersFrom .other text.toList

theorem placeholdersFrom_encode (name rest : List Char) :
    placeholdersFrom .name (Quoted.encode '"' name ++ '"' :: rest)
      = placeholdersFrom .other rest := by
  induction name with
  | nil => simp [Quoted.encode, placeholdersFrom]
  | cons c name ih =>
    unfold Quoted.encode
    split
    · simpa [placeholdersFrom, Lexeme.begin] using ih
    · next inside => simpa [placeholdersFrom, inside] using ih

theorem placeholdersFrom_digits {digits : List Char} (areDigits : ∀ c ∈ digits, IsDigit c)
    (number : Nat) (rest : List Char) :
    placeholdersFrom (.placeholder number) (digits ++ rest)
      = placeholdersFrom (.placeholder (digitsValue number digits)) rest := by
  induction digits generalizing number with
  | nil => rfl
  | cons c digits ih =>
    rw [List.forall_mem_cons] at areDigits
    obtain ⟨digit, value⟩ := Option.isSome_iff_exists.1 areDigits.1
    rw [List.cons_append, placeholdersFrom, digitsValue_cons]
    simp only [value, Option.getD_some]
    exact ih areDigits.2 _

/-! ## Texts with their placeholders -/

/-- Whether a number that stands in front of a text ends there. -/
def EndsNumber (text : List Char) : Prop := ∀ c, text.head? = some c → ¬ IsDigit c

theorem placeholdersFrom_of_endsNumber {number : Nat} {rest : List Char}
    (ends : EndsNumber rest) :
    placeholdersFrom (.placeholder number) rest = number :: placeholdersFrom .other rest := by
  cases rest with
  | nil => rfl
  | cons c rest =>
    have noDigit : digitValue? c = none := by simpa [IsDigit] using ends c rfl
    rw [placeholdersFrom]
    simp only [noDigit]
    rfl

/-- Whether a text has certain placeholders, whatever stands behind it, digits excepted. -/
def HasPlaceholders (text : String) (numbers : List Nat) : Prop :=
  ∀ rest, EndsNumber rest →
    placeholdersFrom .other (text.toList ++ rest) = numbers ++ placeholdersFrom .other rest

/-- Whether a text has neither quotes nor question marks. -/
def IsPlainText (text : String) : Prop := (text.toList.all fun c => c != '"' && c != '?') = true

instance (text : String) : Decidable (IsPlainText text) := inferInstanceAs (Decidable (_ = true))

theorem isPlainText_iff {text : String} :
    IsPlainText text ↔ ∀ c ∈ text.toList, c ≠ '"' ∧ c ≠ '?' := by
  simp [IsPlainText]

/-- Whether a plain text can stand behind a placeholder. -/
def IsSeparator (text : String) : Prop :=
  IsPlainText text ∧ text.toList.head?.any (fun c => (digitValue? c).isNone) = true

instance (text : String) : Decidable (IsSeparator text) := inferInstanceAs (Decidable (_ ∧ _))

section Texts

variable {text text' front separator : String} {numbers numbers' : List Nat}

theorem IsPlainText.placeholdersFrom_append (plain : IsPlainText text) (rest : List Char) :
    placeholdersFrom .other (text.toList ++ rest) = placeholdersFrom .other rest := by
  rw [isPlainText_iff] at plain
  generalize text.toList = text at plain ⊢
  induction text with
  | nil => rfl
  | cons c text ih =>
    obtain ⟨⟨notQuote, notMark⟩, others⟩ := List.forall_mem_cons.1 plain
    rw [List.cons_append, placeholdersFrom, Lexeme.begin, if_neg notQuote, if_neg notMark]
    exact ih others

theorem IsPlainText.hasPlaceholders (plain : IsPlainText text) : HasPlaceholders text [] :=
  fun rest _ => plain.placeholdersFrom_append rest

theorem IsSeparator.endsNumber (separates : IsSeparator separator) (rest : List Char) :
    EndsNumber (separator.toList ++ rest) := by
  obtain ⟨-, begins⟩ := separates
  generalize separator.toList = separator at begins ⊢
  cases separator with
  | nil => contradiction
  | cons first others =>
    rintro _ ⟨⟩
    simpa [IsDigit] using begins

namespace HasPlaceholders

theorem behind (has : HasPlaceholders text numbers) (plain : IsPlainText front) :
    HasPlaceholders (front ++ text) numbers := by
  intro rest ends
  rw [String.toList_append, List.append_assoc, plain.placeholdersFrom_append, has rest ends]

theorem append (has : HasPlaceholders text numbers) (separates : IsSeparator separator)
    (has' : HasPlaceholders text' numbers') :
    HasPlaceholders (text ++ separator ++ text') (numbers ++ numbers') := by
  intro rest ends
  simp only [String.toList_append, List.append_assoc]
  rw [has _ (separates.endsNumber _), separates.1.placeholdersFrom_append, has' rest ends]

theorem before (has : HasPlaceholders text numbers) (separates : IsSeparator separator) :
    HasPlaceholders (text ++ separator) numbers := by
  have nothing : IsPlainText "" := by decide
  simpa using has.append separates nothing.hasPlaceholders

theorem intercalate {Part : Type} {text : Part → String} {numbers : Part → List Nat}
    (separates : IsSeparator separator) {parts : List Part}
    (each : ∀ part ∈ parts, HasPlaceholders (text part) (numbers part)) :
    HasPlaceholders (separator.intercalate (parts.map text)) (parts.flatMap numbers) := by
  induction parts with
  | nil => exact (show IsPlainText "" by decide).hasPlaceholders
  | cons part rest ih =>
    obtain ⟨first, others⟩ := List.forall_mem_cons.1 each
    cases rest with
    | nil => simpa using first
    | cons next rest =>
      rw [List.map_cons, List.map_cons, String.intercalate_cons_cons, List.flatMap_cons]
      exact first.append separates (ih others)

end HasPlaceholders

end Texts

/-! ## Scalars -/

namespace Scalar

/-- The numbers of the placeholders of a scalar, from the left to the right. -/
def numbers : Scalar → List Nat
  | .column _ => []
  | .placeholder number => [number]
  | .literal _ => []
  | .lower operand => operand.numbers
  | .length operand => operand.numbers
  | .instr subject pattern => subject.numbers ++ pattern.numbers
  | .front subject size => subject.numbers ++ size.numbers
  | .back subject size => subject.numbers ++ size.numbers

theorem hasPlaceholders : ∀ scalar : Scalar, HasPlaceholders scalar.text scalar.numbers
  | .column name => by
    intro rest _
    have quoted := placeholdersFrom_encode name.toList rest
    simpa [text, quoteName, quoteWith, placeholdersFrom, Lexeme.begin, numbers] using quoted
  | .placeholder number => by
    intro rest ends
    obtain ⟨value, areDigits⟩ := toDigits_spec number
    have written : (toString number).toList = Nat.toDigits 10 number := Nat.toList_repr
    have read := placeholdersFrom_digits areDigits 0 rest
    rw [value, placeholdersFrom_of_endsNumber ends] at read
    rw [text, String.toList_append, written]
    exact read
  | .literal value => by
    have plain : IsPlainText (toString value) := by
      refine isPlainText_iff.2 fun c member => ?_
      have digit : IsDigit c := (toDigits_spec value).2 c (Nat.toList_repr ▸ member)
      exact ⟨digit.ne (by decide), digit.ne (by decide)⟩
    exact plain.hasPlaceholders
  | .lower operand | .length operand =>
    (operand.hasPlaceholders.behind (by decide)).before (by decide)
  | .instr subject pattern =>
    ((subject.hasPlaceholders.behind (by decide)).append (by decide)
      pattern.hasPlaceholders).before (by decide)
  | .front subject size | .back subject size =>
    ((subject.hasPlaceholders.behind (by decide)).append (by decide)
      size.hasPlaceholders).before (by decide)

end Scalar

/-! ## Clauses -/

namespace Clause

theorem hasPlaceholders_listText (items : List Scalar) :
    HasPlaceholders (listText items) (items.flatMap Scalar.numbers) :=
  ((HasPlaceholders.intercalate (by decide) fun item _ => item.hasPlaceholders).behind
    (by decide)).before (by decide)

mutual

/-- The numbers of the placeholders of a clause, from the left to the right. -/
def numbers : Clause → List Nat
  | .constant _ => []
  | .compare _ a b => a.numbers ++ b.numbers
  | .isNull operand => operand.numbers
  | .isNotNull operand => operand.numbers
  | .among operand items => operand.numbers ++ items.flatMap Scalar.numbers
  | .notAmong operand items => operand.numbers ++ items.flatMap Scalar.numbers
  | .orFalse clause => clause.numbers
  | .all members => numbersOfAll members
  | .any members => numbersOfAll members
  | .negation clause => clause.numbers
  | .group clause => clause.numbers

def numbersOfAll : List Clause → List Nat
  | [] => []
  | member :: rest => member.numbers ++ numbersOfAll rest

end

theorem texts_eq_map (members : List Clause) : texts members = members.map text := by
  induction members with
  | nil => rfl
  | cons member rest ih => rw [texts, ih, List.map_cons]

theorem numbersOfAll_eq_flatMap (members : List Clause) :
    numbersOfAll members = members.flatMap numbers := by
  induction members with
  | nil => rfl
  | cons member rest ih => rw [numbersOfAll, ih, List.flatMap_cons]

mutual

theorem hasPlaceholders : ∀ clause : Clause, HasPlaceholders clause.text clause.numbers
  | .constant value => by
    cases value
    · exact IsPlainText.hasPlaceholders (show IsPlainText "0" by decide)
    · exact IsPlainText.hasPlaceholders (show IsPlainText "1" by decide)
  | .compare comparison a b => by
    have separates : IsSeparator (" " ++ comparison.symbol ++ " ") := by
      cases comparison <;> decide
    have both := a.hasPlaceholders.append separates b.hasPlaceholders
    simpa only [text, numbers, String.append_assoc] using both
  | .isNull operand | .isNotNull operand => operand.hasPlaceholders.before (by decide)
  | .among operand items | .notAmong operand items =>
    operand.hasPlaceholders.append (by decide) (hasPlaceholders_listText items)
  | .orFalse clause | .group clause =>
    (clause.hasPlaceholders.behind (by decide)).before (by decide)
  | .all members | .any members => by
    rw [text, numbers, texts_eq_map, numbersOfAll_eq_flatMap]
    exact .intercalate (by decide) (hasPlaceholders_each members)
  | .negation clause => clause.hasPlaceholders.behind (by decide)

theorem hasPlaceholders_each : ∀ members : List Clause,
    ∀ member ∈ members, HasPlaceholders member.text member.numbers
  | [] => by simp
  | member :: rest => List.forall_mem_cons.2 ⟨member.hasPlaceholders, hasPlaceholders_each rest⟩

end

/-- The placeholders in the text of a clause are those of the clause. -/
theorem placeholders_text (clause : Clause) : placeholders clause.text = clause.numbers := by
  have all := clause.hasPlaceholders [] (by simp [EndsNumber])
  rwa [List.append_nil, placeholdersFrom, List.append_nil] at all

end Clause

end RecordStore
