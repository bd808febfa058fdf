import RecordStore.Number.Integer
import RecordStore.Proofs.Comparison.Moments

/-! # Digits are read as the number that they write

`digitsValue` is the number that digits stand for behind a number read so far.  Numbers are written
with or without zeros in front, and either way their digits stand for them.
-/

namespace RecordStore

def IsDigit (c : Char) : Prop := (digitValue? c).isSome = true

instance (c : Char) : Decidable (IsDigit c) :=
  inferInstanceAs (Decidable ((digitValue? c).isSome = true))

theorem IsDigit.ne {c other : Char} (digit : IsDigit c) (notDigit : ¬ IsDigit other) :
    c ≠ other := by
  rintro rfl
  exact notDigit digit

/-- The number that digits stand for, behind a number read so far. -/
def digitsValue (acc : Nat) (digits : List Char) : Nat :=
  digits.foldl (fun acc c => 10 * acc + (digitValue? c).getD 0) acc

@[simp] theorem digitsValue_nil (acc : Nat) : digitsValue acc [] = acc := rfl

@[simp] theorem digitsValue_cons (acc : Nat) (c : Char) (digits : List Char) :
    digitsValue acc (c :: digits) = digitsValue (10 * acc + (digitValue? c).getD 0) digits := rfl

@[simp] theorem digitsValue_append (acc : Nat) (digits others : List Char) :
    digitsValue acc (digits ++ others) = digitsValue (digitsValue acc digits) others :=
  List.foldl_append

theorem le_digitsValue (acc : Nat) (digits : List Char) : acc ≤ digitsValue acc digits := by
  induction digits generalizing acc with
  | nil => exact le_rfl
  | cons c rest ih =>
    have more := ih (10 * acc + (digitValue? c).getD 0)
    rw [digitsValue_cons]
    omega

/-! ## Written digits -/

theorem digitValue?_digitChar {n : Nat} (small : n < 10) : digitValue? n.digitChar = some n := by
  have digits : ∀ n < 10, digitValue? (Nat.digitChar n) = some n := by decide
  exact digits n small

theorem isDigit_digitChar {n : Nat} (small : n < 10) : IsDigit n.digitChar := by
  rw [IsDigit, digitValue?_digitChar small]
  rfl

theorem isDigit_zero : IsDigit '0' := by decide

theorem toDigits_spec (n : Nat) :
    digitsValue 0 (Nat.toDigits 10 n) = n ∧ ∀ c ∈ Nat.toDigits 10 n, IsDigit c := by
  induction n using Nat.strongRecOn with
  | ind n ih =>
    by_cases small : n < 10
    · rw [Nat.toDigits_of_lt_base small]
      refine ⟨by simp [digitValue?_digitChar small], ?_⟩
      simpa using isDigit_digitChar small
    · have last : n % 10 < 10 := Nat.mod_lt n (by decide)
      obtain ⟨value, digits⟩ := ih (n / 10) (by omega)
      rw [Nat.toDigits_of_base_le (by decide) (Nat.le_of_not_lt small)]
      constructor
      · simp only [digitsValue_append, value, digitsValue_cons, digitsValue_nil,
          digitValue?_digitChar last, Option.getD_some]
        omega
      · intro c member
        rcases List.mem_append.1 member with inFront | isLast
        · exact digits c inFront
        · rw [List.mem_singleton.1 isLast]
          exact isDigit_digitChar last

/-! ## Signs -/

/-- Whether a text begins with a digit. -/
def BeginsWithDigit (text : List Char) : Prop := ∃ c ∈ text.head?, IsDigit c

theorem beginsWithDigit_append {digits : List Char} (areDigits : ∀ c ∈ digits, IsDigit c)
    (nonempty : digits ≠ []) (rest : List Char) : BeginsWithDigit (digits ++ rest) := by
  obtain ⟨first, others, rfl⟩ := List.exists_cons_of_ne_nil nonempty
  exact ⟨first, rfl, areDigits first List.mem_cons_self⟩

theorem beginsWithDigit_toDigits (n : Nat) : BeginsWithDigit (Nat.toDigits 10 n) := by
  simpa using beginsWithDigit_append (toDigits_spec n).2 Nat.toDigits_ne_nil []

/-- A sign is told apart from the digits behind it. -/
theorem sign_append_inj {p q : Option Char} {a b : List Char} (signP : ∀ c ∈ p, ¬ IsDigit c)
    (signQ : ∀ c ∈ q, ¬ IsDigit c) (digitA : BeginsWithDigit a) (digitB : BeginsWithDigit b)
    (same : p.toList ++ a = q.toList ++ b) : p = q ∧ a = b := by
  obtain ⟨c, firstA, digitC⟩ := digitA
  obtain ⟨d, firstB, digitD⟩ := digitB
  have heads := congrArg List.head? same
  cases p with
  | none =>
    cases q with
    | none => exact ⟨rfl, same⟩
    | some sign =>
      obtain rfl : c = sign := by simpa [Option.mem_def.1 firstA] using heads
      exact absurd digitC (signQ c rfl)
  | some sign =>
    cases q with
    | none =>
      obtain rfl : sign = d := by simpa [Option.mem_def.1 firstB] using heads
      exact absurd digitD (signP sign rfl)
    | some other =>
      obtain ⟨rfl, rest⟩ := List.cons.inj same
      exact ⟨rfl, rest⟩

theorem minus_append_inj {p q : Bool} {a b : List Char} (digitA : BeginsWithDigit a)
    (digitB : BeginsWithDigit b)
    (same : (if p then ['-'] else []) ++ a = (if q then ['-'] else []) ++ b) : p = q ∧ a = b := by
  have minus : ∀ negative : Bool, (if negative then ['-'] else [])
      = (if negative then some '-' else none : Option Char).toList := by decide
  have isSign : ∀ negative : Bool, ∀ c ∈ (if negative then some '-' else none : Option Char),
      ¬ IsDigit c := by
    intro negative c sign
    cases negative <;> simp at sign
    subst sign
    decide
  rw [minus, minus] at same
  obtain ⟨signs, texts⟩ := sign_append_inj (isSign p) (isSign q) digitA digitB same
  exact ⟨by revert signs; cases p <;> cases q <;> decide, texts⟩

/-! ## Padded numbers -/

namespace Timestamp

variable (width n : Nat)

theorem isDigit_of_mem_padded : ∀ c ∈ padded width n, IsDigit c := by
  intro c member
  rcases List.mem_append.1 member with zero | digit
  · rw [List.eq_of_mem_replicate zero]
    exact isDigit_zero
  · exact (toDigits_spec n).2 c digit

theorem digitsValue_padded : digitsValue 0 (padded width n) = n := by
  have zeros : ∀ count, digitsValue 0 (List.replicate count '0') = 0 := by
    intro count
    induction count with
    | zero => rfl
    | succ count ih => rwa [List.replicate_succ, digitsValue_cons]
  simp only [padded, digitsValue_append, zeros, (toDigits_spec n).1]

theorem le_length_padded : width ≤ (padded width n).length := by
  simp only [padded, List.length_append, List.length_replicate]
  omega

end Timestamp

end RecordStore
