/-!
# Integers within a range

Reading the decimal text of an integer, with its bounds, and narrowing an integer to 32 or 64 bits.

* `int32?_eq_some` and `int64?_eq_some` say that narrowing succeeds just on the integers a word
  holds.
-/

namespace RecordStore

/-! ## Narrowing -/

/-- The 32-bit word of an integer in its range. -/
def int32? (n : Int) : Option Int32 :=
  if -(Nat.pow 2 31 : Int) ≤ n ∧ n < Nat.pow 2 31 then some (Int32.ofInt n) else none

/-- The 64-bit word of an integer in its range. -/
def int64? (n : Int) : Option Int64 :=
  if -(Nat.pow 2 63 : Int) ≤ n ∧ n < Nat.pow 2 63 then some (Int64.ofInt n) else none

theorem int32?_eq_some {n : Int} {w : Int32} : int32? n = some w ↔ w.toInt = n := by
  unfold int32?
  constructor
  · intro h
    split at h
    · rename_i hn
      cases h
      exact Int32.toInt_ofInt_of_le hn.1 hn.2
    · contradiction
  · rintro rfl
    rw [if_pos ⟨Int32.le_toInt w, Int32.toInt_lt w⟩, Int32.ofInt_toInt]

theorem int64?_eq_some {n : Int} {w : Int64} : int64? n = some w ↔ w.toInt = n := by
  unfold int64?
  constructor
  · intro h
    split at h
    · rename_i hn
      cases h
      exact Int64.toInt_ofInt_of_le hn.1 hn.2
    · contradiction
  · rintro rfl
    rw [if_pos ⟨Int64.le_toInt w, Int64.toInt_lt w⟩, Int64.ofInt_toInt]

/-! ## Reading -/

/-- The value of an ASCII digit. -/
def digitValue? (c : Char) : Option Nat :=
  if '0' ≤ c ∧ c ≤ '9' then some (c.toNat - '0'.toNat) else none

/-- The bounds of an integer type. -/
structure IntegerRange where
  low : Int
  high : Int

namespace IntegerRange

def signed64 : IntegerRange := ⟨-(Nat.pow 2 63 : Int), (Nat.pow 2 63 : Int) - 1⟩
def unsigned64 : IntegerRange := ⟨0, (Nat.pow 2 64 : Int) - 1⟩
def unsigned32 : IntegerRange := ⟨0, (Nat.pow 2 32 : Int) - 1⟩

end IntegerRange

inductive IntegerFault where
  | empty
  | invalidDigit
  | tooLarge
  | tooSmall
deriving DecidableEq

def IntegerFault.message : IntegerFault → String
  | .empty => "cannot parse integer from empty string"
  | .invalidDigit => "invalid digit found in string"
  | .tooLarge => "number too large to fit in target type"
  | .tooSmall => "number too small to fit in target type"

/-- Reads digits after the number read so far; the first character that is no digit or that leaves
the range decides the fault. -/
def IntegerRange.readDigits (range : IntegerRange) (negative : Bool) (acc : Int) :
    List Char → Except IntegerFault Int
  | [] => .ok acc
  | c :: rest =>
    match digitValue? c with
    | none => .error .invalidDigit
    | some d =>
      let next := if negative then 10 * acc - d else 10 * acc + d
      if range.high < next then .error .tooLarge
      else if next < range.low then .error .tooSmall
      else range.readDigits negative next rest

/-- Reads an integer: an optional sign and at least one digit.  A minus sign counts as a sign only in
a range with negative numbers. -/
def IntegerRange.read (range : IntegerRange) : List Char → Except IntegerFault Int
  | [] => .error .empty
  | ['+'] => .error .invalidDigit
  | ['-'] => .error .invalidDigit
  | '+' :: digits => range.readDigits false 0 digits
  | '-' :: digits =>
    if range.low < 0 then range.readDigits true 0 digits else .error .invalidDigit
  | digits => range.readDigits false 0 digits

end RecordStore
