import RecordStore.Value.Basic

/-!
# Comparing values

`Value.compare?` compares two values that are not null: truth values, moments, texts by their code
points, and numbers of any kinds.  Integers and decimals are compared exactly; a double is compared
with another number as a double.

* `Value.same` is the equality of filters: null is the same as null only.
* `Value.sortOrder` is the order of rows: null comes first, and values that do not compare tie.
-/

namespace RecordStore.Value

/-- A decimal beside a value that is no decimal. -/
def compareDecimal? (x : Decimal) (v : Value) : Option Ordering :=
  match v with
  | .int n => some (x.compare (Decimal.ofInt64 n.toInt64))
  | .bigInt n => some (x.compare (Decimal.ofInt64 n))
  | v => v.toDouble?.bind fun y => x.toDouble.compare? y

/-- The order of two values, if neither is null and their kinds compare. -/
def compare? : Value → Value → Option Ordering
  | .null, _ => none
  | _, .null => none
  | .bool a, .bool b => some (compare a b)
  | .dateTime s, .dateTime t => some (s.compare t)
  | .decimal x, .decimal y => some (x.compare y)
  | .decimal x, b => compareDecimal? x b
  | a, .decimal y => (compareDecimal? y a).map Ordering.swap
  -- Texts and variants compare as texts, integers exactly, and any other numbers as doubles.
  | a, b =>
    match a.text?, b.text? with
    | some s, some t => some (compare s t)
    | _, _ =>
      match a.integer?, b.integer? with
      | some m, some n => some (compare m n)
      | _, _ =>
        match a.toDouble?, b.toDouble? with
        | some x, some y => x.compare? y
        | _, _ => none

/-- Equality as filters see it. -/
def same (a b : Value) : Bool := (a.isNull && b.isNull) || a.compare? b == some .eq

def sortOrder (a b : Value) : Ordering :=
  match a.isNull, b.isNull with
  | true, true => .eq
  | true, false => .lt
  | false, true => .gt
  | false, false => (a.compare? b).getD .eq

end RecordStore.Value
