import RecordStore.Error

/-!
# Aggregates of a field

A `Selector` reduces one field of a list of records to a value.  Null values do not count.  Sums of
integers are 64-bit integers, whatever the field's width; averages are doubles, or decimals for
decimals; the least and the greatest value keep the field's kind.  Over no values every aggregate but
the count is null.
-/

namespace RecordStore

/-- An aggregate function. -/
inductive Selector where
  | count
  | average
  | sum
  | minimum
  | maximum
deriving DecidableEq

namespace Selector

/-- Every selector, in the order in which they are computed. -/
def all : List Selector := [.count, .average, .sum, .minimum, .maximum]

def key : Selector → String
  | .count => "_count"
  | .average => "_avg"
  | .sum => "_sum"
  | .minimum => "_min"
  | .maximum => "_max"

def ofKey? (key : String) : Option Selector := all.find? fun selector => selector.key = key

/-- The pseudo-field under which records are counted, and not values. -/
def everyRecord : String := "_all"

/-- Whether a kind of field can be reduced by a selector. -/
def supports : Selector → FieldKind → Bool
  | .count, _ => true
  | .average, kind => kind.isNumeric
  | .sum, kind => kind.isNumeric
  | .minimum, kind => kind.isOrdered
  | .maximum, kind => kind.isOrdered

/-- Refuses a field that cannot be reduced by a selector. -/
def check (selector : Selector) (field : Field) : Except ValidationError Unit :=
  if selector.supports field.kind then .ok ()
  else .error (.invalidAggregate selector.key field.name (.unsupportedKind field.kind))

/-- The kind of the values that a selector makes of a kind of field. -/
def resultKind : Selector → FieldKind → FieldKind
  | .count, _ => .bigInt
  | .average, .decimal => .decimal
  | .average, _ => .float
  | .sum, .int => .bigInt
  | .sum, kind => kind
  | .minimum, kind => kind
  | .maximum, kind => kind

/-! ## Reduction -/

/-- A count, as an integer of the narrowest width that holds it. -/
def countValue (n : Nat) : Value :=
  ((int32? n).map .int).getD (((int64? n).map .bigInt).getD (.bigInt Int64.maxValue))

/-- Adds integers one after the other; there is no sum when a partial sum leaves 64 bits. -/
def sumIntegers? (total : Int) : List Value → Option Int
  | [] => some total
  | value :: rest =>
    match value.integer? with
    | none => none
    | some n => if (int64? (total + n)).isSome then sumIntegers? (total + n) rest else none

/-- Adds decimals one after the other. -/
def sumDecimals? (total : Decimal) : List Value → Option Decimal
  | [] => some total
  | .decimal x :: rest =>
    match total.add? x with
    | some total => sumDecimals? total rest
    | none => none
  | _ :: rest => sumDecimals? total rest

/-- Adds doubles one after the other. -/
def sumDoubles (total : Double) : List Value → Double
  | [] => total
  | value :: rest =>
    match value.toDouble? with
    | some x => sumDoubles (total + x) rest
    | none => sumDoubles total rest

/-- The sum of values, none of them null, of which the first is `head`. -/
def sumValues (field : String) (head : Value) (values : List Value) : Except StoreError Value :=
  let orOverflow (result : Option Value) : Except StoreError Value :=
    match result with
    | some value => .ok value
    | none => .error (.query (.sumOverflow field))
  match head with
  | .int _ => orOverflow (((sumIntegers? 0 values).bind int64?).map .bigInt)
  | .bigInt _ => orOverflow (((sumIntegers? 0 values).bind int64?).map .bigInt)
  | .decimal _ => orOverflow ((sumDecimals? .zero values).map .decimal)
  | _ => .ok (.float (sumDoubles (-Double.zero) values))

/-- The average of values, given their sum. -/
def averageOf (field : String) (count : Nat) (total : Value) : Except StoreError Value :=
  match total with
  | .decimal total =>
    match (Decimal.ofCount? count).bind total.div? with
    | some x => .ok (.decimal x)
    | none => .error (.query (.averageOverflow field))
  | total =>
    match total.toDouble? with
    | some total => .ok (.float (total / Double.ofNat count))
    | none => .ok .null

/-- The first value that no other one exceeds in a direction. -/
def extreme (wanted : Ordering) (best : Value) : List Value → Value
  | [] => best
  | value :: rest =>
    extreme wanted (if value.compare? best == some wanted then value else best) rest

/-- The value of a selector on a field of records. -/
def compute (selector : Selector) (field : String) (records : List Record) :
    Except StoreError Value :=
  let values := (records.map fun record => record.valueAt field).filter fun value => !value.isNull
  match selector with
  | .count => .ok (countValue (if field = everyRecord then records.length else values.length))
  | selector =>
    match values with
    | [] => .ok .null
    | head :: rest =>
      match selector with
      | .count => .ok (countValue values.length)
      | .sum => sumValues field head values
      | .average => do averageOf field values.length (← sumValues field head values)
      | .minimum => .ok (extreme .lt head rest)
      | .maximum => .ok (extreme .gt head rest)

end Selector

end RecordStore
