import RecordStore.Json.Writer
import RecordStore.Schema.Kind
import RecordStore.Text.Blank
import RecordStore.Time.Reader
import RecordStore.Value.Basic

/-!
# Coercion

`Value.coerce` takes a JSON value for a value of a kind, or says what was expected and what was found
instead.  Null is a value of every kind here; whether a field may be null is decided by its owner.

A number is an integer when it is written as one that fits 64 bits, or when it is a double that is
whole and at most `2 ^ 53 - 1` in absolute value, so that no digit was lost on the way.
-/

namespace RecordStore

/-- Why a JSON value is no value of a kind. -/
structure Mismatch where
  expected : String
  found : String
deriving DecidableEq

/-- The greatest integer up to which doubles hold every integer. -/
def maxExactInteger : Nat := Nat.pow 2 53 - 1

namespace Json

/-- The integer that a JSON number denotes without doubt. -/
def wholeNumber? : Json → Option Int64
  | .int n => int64? n
  -- Beyond the exact integers a double may stand for a neighbour of the integer that was meant.
  | .float x =>
    match x.integer? with
    | some n => if n.natAbs ≤ maxExactInteger then int64? n else none
    | none => none
  | _ => none

/-- What a JSON value is, for a message. -/
def description : Json → String
  | .null => "null"
  | .bool _ => "boolean"
  | .int n => if (int64? n).isSome then "integer" else "integer (out of range)"
  | .float x =>
    match x.integer? with
    | none => "fractional number"
    | some n => if maxExactInteger < n.natAbs then "imprecise number" else "number"
  | .str _ => "string"
  | .arr _ => "list"
  | .obj _ => "object"

/-- The text that a decimal is read from: that of a number, or a string without the white space at
its ends. -/
def decimalText? : Json → Option (List Char)
  | .int n => some (toString n).toList
  | .float x => some (x.text .json).toList
  | .str s => some (trimText s.toList)
  | _ => none

end Json

namespace Value

/-- Takes a JSON value for a value of a kind. -/
def coerce (kind : FieldKind) (raw : Json) : Except Mismatch Value :=
  let mismatch (found : String) : Except Mismatch Value := .error ⟨kind.text, found⟩
  match raw with
  | .null => .ok .null
  | raw =>
    match kind with
    | .string =>
      match raw with
      | .str s => .ok (.string s)
      | raw => mismatch raw.description
    | .int =>
      match raw.wholeNumber? with
      | none => mismatch raw.description
      | some n =>
        match int32? n.toInt with
        | some n => .ok (.int n)
        | none => mismatch (toString n.toInt ++ " (out of range)")
    | .bigInt =>
      match raw with
      | .str s =>
        match (IntegerRange.signed64.read (trimText s.toList)).toOption.bind int64? with
        | some n => .ok (.bigInt n)
        | none => mismatch "non-integer string"
      | raw =>
        match raw.wholeNumber? with
        | some n => .ok (.bigInt n)
        | none => mismatch raw.description
    | .float =>
      match raw with
      | .int n => .ok (.float (Double.ofInt n))
      | .float x => .ok (.float x)
      | raw => mismatch raw.description
    | .decimal =>
      match raw.decimalText?.bind Decimal.read? with
      | some x => .ok (.decimal x)
      | none => mismatch raw.description
    | .boolean =>
      match raw with
      | .bool b => .ok (.bool b)
      | raw => mismatch raw.description
    | .dateTime =>
      match raw.str?.bind Timestamp.read? with
      | some t => .ok (.dateTime t)
      | none => mismatch raw.description
    | .enumeration variants =>
      match raw with
      | .str s =>
        if s ∈ variants then .ok (.enumeration s) else mismatch ("unknown variant '" ++ s ++ "'")
      | raw => mismatch raw.description

end Value

end RecordStore
