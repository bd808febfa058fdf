import RecordStore.Json.Basic
import RecordStore.Number.DecimalText
import RecordStore.Time.Timestamp

/-!
# Values

A `Value` is what a field of a record holds: null, or a scalar of one kind.  `Value.toJson` is its
form in requests and results: 64-bit integers and decimals travel as strings, because a reader that
takes numbers for doubles would lose digits.
-/

namespace RecordStore

/-- A scalar value, or null. -/
inductive Value where
  | null
  | bool (value : Bool)
  | int (value : Int32)
  | bigInt (value : Int64)
  | float (value : Double)
  | decimal (value : Decimal)
  | dateTime (value : Timestamp)
  | string (value : String)
  | enumeration (variant : String)
deriving DecidableEq, Inhabited

namespace Value

def isNull : Value → Bool
  | .null => true
  | _ => false

def kindName : Value → String
  | .null => "null"
  | .bool _ => "boolean"
  | .int _ => "int"
  | .bigInt _ => "bigint"
  | .float _ => "float"
  | .decimal _ => "decimal"
  | .dateTime _ => "datetime"
  | .string _ => "string"
  | .enumeration _ => "enum"

def text? : Value → Option String
  | .string s => some s
  | .enumeration s => some s
  | _ => none

/-- The integer of an integer value. -/
def integer? : Value → Option Int
  | .int n => some n.toInt
  | .bigInt n => some n.toInt
  | _ => none

/-- The double nearest to a numeric value. -/
def toDouble? : Value → Option Double
  | .int n => some (Double.ofInt n.toInt)
  | .bigInt n => some (Double.ofInt n.toInt)
  | .float x => some x
  | .decimal x => some x.toDouble
  | _ => none

/-- The text of a value, without quotes. -/
def text : Value → String
  | .null => "null"
  | .bool true => "true"
  | .bool false => "false"
  | .int n => toString n.toInt
  | .bigInt n => toString n.toInt
  | .float x => x.text .plain
  | .decimal x => x.text
  | .dateTime t => t.text
  | .string s => s
  | .enumeration s => s

/-- The form of a value in requests and results. -/
def toJson : Value → Json
  | .null => .null
  | .bool b => .bool b
  | .int n => .int n.toInt
  | .bigInt n => .str (toString n.toInt)
  | .float x => .number x
  | .decimal x => .str x.text
  | .dateTime t => .str t.text
  | .string s => .str s
  | .enumeration s => .str s

end Value

end RecordStore
