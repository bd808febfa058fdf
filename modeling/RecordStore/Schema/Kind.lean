/-!
# Kinds of fields

The kind of a field decides which values it holds, and with that which tests, orders and arithmetic
apply to it.
-/

namespace RecordStore

/-- The kind of value a field holds. -/
inductive FieldKind where
  | string
  | int
  | bigInt
  | float
  | decimal
  | boolean
  | dateTime
  | enumeration (variants : List String)
deriving DecidableEq, Inhabited

namespace FieldKind

/-- Kinds with `lt`, `lte`, `gt` and `gte`, and with a least and a greatest value. -/
def isOrdered : FieldKind → Bool
  | .boolean => false
  | .enumeration _ => false
  | _ => true

/-- Kinds with arithmetic updates, sums and averages. -/
def isNumeric : FieldKind → Bool
  | .int => true
  | .bigInt => true
  | .float => true
  | .decimal => true
  | _ => false

/-- Kinds with `contains`, `startsWith` and `endsWith`. -/
def isText : FieldKind → Bool
  | .string => true
  | _ => false

/-- The name of a kind, without its variants. -/
def name : FieldKind → String
  | .string => "string"
  | .int => "int"
  | .bigInt => "bigint"
  | .float => "float"
  | .decimal => "decimal"
  | .boolean => "boolean"
  | .dateTime => "datetime"
  | .enumeration _ => "enum"

/-- The name of a kind, with the variants of an enumeration. -/
def text : FieldKind → String
  | .enumeration variants => "enum(" ++ "|".intercalate variants ++ ")"
  | kind => kind.name

end FieldKind

end RecordStore
