import RecordStore.FieldMap
import RecordStore.Json.Basic
import RecordStore.Number.Integer
import RecordStore.Number.Shortest
import RecordStore.Text.Debug

/-!
# The shape of arguments

The arguments of an operation are a JSON object with known fields, or a JSON array that fills the
fields in their order.  An `ArgumentShape` lists the fields with what each may hold; reading by a
shape reports the first fault: fields are met in increasing order of their names, fields that are
missing are reported last and in the order of the shape.
-/

namespace RecordStore

inductive ShapeFault where
  | missingField (name : String)
  | unknownField (name : String) (known : List String)
  | duplicateField (name : String)
  | wrongType (found expected : String)
  | wrongValue (found expected : String)
  | tooShort (length : Nat) (structure_ : String) (size : Nat)
  | tooLong (length : Nat)
deriving DecidableEq

def backquoted (name : String) : String := "`" ++ name ++ "`"

def expectedNames : List String → String
  | [name] => "expected " ++ backquoted name
  | [first, second] => "expected " ++ backquoted first ++ " or " ++ backquoted second
  | names => "expected one of " ++ ", ".intercalate (names.map backquoted)

/-- The description of a structure and its size. -/
def structureOf (name : String) (size : Nat) : String :=
  "struct " ++ name ++ " with " ++ toString size ++ (if size = 1 then " element" else " elements")

def ShapeFault.message : ShapeFault → String
  | .missingField name => "missing field " ++ backquoted name
  | .unknownField name known => "unknown field " ++ backquoted name ++ ", " ++ expectedNames known
  | .duplicateField name => "duplicate field " ++ backquoted name
  | .wrongType found expected => "invalid type: " ++ found ++ ", expected " ++ expected
  | .wrongValue found expected => "invalid value: " ++ found ++ ", expected " ++ expected
  | .tooShort length name size =>
    "invalid length " ++ toString length ++ ", expected " ++ structureOf name size
  | .tooLong length => "invalid length " ++ toString length ++ ", expected fewer elements in array"

/-- What a JSON value is, with the value if it is a scalar. -/
def Json.evidence : Json → String
  | .null => "null"
  | .bool true => "boolean `true`"
  | .bool false => "boolean `false`"
  | .int n => "integer " ++ backquoted (toString n)
  | .float x => "floating point " ++ backquoted (x.text .json)
  | .str s => "string " ++ quoteDebug s
  | .arr _ => "sequence"
  | .obj _ => "map"

/-- What a field of arguments may hold. -/
inductive FieldShape where
  /-- Any value, which has to be given. -/
  | required
  /-- Any value; null counts as not given. -/
  | optional
  /-- A 64-bit integer, or null. -/
  | optionalInteger
  /-- A list of strings, or null. -/
  | optionalStrings
  /-- A list of strings, which has to be given. -/
  | strings
  /-- A list of any values, which has to be given. -/
  | list
  /-- A truth value; false when not given. -/
  | flag
  /-- A string, which has to be given. -/
  | text
  /-- Any value; null when not given. -/
  | defaulted
deriving DecidableEq

namespace FieldShape

def isRequired : FieldShape → Bool
  | .required => true
  | .strings => true
  | .list => true
  | .text => true
  | _ => false

def checkString (raw : Json) : Except ShapeFault Unit :=
  match raw with
  | .str _ => .ok ()
  | raw => .error (.wrongType raw.evidence "a string")

def checkStrings (raw : Json) : Except ShapeFault Unit :=
  match raw with
  | .arr items => items.forM checkString
  | raw => .error (.wrongType raw.evidence "a sequence")

def checkInteger (raw : Json) : Except ShapeFault Unit :=
  match raw with
  | .int n =>
    if (int64? n).isSome then .ok () else .error (.wrongValue raw.evidence "i64")
  | raw => .error (.wrongType raw.evidence "i64")

def check (shape : FieldShape) (raw : Json) : Except ShapeFault Unit :=
  match shape with
  | .required => .ok ()
  | .optional => .ok ()
  | .defaulted => .ok ()
  | .optionalInteger => if raw.isNull then .ok () else checkInteger raw
  | .optionalStrings => if raw.isNull then .ok () else checkStrings raw
  | .strings => checkStrings raw
  | .list =>
    match raw with
    | .arr _ => .ok ()
    | raw => .error (.wrongType raw.evidence "a sequence")
  | .flag =>
    match raw with
    | .bool _ => .ok ()
    | raw => .error (.wrongType raw.evidence "a boolean")
  | .text => checkString raw

end FieldShape

/-- The fields of arguments: a name for messages, and the fields in order. -/
structure ArgumentShape where
  name : String
  fields : List (String × FieldShape)
  /-- Whether fields of other names are faults. -/
  closed : Bool

/-- Arguments of a known shape. -/
abbrev Arguments := FieldMap Json

namespace ArgumentShape

def readFields (shape : ArgumentShape) :
    List (String × Json) → Arguments → Except ShapeFault Arguments
  | [], read => .ok read
  | (name, raw) :: rest, read =>
    match lookupEntry name shape.fields with
    | none =>
      if shape.closed then .error (.unknownField name (shape.fields.map (·.1)))
      else shape.readFields rest read
    | some field =>
      match field.check raw with
      | .error fault => .error fault
      | .ok () => shape.readFields rest (read.insert name raw)

/-- The first field that has to be given and is not. -/
def firstMissing? (shape : ArgumentShape) (read : Arguments) : Option String :=
  (shape.fields.find? fun field => field.2.isRequired && !read.contains field.1).map (·.1)

/-- Fills fields in order with the items of an array, from a position on. -/
def readItems (shape : ArgumentShape) (length position : Nat) :
    List (String × FieldShape) → List Json → Arguments → Except ShapeFault Arguments
  | [], [], read => .ok read
  | [], _ :: _, _ => .error (.tooLong length)
  -- Behind the end of the array, only fields that are not required may follow.
  | (_, field) :: fields, [], read =>
    if field.isRequired then .error (.tooShort position shape.name shape.fields.length)
    else shape.readItems length (position + 1) fields [] read
  | (name, field) :: fields, raw :: rest, read =>
    match field.check raw with
    | .error fault => .error fault
    | .ok () => shape.readItems length (position + 1) fields rest (read.insert name raw)

def read (shape : ArgumentShape) (raw : Json) : Except ShapeFault Arguments :=
  match raw with
  | .obj fields =>
    match shape.readFields fields FieldMap.empty with
    | .error fault => .error fault
    | .ok read =>
      match shape.firstMissing? read with
      | some name => .error (.missingField name)
      | none => .ok read
  | .arr items => shape.readItems items.length 0 shape.fields items FieldMap.empty
  | raw => .error (.wrongType raw.evidence ("struct " ++ shape.name))

end ArgumentShape

end RecordStore
