import RecordStore.Json.Skip
import RecordStore.Request.Execution

/-!
# Requests as texts

A request arrives as one line of JSON: an object with the fields of a request, or an array that
holds them in order.  Fields of other names are passed over.  A line that is no request is refused
with the first fault in it and the place of that fault.
-/

namespace RecordStore.Request

open Json.Reader (peekToken skip here atNext fault)

/-- Fails with what was found where something else was expected. -/
def wrongType {α : Type} (expected : String) (budget : Nat) : Json.Reader α := do
  let found ←
    match ← peekToken with
    | some 91 => pure "sequence"
    | some 123 => pure "map"
    | _ => do
      let raw ← Json.Reader.value 0 budget
      pure raw.evidence
  fault (ShapeFault.wrongType found expected).message

def readString (budget : Nat) : Json.Reader Json := do
  match ← peekToken with
  | none => atNext .endInValue
  | some 34 =>
    skip
    let text ← Json.Reader.string budget
    pure (.str text)
  | some _ => wrongType "a string" budget

def readFieldValue (field : FieldShape) (budget : Nat) : Json.Reader Json :=
  match field with
  | .text => readString budget
  | _ => Json.Reader.value (Json.Reader.maxDepth - 1) budget

/-- Fails on a field that was there before. -/
def duplicateField {α : Type} (name : String) : Json.Reader α := do
  -- The object is closed first, if that is what follows, and the fault is behind it.
  if (← peekToken) = some 125 then skip
  fault (ShapeFault.duplicateField name).message

/-- Reads the fields of an object behind those read before. -/
def readTextFields (first : Bool) (known : Arguments) : Nat → Json.Reader Arguments
  | 0 => here .endInObject
  | budget + 1 => do
    match ← Json.Reader.fieldName budget first with
    | none => pure known
    | some name =>
      match lookupEntry name shape.fields with
      | none =>
        Json.Reader.colon
        Json.Reader.skipValue budget
        readTextFields false known budget
      | some field =>
        -- A field that is there twice is a fault at its name, before its value is read.
        if known.contains name then duplicateField name
        else
          Json.Reader.colon
          let raw ← readFieldValue field budget
          readTextFields false (known.insert name raw) budget

/-- Reads the items of an array into fields, from a position on. -/
def readTextItems (budget position : Nat) :
    List (String × FieldShape) → Arguments → Json.Reader Arguments
  | [], known => do
    Json.Reader.closeList
    pure known
  | (name, field) :: rest, known => do
    if ← Json.Reader.moreItems (position = 0) then
      let raw ← readFieldValue field budget
      readTextItems budget (position + 1) rest (known.insert name raw)
    else if field.isRequired then
      Json.Reader.closeList
      fault (ShapeFault.tooShort position shape.name shape.fields.length).message
    else readTextItems budget (position + 1) rest known

def reader (budget : Nat) : Json.Reader Request := do
  -- An array or an object, by its opening bracket.
  match ← peekToken with
  | none => atNext .endInValue
  | some 91 =>
    skip
    let known ← readTextItems budget 0 shape.fields .empty
    pure (ofArguments known)
  | some 123 =>
    skip
    let known ← readTextFields true .empty budget
    Json.Reader.closeObject
    match shape.firstMissing? known with
    | some name => fault (ShapeFault.missingField name).message
    | none => pure (ofArguments known)
  | some _ => wrongType ("struct " ++ shape.name) budget

def ofText (line : String) : Except Json.Fault Request := Json.Reader.run reader line

end RecordStore.Request
