import RecordStore.Mutation.Change

/-!
# Reading mutations

How the payloads of writes arrive.  A new row is an object of values.  An update is an object whose
entries are bare values, which are set, or objects with a single operator.  An address is an object
of exactly the fields of one unique key; an identity of several fields may also be wrapped in an
object of one entry, named by the fields with underscores between them.
-/

namespace RecordStore

def Entity.knownField (entity : Entity) (name : String) : Except ValidationError Field :=
  match entity.field? name with
  | some field => .ok field
  | none => .error (.unknownField entity.name name)

/-- The value that a payload gives a field; null where the field may be null. -/
def Field.readValue (field : Field) (raw : Json) : Except ValidationError Value :=
  if raw.isNull && !field.nullable then
    .error (.typeMismatch field.name ⟨field.kind.text, "null"⟩)
  else (Value.coerce field.kind raw).mapError (.typeMismatch field.name)

/-- The entries of a payload, which has to be an object. -/
def payloadEntries (raw : Json) : Except ValidationError (List (String × Json)) :=
  match raw with
  | .obj entries => .ok entries
  | raw => .error (.invalidArguments (.expectedObject "data" raw.compact))

namespace Insertion

def readEntries (entity : Entity) : List (String × Json) → Record → Except ValidationError Record
  | [], given => .ok given
  | (name, raw) :: rest, given => do
    let field ← entity.knownField name
    let value ← field.readValue raw
    readEntries entity rest (given.insert name value)

/-- The first field that a new row has to give a value and does not. -/
def firstMissing? (entity : Entity) (given : Record) : Option Field :=
  entity.fields.find? fun field => field.isRequired && !given.contains field.name

def read (entity : Entity) (raw : Json) : Except ValidationError Insertion := do
  let given ← readEntries entity (← payloadEntries raw) .empty
  match firstMissing? entity given with
  | some field => throw (.missingField field.name)
  | none => return ⟨given⟩

end Insertion

namespace Changes

/-- The arithmetic of an operator. -/
def arithmeticOf? : String → Option Arithmetic
  | "increment" => some .add
  | "decrement" => some .subtract
  | "multiply" => some .multiply
  | "divide" => some .divide
  | _ => none

def isZeroValue : Value → Bool
  | .int n => n = 0
  | .bigInt n => n = 0
  | .float x => x.isZero
  | .decimal x => x.isZero
  | _ => false

def readOperation (field : Field) (operators : List (String × Json)) :
    Except ValidationError Change :=
  match operators with
  | [(name, raw)] =>
    if name = "set" then return .set (← field.readValue raw)
    else
      match arithmeticOf? name with
      | none => throw (.invalidFieldOperation field.name name .unknownOperator)
      | some op => do
        if !field.kind.isNumeric then
          throw (.invalidFieldOperation field.name name (.unsupportedKind field.kind))
        -- Even a field that may be null cannot be changed by one.
        if raw.isNull then throw (.typeMismatch field.name ⟨field.kind.text, "null"⟩)
        let operand ← field.readValue raw
        if op = .divide && isZeroValue operand then
          throw (.invalidFieldOperation field.name name .divisionByZero)
        return .relative op operand
  | _ => throw (.invalidFieldOperation field.name "update" .notOneOperator)

def readChange (field : Field) (raw : Json) : Except ValidationError Change :=
  match raw with
  | .obj operators => readOperation field operators
  | raw => return .set (← field.readValue raw)

def readEntries (entity : Entity) :
    List (String × Json) → FieldMap Change → Except ValidationError (FieldMap Change)
  | [], changes => .ok changes
  | (name, raw) :: rest, changes => do
    let field ← entity.knownField name
    let change ← readChange field raw
    readEntries entity rest (changes.insert name change)

/-- Reads an update that may be empty. -/
def readAny (entity : Entity) (raw : Json) : Except ValidationError Changes := do
  return ⟨← readEntries entity (← payloadEntries raw) .empty⟩

def read (entity : Entity) (raw : Json) : Except ValidationError Changes := do
  let changes ← readAny entity raw
  if changes.isEmpty then throw (.emptyUpdate entity.name)
  return changes

end Changes

namespace Address

/-- The name under which an identity of several fields may be wrapped. -/
def compoundName (entity : Entity) : String := "_".intercalate entity.identity

/-- The entries of an address, unwrapped. -/
def unwrap (entity : Entity) (entries : List (String × Json)) : List (String × Json) :=
  match entries with
  | [(name, .obj inner)] =>
    if 1 < entity.identity.length ∧ name = compoundName entity then inner else entries
  | entries => entries

def readEntries (entity : Entity) :
    List (String × Json) → FieldMap Value → Except ValidationError (FieldMap Value)
  | [], key => .ok key
  | (name, raw) :: rest, key => do
    let field ← entity.knownField name
    if raw.isNull then throw (.incompleteAddress entity.name (.nullField name))
    let value ← field.readValue raw
    readEntries entity rest (key.insert name value)

/-- Whether the fields of an address are those of a key. -/
def hasFieldsOf (key : FieldMap Value) (fields : List String) : Bool :=
  fields.length = key.size && fields.all key.contains

def read (entity : Entity) (raw : Json) : Except ValidationError Address :=
  match raw with
  | .obj entries => do
    let key ← readEntries entity (unwrap entity entries) .empty
    if entity.uniqueKeys.any (hasFieldsOf key) then return ⟨key⟩
    else throw (.incompleteAddress entity.name (.noUniqueKey entity.uniqueKeys key.keys))
  | raw => throw (.incompleteAddress entity.name (.expectedObject raw.compact))

end Address

end RecordStore
