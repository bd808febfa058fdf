import RecordStore.Schema.Entity
import RecordStore.Value.Coercion

/-!
# Declaring entities

`Entity.declare` checks the shape of an entity once, where it is declared: field names are distinct,
a default suits its field, and the identity consists of fields that are never null.  Literal defaults
are brought to the kind of their field.
-/

namespace RecordStore

/-- What makes a default unfit for its field. -/
inductive DefaultFault where
  | numberedField (kind : FieldKind)
  | stampedField (kind : FieldKind)
  | nullDefault
  | mismatch (fault : Mismatch)
deriving DecidableEq

def DefaultFault.message : DefaultFault → String
  | .numberedField kind => "auto-increment on " ++ kind.text ++ " field"
  | .stampedField kind => "now() on " ++ kind.text ++ " field"
  | .nullDefault => "null default on non-nullable field"
  | .mismatch fault => "expected " ++ fault.expected ++ ", got " ++ fault.found

/-- What is wrong with a declaration, or with a name that is looked up. -/
inductive SchemaError where
  | notFound (entity : String)
  | duplicateEntity (entity : String)
  | duplicateField (entity field : String)
  | emptyIdentity (entity : String)
  | unknownIdentityField (entity field : String)
  | nullableIdentity (entity field : String)
  | invalidDefault (entity field : String) (fault : DefaultFault)
deriving DecidableEq

def SchemaError.message : SchemaError → String
  | .notFound entity => "Entity not found: " ++ entity
  | .duplicateEntity entity => "Entity " ++ entity ++ " is registered twice"
  | .duplicateField entity field => "Entity " ++ entity ++ " declares field " ++ field ++ " twice"
  | .emptyIdentity entity => "Entity " ++ entity ++ " has no identity fields"
  | .unknownIdentityField entity field =>
    "Entity " ++ entity ++ " identity references unknown field " ++ field
  | .nullableIdentity entity field =>
    "Entity " ++ entity ++ " identity field " ++ field ++ " is nullable"
  | .invalidDefault entity field fault =>
    "Invalid default for " ++ entity ++ "." ++ field ++ ": " ++ fault.message

/-- A default brought to the kind of its field. -/
def Field.checkDefault (field : Field) : Except DefaultFault (Option Default) :=
  match field.default? with
  | none => .ok none
  | some .autoIncrement =>
    match field.kind with
    | .int => .ok (some .autoIncrement)
    | .bigInt => .ok (some .autoIncrement)
    | kind => .error (.numberedField kind)
  | some .now =>
    match field.kind with
    | .dateTime => .ok (some .now)
    | kind => .error (.stampedField kind)
  | some (.literal value) =>
    match Value.coerce field.kind value.toJson with
    | .error fault => .error (.mismatch fault)
    | .ok value =>
      if value.isNull && !field.nullable then .error .nullDefault
      else .ok (some (.literal value))

namespace Entity

/-- Checks fields in order, behind fields of given names. -/
def checkFields (entity : String) (seen : List String) :
    List Field → Except SchemaError (List Field)
  | [] => .ok []
  | field :: rest => do
    if field.name ∈ seen then throw (.duplicateField entity field.name)
    let default? ← field.checkDefault.mapError (.invalidDefault entity field.name)
    let rest ← checkFields entity (field.name :: seen) rest
    return { field with default? := default? } :: rest

/-- Checks that identity fields exist and are never null. -/
def checkIdentity (entity : String) (fields : List Field) : List String → Except SchemaError Unit
  | [] => .ok ()
  | name :: rest =>
    match fields.find? fun field => field.name = name with
    | none => .error (.unknownIdentityField entity name)
    | some field =>
      if field.nullable then .error (.nullableIdentity entity name)
      else checkIdentity entity fields rest

/-- The entity of a declaration, or the first thing that is wrong with it. -/
def declare (name : String) (fields : List Field) (identity : List String) :
    Except SchemaError Entity := do
  let fields ← checkFields name [] fields
  if identity.isEmpty then throw (.emptyIdentity name)
  checkIdentity name fields identity
  return ⟨name, fields, identity⟩

end Entity

end RecordStore
