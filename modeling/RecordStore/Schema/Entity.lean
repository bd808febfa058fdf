import RecordStore.Record
import RecordStore.Schema.Kind

/-!
# Entities

An `Entity` is the shape of one table: its fields in order, and the fields that identify a row.
Everything else of the library takes its rules from this description.

* `uniqueKeys` lists the keys that name at most one row: the identity and each unique field.
* `fillDefaults` completes a row that is about to be stored, `complete` one that is about to be
  shown.  `Readings` are the times that the first one fills in.
-/

namespace RecordStore

/-- What a field takes when a new row does not give it a value. -/
inductive Default where
  | literal (value : Value)
  /-- One more than the greatest value in the table. -/
  | autoIncrement
  /-- The time of the insertion. -/
  | now
deriving DecidableEq

/-- One field of an entity. -/
structure Field where
  name : String
  kind : FieldKind
  nullable : Bool
  /-- Whether the field is a unique key by itself. -/
  unique : Bool
  default? : Option Default
deriving DecidableEq

namespace Field

/-- A field that is neither nullable nor unique and has no default. -/
def ofKind (kind : FieldKind) (name : String) : Field := ⟨name, kind, false, false, none⟩

/-- The field, allowed to be null. -/
def orNull (field : Field) : Field := { field with nullable := true }

def asKey (field : Field) : Field := { field with unique := true }

/-- The field with a literal default. -/
def withDefault (field : Field) (value : Value) : Field :=
  { field with default? := some (.literal value) }

/-- The field, numbered by the table. -/
def numbered (field : Field) : Field := { field with default? := some .autoIncrement }

/-- The field, stamped with the time of insertion. -/
def stamped (field : Field) : Field := { field with default? := some .now }

def hasDefault (field : Field) : Bool := field.default?.isSome

/-- Whether a new row has to give the field a value. -/
def isRequired (field : Field) : Bool := !field.nullable && field.default?.isNone

end Field

/-- What the clock reads while a row is completed.  It is read anew for every field that takes the
time. -/
structure Readings where
  ofField : String → Timestamp
deriving Inhabited

/-- A time stands for a clock that does not move on. -/
instance : Coe Timestamp Readings := ⟨fun time => ⟨fun _ => time⟩⟩

/-- The shape of one table. -/
structure Entity where
  name : String
  fields : List Field
  identity : List String
deriving DecidableEq

namespace Entity

def field? (entity : Entity) (name : String) : Option Field :=
  entity.fields.find? fun field => field.name = name

def fieldNames (entity : Entity) : List String := entity.fields.map (·.name)

/-- The keys that name at most one row: the identity first, then each unique field that is not the
identity by itself. -/
def uniqueKeys (entity : Entity) : List (List String) :=
  entity.identity ::
    (entity.fields.filter fun field => field.unique && entity.identity != [field.name]).map
      fun field => [field.name]

/-- Completes a row that is about to be stored with literal defaults, times and nulls. -/
def fillDefaults (entity : Entity) (now : Readings) (record : Record) : Record :=
  entity.fields.foldl (fun record field =>
    if record.contains field.name then record
    else
      match field.default? with
      | some (.literal value) => record.insert field.name value
      | some .now => record.insert field.name (.dateTime (now.ofField field.name))
      -- Numbered fields are left to the table.
      | some .autoIncrement => record
      | none => if field.nullable then record.insert field.name .null else record) record

/-- The row as it is shown: the fields of the entity and no others, a missing one as its literal
default or null. -/
def complete (entity : Entity) (record : Record) : Record :=
  entity.fields.foldl (fun record field =>
    if record.contains field.name then record
    else
      match field.default? with
      | some (.literal value) => record.insert field.name value
      | _ => record.insert field.name .null)
    (record.filter fun name _ => (entity.field? name).isSome)

end Entity

/-! ## Entities as JSON -/

def FieldKind.toJson : FieldKind → Json
  | .bigInt => .obj [("kind", .str "bigInt")]
  | .dateTime => .obj [("kind", .str "dateTime")]
  | .enumeration variants => .obj [("kind", .str "enum"), ("variants", Json.strings variants)]
  | kind => .obj [("kind", .str kind.name)]

/-- A default as JSON. -/
def Default.toJson : Default → Json
  | .literal value => .obj [("literal", value.toJson)]
  | .autoIncrement => .str "autoIncrement"
  | .now => .str "now"

/-- A field as JSON, its attributes in a fixed order. -/
def Field.toJson (field : Field) : Json :=
  .obj [("name", .str field.name), ("kind", field.kind.toJson), ("nullable", .bool field.nullable),
    ("unique", .bool field.unique), ("default", (field.default?.map Default.toJson).getD .null)]

/-- An entity as JSON, its attributes in a fixed order. -/
def Entity.toJson (entity : Entity) : Json :=
  .obj [("name", .str entity.name), ("fields", .arr (entity.fields.map Field.toJson)),
    ("identityFields", Json.strings entity.identity)]

end RecordStore
