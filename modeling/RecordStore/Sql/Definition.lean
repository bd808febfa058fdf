import RecordStore.Sql.Cell
import RecordStore.Sql.Quoted

/-!
# Definitions of tables

The statement that creates the table of an entity: a column for every field, and the identity as the
primary key.  Only literal defaults become part of it; numbers and times are given by whoever stores
a row.
-/

namespace RecordStore

/-- A parameter written out. -/
def Parameter.literalText : Parameter → String
  | .null => "NULL"
  | .bool b => if b then "1" else "0"
  | .integer n => toString n.toInt
  | .real x => x.text .plain
  | .text s => quoteLiteral s

/-- The definition of the column of a field. -/
def Field.columnText (field : Field) : String :=
  quoteName field.name ++ " " ++ field.kind.columnType.name ++
    (if field.nullable then "" else " NOT NULL") ++
    (if field.unique then " UNIQUE" else "") ++
    match field.default? with
    | some (.literal value) => " DEFAULT " ++ value.parameter.literalText
    | _ => ""

def namesText (names : List String) : String := ", ".intercalate (names.map quoteName)

/-- The columns of an entity's table. -/
def Entity.columnsText (entity : Entity) : String := namesText entity.fieldNames

/-- The statement that creates the table of an entity, unless it is there. -/
def Entity.tableText (entity : Entity) : String :=
  let lines := entity.fields.map Field.columnText ++
    ["PRIMARY KEY (" ++ namesText entity.identity ++ ")"]
  "CREATE TABLE IF NOT EXISTS " ++ quoteName entity.name ++ " (\n  " ++
    ",\n  ".intercalate lines ++ "\n)"

end RecordStore
