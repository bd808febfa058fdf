import RecordStore.Schema.Declaration

/-!
# Registries

A `Registry` holds entities by name.  It is filled once and read from then on.
-/

namespace RecordStore

/-- Entities by name. -/
structure Registry where
  entities : FieldMap Entity
deriving DecidableEq, Inhabited

namespace Registry

def register (registry : Registry) (entity : Entity) : Except SchemaError Registry :=
  if registry.entities.contains entity.name then .error (.duplicateEntity entity.name)
  else .ok ⟨registry.entities.insert entity.name entity⟩

def ofEntities (entities : List Entity) : Except SchemaError Registry :=
  entities.foldlM register ⟨FieldMap.empty⟩

def describe (registry : Registry) (name : String) : Except SchemaError Entity :=
  match registry.entities.get? name with
  | some entity => .ok entity
  | none => .error (.notFound name)

/-- The names of the entities, in increasing order. -/
def names (registry : Registry) : List String := registry.entities.keys

end Registry

end RecordStore
