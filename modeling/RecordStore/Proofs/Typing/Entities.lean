import RecordStore.Proofs.Typing.Values
import RecordStore.Schema.Registry

/-! # What a declaration guarantees

`Entity.WellFormed` collects what `Entity.declare` has checked of an entity.  A registry of declared
entities describes each of them under its own name and nothing else.
-/

namespace RecordStore

/-! ## Entities -/

/-- Whether the default of a field gives values of the field's kind. -/
def Field.DefaultFits (field : Field) : Prop :=
  match field.default? with
  | some (.literal value) => field.kind.Fits value
  | some .now => field.kind = .dateTime
  | some .autoIncrement => field.kind = .int ∨ field.kind = .bigInt
  | none => True

/-- What is checked of an entity where it is declared. -/
structure Entity.WellFormed (entity : Entity) : Prop where
  names_nodup : entity.fieldNames.Nodup
  defaults_fit : ∀ field ∈ entity.fields, field.DefaultFits
  identity_ne_nil : entity.identity ≠ []
  identity_fields : ∀ name ∈ entity.identity,
    ∃ field, entity.field? name = some field ∧ field.nullable = false

theorem Field.checkDefault_fits {field : Field} {default? : Option Default}
    (checked : field.checkDefault = .ok default?) :
    Field.DefaultFits { field with default? := default? } := by
  unfold Field.checkDefault at checked
  unfold Field.DefaultFits
  repeat' split at checked
  all_goals first | contradiction | cases checked
  · trivial
  · exact .inl ‹_›
  · exact .inr ‹_›
  · assumption
  · exact Value.coerce_fits ‹_›

namespace Entity

theorem checkFields_ok {entity : String} {seen : List String} {fields checked : List Field}
    (accepted : checkFields entity seen fields = .ok checked) :
    (checked.map (·.name)).Nodup ∧ ∀ field ∈ checked, field.name ∉ seen ∧ field.DefaultFits := by
  induction fields generalizing seen checked with
  | nil => cases accepted; simp
  | cons field rest ih =>
    simp only [checkFields, check_eq_ok, bind_eq_ok, mapError_eq_ok, pure_eq_ok] at accepted
    obtain ⟨unseen, default?, checked, later, restChecked, rfl⟩ := accepted
    obtain ⟨nodup, each⟩ := ih restChecked
    constructor
    · rw [List.map_cons, List.nodup_cons]
      refine ⟨?_, nodup⟩
      -- The name would have been seen already where the later field of it was checked.
      intro twice
      obtain ⟨other, member, sameName⟩ := List.mem_map.1 twice
      exact (each other member).1 (sameName ▸ List.mem_cons_self)
    · intro other member
      rcases List.mem_cons.1 member with rfl | member
      · exact ⟨unseen, Field.checkDefault_fits checked⟩
      · obtain ⟨notBefore, fits⟩ := each other member
        exact ⟨fun before => notBefore (List.mem_cons_of_mem _ before), fits⟩

theorem checkIdentity_ok {entity : String} {fields : List Field} {names : List String}
    (accepted : checkIdentity entity fields names = .ok ()) :
    ∀ name ∈ names, ∃ field,
      (fields.find? fun field => field.name = name) = some field ∧ field.nullable = false := by
  induction names with
  | nil => simp
  | cons name rest ih =>
    unfold checkIdentity at accepted
    split at accepted
    · contradiction
    · rename_i field found
      split at accepted
      · contradiction
      · rename_i present
        intro other member
        rcases List.mem_cons.1 member with rfl | member
        · exact ⟨field, found, by simpa using present⟩
        · exact ih accepted other member

theorem declare_wellFormed {name : String} {fields : List Field} {identity : List String}
    {entity : Entity} (declared : declare name fields identity = .ok entity) :
    entity.WellFormed := by
  simp only [declare, check_eq_ok, bind_eq_ok, pure_eq_ok] at declared
  obtain ⟨checked, fieldsChecked, nonempty, _, identityChecked, rfl⟩ := declared
  obtain ⟨nodup, each⟩ := checkFields_ok fieldsChecked
  exact {
    names_nodup := nodup
    defaults_fit := fun field member => (each field member).2
    identity_ne_nil := by simpa using nonempty
    identity_fields := checkIdentity_ok identityChecked }

theorem forall_wellFormed {entities : List Entity}
    (declared : ∀ entity ∈ entities,
      ∃ name fields identity, declare name fields identity = .ok entity) :
    ∀ entity ∈ entities, entity.WellFormed := by
  intro entity member
  obtain ⟨name, fields, identity, accepted⟩ := declared entity member
  exact declare_wellFormed accepted

theorem mem_of_field? {entity : Entity} {name : String} {field : Field}
    (found : entity.field? name = some field) : field ∈ entity.fields ∧ field.name = name :=
  ⟨List.mem_of_find?_eq_some found, by simpa using List.find?_some found⟩

theorem WellFormed.field?_of_mem {entity : Entity} (wellFormed : entity.WellFormed) {field : Field}
    (member : field ∈ entity.fields) : entity.field? field.name = some field := by
  have found : (entity.field? field.name).isSome := by
    simpa [Entity.field?] using ⟨field, member, rfl⟩
  obtain ⟨other, hother⟩ := Option.isSome_iff_exists.1 found
  obtain ⟨otherMember, sameName⟩ := mem_of_field? hother
  rw [hother, List.inj_on_of_nodup_map wellFormed.names_nodup otherMember member sameName]

theorem WellFormed.exists_field_of_key {entity : Entity} (wellFormed : entity.WellFormed)
    {key : List String} (isKey : key ∈ entity.uniqueKeys) {name : String} (member : name ∈ key) :
    ∃ field, entity.field? name = some field := by
  rcases List.mem_cons.1 isKey with rfl | unique
  · exact (wellFormed.identity_fields name member).imp fun _ found => found.1
  · obtain ⟨field, isUnique, rfl⟩ := List.mem_map.1 unique
    rw [List.mem_singleton.1 member]
    exact ⟨field, wellFormed.field?_of_mem (List.mem_filter.1 isUnique).1⟩

end Entity

/-! ## Registries -/

namespace Registry

theorem register_ok {registry result : Registry} {entity : Entity}
    (registered : registry.register entity = .ok result) :
    registry.entities.get? entity.name = none ∧
      result.entities = registry.entities.insert entity.name entity := by
  unfold register at registered
  split at registered
  · contradiction
  · next free =>
    cases registered
    exact ⟨by simpa [FieldMap.contains] using free, rfl⟩

theorem foldlM_register {entities : List Entity} {registry result : Registry}
    (registered : entities.foldlM register registry = .ok result) (name : String)
    (entity : Entity) :
    result.entities.get? name = some entity ↔
      registry.entities.get? name = some entity ∨ entity ∈ entities ∧ entity.name = name := by
  induction entities generalizing registry with
  | nil => cases registered; simp
  | cons first rest ih =>
    obtain ⟨next, firstRegistered, registered⟩ := bind_eq_ok.1 registered
    obtain ⟨free, inserted⟩ := register_ok firstRegistered
    rw [ih registered, inserted, FieldMap.get?_insert, List.mem_cons]
    by_cases same : name = first.name
    -- The name was free, so it stands for the entity that has just been registered.
    · subst same
      rw [if_pos rfl, free, Option.some.injEq]
      constructor
      · rintro (rfl | ⟨member, sameName⟩)
        · exact .inr ⟨.inl rfl, rfl⟩
        · exact .inr ⟨.inr member, sameName⟩
      · rintro (absurd | ⟨rfl | member, sameName⟩)
        · contradiction
        · exact .inl rfl
        · exact .inr ⟨member, sameName⟩
    · rw [if_neg same]
      constructor
      · rintro (before | ⟨member, sameName⟩)
        · exact .inl before
        · exact .inr ⟨.inr member, sameName⟩
      · rintro (before | ⟨rfl | member, sameName⟩)
        · exact .inl before
        · exact absurd sameName.symm same
        · exact .inr ⟨member, sameName⟩

/-- A registry describes the entities that it was made of, each under its name. -/
theorem describe_eq_ok_iff {entities : List Entity} {registry : Registry}
    (registered : ofEntities entities = .ok registry) {name : String} {entity : Entity} :
    registry.describe name = .ok entity ↔ entity ∈ entities ∧ entity.name = name := by
  have known := foldlM_register registered name entity
  rw [FieldMap.get?_empty] at known
  unfold describe
  cases found : registry.entities.get? name <;> simp_all

/-- Names of entities are distinct: what a registry describes under the name of an entity is that
entity. -/
theorem describe_unique {entities : List Entity} {registry : Registry}
    (registered : ofEntities entities = .ok registry) {name : String} {entity other : Entity}
    (member : entity ∈ entities) (described : registry.describe name = .ok other)
    (sameName : entity.name = other.name) : other = entity := by
  have found := (describe_eq_ok_iff registered).2 ⟨member, sameName⟩
  obtain ⟨-, otherName⟩ := (describe_eq_ok_iff registered).1 described
  rw [otherName, described, Except.ok.injEq] at found
  exact found

end Registry

end RecordStore
