import RecordStore.Proofs.Typing.Entities
import RecordStore.Store.Table

/-! # Rows have the kinds of their fields

`Entity.Fits` says of a row that every field holds null or a value of its kind.  What the store fills
in for a new row fits.
-/

namespace RecordStore.Entity

/-- Whether every field of a row holds null or a value of its kind. -/
def Fits (entity : Entity) (record : Record) : Prop :=
  ∀ name field, entity.field? name = some field → field.kind.Fits (record.valueAt name)

theorem fits_empty (entity : Entity) : entity.Fits .empty := fun _ field _ => field.kind.fits_null

theorem Fits.insert {entity : Entity} {record : Record} (fits : entity.Fits record) {name : String}
    {value : Value}
    (valueFits : ∀ field, entity.field? name = some field → field.kind.Fits value) :
    entity.Fits (record.insert name value) := by
  intro other field found
  rw [FieldMap.valueAt_insert]
  split
  · next same => exact valueFits field (same ▸ found)
  · exact fits other field found

/-- The same, where the field is at hand. -/
theorem Fits.insert_field {entity : Entity} {record : Record} (fits : entity.Fits record)
    {field : Field} (found : entity.field? field.name = some field) {value : Value}
    (valueFits : field.kind.Fits value) : entity.Fits (record.insert field.name value) := by
  apply fits.insert
  intro other otherFound
  rw [found, Option.some.injEq] at otherFound
  exact otherFound ▸ valueFits

theorem fillDefaults_fits {entity : Entity} (wellFormed : entity.WellFormed) (now : Readings)
    {record : Record} (fits : entity.Fits record) : entity.Fits (entity.fillDefaults now record) := by
  unfold fillDefaults
  refine List.foldlRecOn (motive := entity.Fits) _ _ fits ?_
  intro row rowFits field member
  have found := wellFormed.field?_of_mem member
  have default := wellFormed.defaults_fit field member
  unfold Field.DefaultFits at default
  split
  · exact rowFits
  · cases hdefault : field.default? with
    | none =>
      simp only
      split
      · exact rowFits.insert_field found field.kind.fits_null
      · exact rowFits
    | some given =>
      rw [hdefault] at default
      cases given with
      | literal value => exact rowFits.insert_field found default
      | autoIncrement => exact rowFits
      | now =>
        apply rowFits.insert_field found
        rw [default]
        exact (FieldKind.Holds.dateTime (now.ofField field.name)).fits

end RecordStore.Entity
