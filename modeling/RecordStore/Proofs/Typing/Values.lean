import RecordStore.Mutation.Reader
import RecordStore.Proofs.Comparison.Values

/-! # Values that are read have the kind they are read for

A reader either refuses a JSON value or gives a value of the kind it was asked for; null is given for
null only.  `bind_eq_ok`, `check_eq_ok`, `mapError_eq_ok` and `mapM_eq_ok` take a successful reader
apart into the successful steps it is made of, `bind_eq_error` and `mapError_eq_error` a failing one at
the step that fails.
-/

namespace RecordStore

/-! ## Steps -/

section Steps

variable {ε ε' α β : Type}

theorem bind_eq_ok {x : Except ε α} {f : α → Except ε β} {b : β} :
    (x >>= f) = .ok b ↔ ∃ a, x = .ok a ∧ f a = .ok b := by
  cases x <;> simp [bind, Except.bind]

theorem bind_eq_error {x : Except ε α} {f : α → Except ε β} {error : ε} :
    (x >>= f) = .error error ↔ x = .error error ∨ ∃ a, x = .ok a ∧ f a = .error error := by
  cases x <;> simp [bind, Except.bind]

theorem pure_eq_ok {a b : α} : (pure a : Except ε α) = .ok b ↔ a = b := by
  simp [pure, Except.pure]

/-- A check in front of the rest of a reader. -/
theorem check_eq_ok {refused : Prop} [Decidable refused] {error : ε} {f : α → Except ε β}
    {rest : Except ε β} {b : β} :
    (if refused then throw error >>= f else rest) = .ok b ↔ ¬ refused ∧ rest = .ok b := by
  by_cases h : refused <;>
    simp [h, bind, Except.bind, throw, throwThe, MonadExceptOf.throw]

theorem mapError_eq_ok {x : Except ε α} {f : ε → ε'} {a : α} :
    x.mapError f = .ok a ↔ x = .ok a := by
  cases x <;> simp [Except.mapError]

theorem mapError_eq_error {x : Except ε α} {f : ε → ε'} {error : ε'} :
    x.mapError f = .error error ↔ ∃ cause, x = .error cause ∧ f cause = error := by
  cases x <;> simp [Except.mapError]

theorem mapM_eq_ok {f : α → Except ε β} {items : List α} {results : List β} :
    items.mapM f = .ok results ↔
      List.Forall₂ (fun item result => f item = .ok result) items results := by
  induction items generalizing results with
  | nil => cases results <;> simp [pure_eq_ok]
  | cons item rest ih =>
    rw [List.mapM_cons, bind_eq_ok]
    constructor
    · rintro ⟨result, first, others⟩
      obtain ⟨later, restRead, equal⟩ := bind_eq_ok.1 others
      rw [← pure_eq_ok.1 equal]
      exact .cons first (ih.1 restRead)
    · intro related
      cases related with
      | cons first others =>
        exact ⟨_, first, bind_eq_ok.2 ⟨_, ih.2 others, rfl⟩⟩

theorem mapM_cons_eq_ok {f : α → Except ε β} {item : α} {items : List α} {results : List β} :
    (item :: items).mapM f = .ok results ↔
      ∃ result later, f item = .ok result ∧ items.mapM f = .ok later ∧ results = result :: later := by
  simp only [mapM_eq_ok, List.forall₂_cons_left_iff]

/-- Every result of a list of readings was read from one of the items. -/
theorem exists_of_mem_mapM {f : α → Except ε β} {items : List α} {results : List β}
    (read : items.mapM f = .ok results) {result : β} (member : result ∈ results) :
    ∃ item ∈ items, f item = .ok result := by
  rw [mapM_eq_ok] at read
  induction read with
  | nil => cases member
  | cons first _ ih =>
    rcases List.mem_cons.1 member with rfl | member
    · exact ⟨_, List.mem_cons_self, first⟩
    · obtain ⟨item, mem, itemRead⟩ := ih member
      exact ⟨item, List.mem_cons_of_mem _ mem, itemRead⟩

/-- Every item of a list of readings gave one of the results. -/
theorem exists_result_of_mapM {f : α → Except ε β} {items : List α} {results : List β}
    (read : items.mapM f = .ok results) {item : α} (member : item ∈ items) :
    ∃ result ∈ results, f item = .ok result := by
  rw [mapM_eq_ok] at read
  induction read with
  | nil => cases member
  | cons first _ ih =>
    rcases List.mem_cons.1 member with rfl | member
    · exact ⟨_, List.mem_cons_self, first⟩
    · obtain ⟨result, mem, later⟩ := ih member
      exact ⟨result, List.mem_cons_of_mem _ mem, later⟩

theorem mapM_ok (items : List α) : items.mapM (Except.ok : α → Except ε α) = .ok items := by
  rw [mapM_eq_ok, List.forall₂_same]
  exact fun _ _ => rfl

theorem optionMapM_eq_ok {f : α → Except ε β} {item? : Option α} {result : β}
    (read : item?.mapM f = .ok (some result)) : ∃ item, item? = some item ∧ f item = .ok result := by
  cases item? with
  | none => cases read
  | some item =>
    obtain ⟨value, itemRead, equal⟩ := bind_eq_ok.1 read
    cases equal
    exact ⟨item, rfl, itemRead⟩

end Steps

/-! ## Coercion -/

namespace Value

theorem coerce_holds {kind : FieldKind} {raw : Json} {value : Value}
    (present : raw.isNull = false) (read : coerce kind raw = .ok value) : kind.Holds value := by
  unfold coerce at read
  split at read
  · exact absurd present (by decide)
  · -- Whatever branch of a kind succeeds, its result has the constructor of the kind.
    cases kind <;> simp only at read <;> repeat' split at read
    all_goals first | contradiction | (cases read; constructor)

theorem coerce_fits {kind : FieldKind} {raw : Json} {value : Value}
    (read : coerce kind raw = .ok value) : kind.Fits value := by
  cases raw with
  | null => cases read; exact kind.fits_null
  | _ => exact (coerce_holds rfl read).fits

end Value

namespace Field

theorem readValue_eq_ok {field : Field} {raw : Json} {value : Value}
    (read : field.readValue raw = .ok value) : Value.coerce field.kind raw = .ok value := by
  unfold readValue at read
  split at read
  · contradiction
  · exact mapError_eq_ok.1 read

theorem readValue_fits {field : Field} {raw : Json} {value : Value}
    (read : field.readValue raw = .ok value) : field.kind.Fits value :=
  Value.coerce_fits (readValue_eq_ok read)

theorem readValue_holds {field : Field} {raw : Json} {value : Value}
    (present : raw.isNull = false) (read : field.readValue raw = .ok value) :
    field.kind.Holds value :=
  Value.coerce_holds present (readValue_eq_ok read)

end Field

end RecordStore
