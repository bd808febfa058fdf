import Mathlib.Data.List.Perm.Basic
import RecordStore.Proofs.Memory.Counters

/-! # Changing many rows, one after the other

A batch of changes checks each row when its turn comes, against the rows in front as they have
become and those behind as they were.  So it asks for more than a table without collisions at its
end: a row must not take a unique key from a row behind it, even if that row is about to give the
key up.

* `updateFrom_ok_iff` says when a batch succeeds: the changes can be applied, the changed rows are
  apart, and no row takes a key from a row behind it.
* `updateMany_of_perm` says what is left of this for tables that hold the same rows in other orders.
  Where no row takes a key that another one gives up (`KeysStay`) the order does not matter.
-/

namespace RecordStore

/-- Whether two rows agree on no unique key. -/
def Apart (entity : Entity) (a b : Record) : Prop := ∀ key ∈ entity.uniqueKeys, ¬ AgreeOn key a b

instance (key : List String) (a b : Record) : Decidable (AgreeOn key a b) :=
  inferInstanceAs (Decidable (∀ name ∈ key, _ ∧ _ ∧ _))

instance (entity : Entity) (a b : Record) : Decidable (Apart entity a b) :=
  inferInstanceAs (Decidable (∀ key ∈ entity.uniqueKeys, ¬ AgreeOn key a b))

theorem Apart.symm {entity : Entity} {a b : Record} (apart : Apart entity a b) :
    Apart entity b a :=
  fun key isKey agree => apart key isKey agree.symm

theorem AgreeOn.trans {entity : Entity} (wellFormed : entity.WellFormed) {key : List String}
    (isKey : key ∈ entity.uniqueKeys) {a b c : Record} (fitsA : entity.Fits a)
    (fitsB : entity.Fits b) (fitsC : entity.Fits c) (first : AgreeOn key a b)
    (second : AgreeOn key b c) : AgreeOn key a c := by
  intro name member
  obtain ⟨field, found⟩ := wellFormed.exists_field_of_key isKey member
  obtain ⟨presentA, -, sameAB⟩ := first name member
  obtain ⟨-, presentC, sameBC⟩ := second name member
  exact ⟨presentA, presentC, Value.same_trans (fitsA name field found) (fitsB name field found)
    (fitsC name field found) sameAB sameBC⟩

/-- What can be done to all items can be done to them in any other order. -/
theorem exists_mapM_of_perm {ε α β : Type} {f : α → Except ε β} {items others : List α}
    {results : List β} (perm : others.Perm items) (read : items.mapM f = .ok results) :
    ∃ reordered, others.mapM f = .ok reordered ∧ reordered.Perm results := by
  obtain ⟨reordered, related, same⟩ := List.perm_comp_forall₂ perm (mapM_eq_ok.1 read)
  exact ⟨reordered, mapM_eq_ok.2 related, same⟩

namespace Table

variable {entity : Entity} {changes : Changes} {test : Record → Bool}

/-- Whether no two rows of a table agree on a unique key. -/
def Unique (entity : Entity) (rows : Table) : Prop := rows.Pairwise (Apart entity)

instance (entity : Entity) (rows : Table) : Decidable (Unique entity rows) :=
  inferInstanceAs (Decidable (rows.Pairwise (Apart entity)))

theorem Valid.apart {rows : Table} (valid : Valid entity rows) : Unique entity rows := by
  rw [Unique, List.pairwise_iff_getElem]
  intro i j hi hj before key isKey
  exact List.pairwise_iff_getElem.1 (valid.unique key isKey) i j hi hj before

theorem Unique.of_perm {rows others : Table} (unique : Unique entity rows)
    (perm : others.Perm rows) : Unique entity others :=
  (List.Perm.pairwise_iff Apart.symm perm).2 unique

theorem checkUnique_eq_ok_iff_apart {others : Table} {row : Record} :
    checkUnique entity others row = .ok () ↔ ∀ other ∈ others, Apart entity other row := by
  rw [checkUnique_eq_ok_iff]
  exact ⟨fun free other member key isKey => free key isKey other member,
    fun apart key isKey other member => apart other member key isKey⟩

/-! ## When a batch succeeds -/

/-- Whether the changes of a row take a unique key from another row, when both are to be changed. -/
def Takes (entity : Entity) (changes : Changes) (test : Record → Bool) (row other : Record) :
    Prop :=
  test row = true ∧ test other = true ∧
    ∃ changed, changes.apply row = .ok changed ∧ ¬ Apart entity changed other

/-- A row can be replaced by one that is apart from all others. -/
theorem Unique.replace {front back : Table} {row changed : Record}
    (unique : Unique entity (front ++ row :: back))
    (apart : ∀ other ∈ front ++ back, Apart entity other changed) :
    Unique entity ((front ++ [changed]) ++ back) := by
  have others : Unique entity (front ++ back) := unique.sublist (by simp)
  rw [Unique, List.append_assoc, List.singleton_append, List.pairwise_middle Apart.symm,
    List.pairwise_cons]
  exact ⟨fun other member => (apart other member).symm, others⟩

/-- A batch succeeds behind a row of its test if the row can be changed where it stands. -/
theorem updateFrom_cons_ok_iff {done rest : Table} {row : Record} (accepted : test row = true) :
    (∃ n, (updateFrom entity changes test done (row :: rest)).1 = .ok n) ↔
      ∃ changed, changes.apply row = .ok changed ∧
        (∀ other ∈ done ++ rest, Apart entity other changed) ∧
        ∃ n, (updateFrom entity changes test (done ++ [changed]) rest).1 = .ok n := by
  rw [updateFrom, if_pos accepted]
  rcases changeAt_cases entity changes done row rest with
    ⟨changed, applied, free, run⟩ | ⟨error, refused, run⟩
  · rw [checkUnique_eq_ok_iff_apart] at free
    simp only [run, applied, Except.ok.injEq, exists_eq_left', and_iff_right free]
    cases batch : updateFrom entity changes test (done ++ [changed]) rest with
    | mk result rows => cases result <;> simp
  · simp only [run, reduceCtorEq, exists_false, false_iff]
    rintro ⟨changed, applied, apart, -⟩
    rw [applied] at refused
    rw [← checkUnique_eq_ok_iff_apart] at apart
    rcases refused with failed | ⟨next, same, collides⟩
    · contradiction
    · cases same
      rw [apart] at collides
      contradiction

theorem updateFrom_ok_iff {done rows : Table} (unique : Unique entity (done ++ rows)) :
    (∃ n, (updateFrom entity changes test done rows).1 = .ok n) ↔
      (∃ changed, rows.mapM (changes.applyWhere test) = .ok changed ∧
        Unique entity (done ++ changed)) ∧
      rows.Pairwise fun row other => ¬ Takes entity changes test row other := by
  induction rows generalizing done with
  | nil => simpa [updateFrom, pure_eq_ok] using unique
  | cons row rest ih =>
    rw [List.pairwise_cons]
    cases accepted : test row with
    | false =>
      -- A row that is left alone joins those that are done, and takes nothing.
      have rejected : ¬ test row = true := by simp [accepted]
      have takesNothing : ∀ other ∈ rest, ¬ Takes entity changes test row other :=
        fun other _ takes => rejected takes.1
      rw [updateFrom, if_neg rejected, ih (by simpa using unique), and_iff_right takesNothing]
      simp only [mapM_cons_eq_ok, Changes.applyWhere_of_false accepted, Except.ok.injEq,
        exists_and_left, exists_eq_left', ↓existsAndEq, and_true, List.append_assoc,
        List.singleton_append]
    | true =>
      have applies : changes.applyWhere test row = changes.apply row := if_pos accepted
      rw [updateFrom_cons_ok_iff accepted]
      constructor
      · rintro ⟨changed, applied, apart, succeeds⟩
        obtain ⟨⟨later, restChanged, uniqueAfter⟩, takesNothing⟩ :=
          (ih (unique.replace apart)).1 succeeds
        have allChanged := mapM_cons_eq_ok.2 ⟨_, _, applies.trans applied, restChanged, rfl⟩
        refine ⟨⟨changed :: later, allChanged, by simpa using uniqueAfter⟩, ?_, takesNothing⟩
        rintro other member ⟨-, -, next, same, collides⟩
        cases applied.symm.trans same
        exact collides (apart other (List.mem_append_right _ member)).symm
      · rintro ⟨⟨_, allChanged, uniqueAfter⟩, takesNothing, restTakesNothing⟩
        obtain ⟨changed, later, applied, restChanged, rfl⟩ := mapM_cons_eq_ok.1 allChanged
        rw [applies] at applied
        have parts := List.pairwise_append.1 uniqueAfter
        have apart : ∀ other ∈ done ++ rest, Apart entity other changed := by
          intro other member
          rcases List.mem_append.1 member with inFront | behind
          · exact parts.2.2 other inFront changed List.mem_cons_self
          · by_contra collides
            -- A row behind is still to be changed, or stays and is in the table at the end.
            by_cases meant : test other = true
            · exact takesNothing other behind
                ⟨accepted, meant, changed, applied, fun apart => collides apart.symm⟩
            · obtain ⟨stays, storedAfter, left⟩ := exists_result_of_mapM restChanged behind
              rw [Changes.applyWhere_of_false (by simpa using meant), Except.ok.injEq] at left
              subst left
              exact collides ((List.pairwise_cons.1 parts.2.1).1 other storedAfter).symm
        refine ⟨changed, applied, apart, (ih (unique.replace apart)).2 ⟨⟨later, restChanged, ?_⟩,
          restTakesNothing⟩⟩
        simpa using uniqueAfter

/-- A batch that succeeds has counted the rows of its test. -/
theorem updateFrom_count {done rows : Table} {n : Nat}
    (succeeded : (updateFrom entity changes test done rows).1 = .ok n) :
    n = (rows.filter test).length := by
  induction rows generalizing done n with
  | nil => cases succeeded; rfl
  | cons row rest ih =>
    unfold updateFrom at succeeded
    by_cases accepted : test row = true
    · rw [if_pos accepted] at succeeded
      rw [List.filter_cons_of_pos accepted, List.length_cons]
      rcases changeAt_cases entity changes done row rest with ⟨changed, -, -, run⟩ | ⟨_, -, run⟩
      · simp only [run] at succeeded
        cases batch : updateFrom entity changes test (done ++ [changed]) rest with
        | mk result rows =>
          rw [batch] at succeeded
          cases result with
          | error => contradiction
          | ok count =>
            cases succeeded
            rw [ih (congrArg Prod.fst batch)]
      · simp only [run] at succeeded
        contradiction
    · rw [if_neg accepted] at succeeded
      rw [List.filter_cons_of_neg accepted]
      exact ih succeeded

/-! ## Other orders of the rows -/

/-- Whether a row of a test keeps every unique key that the changes of another row of the test would
take from it. -/
def KeysStay (entity : Entity) (changes : Changes) (test : Record → Bool) (rows : Table) : Prop :=
  ∀ row ∈ rows, ∀ other ∈ rows, test row = true → test other = true →
    ∀ changed changedOther, changes.apply row = .ok changed →
      changes.apply other = .ok changedOther →
        ∀ key ∈ entity.uniqueKeys, AgreeOn key changed other → AgreeOn key changedOther other

/-- Whether changes set the fields of unique keys that they change, and compute none of them. -/
def SetKeys (entity : Entity) (changes : Changes) : Prop :=
  ∀ key ∈ entity.uniqueKeys, ∀ name ∈ key, ∀ change, changes.byField.get? name = some change →
    ∃ value, change = .set value

theorem keysStay_of_setKeys (wellFormed : entity.WellFormed) {rows : Table}
    (fits : ∀ row ∈ rows, entity.Fits row) (set : SetKeys entity changes) :
    KeysStay entity changes test rows := by
  intro row _ other stored _ _ changed changedOther applied appliedOther key isKey agree name member
  obtain ⟨field, found⟩ := wellFormed.exists_field_of_key isKey member
  obtain ⟨present, presentOther, same⟩ := agree name member
  have effect := (Changes.apply_makes applied).valueAt name
  have effectOther := (Changes.apply_makes appliedOther).valueAt name
  cases bound : changes.byField.get? name with
  | none =>
    rw [bound] at effectOther
    have number : (other.valueAt name).isNaN = false :=
      Value.isNaN_of_compare? ((Value.same_iff_of_isNull_eq_false presentOther).1
        (by rwa [Value.same_comm]))
    rw [effectOther]
    exact ⟨presentOther, presentOther, (fits other stored name field found).same_self number⟩
  | some change =>
    obtain ⟨value, rfl⟩ := set key isKey name member change bound
    -- Both rows are given the value that is set.
    rw [bound] at effect effectOther
    have equal : changedOther.valueAt name = changed.valueAt name :=
      Except.ok.inj (effectOther.symm.trans effect)
    rw [equal]
    exact ⟨present, presentOther, same⟩

theorem pairwise_not_takes (wellFormed : entity.WellFormed) (changesFit : changes.Fits entity)
    {rows changed : Table} (fits : ∀ row ∈ rows, entity.Fits row)
    (stay : KeysStay entity changes test rows)
    (applied : rows.mapM (changes.applyWhere test) = .ok changed)
    (unique : Unique entity changed) :
    rows.Pairwise fun row other => ¬ Takes entity changes test row other := by
  induction rows generalizing changed with
  | nil => exact .nil
  | cons row rest ih =>
    obtain ⟨first, later, firstChanged, restChanged, rfl⟩ := mapM_cons_eq_ok.1 applied
    obtain ⟨apart, restApart⟩ := List.pairwise_cons.1 unique
    rw [List.pairwise_cons]
    refine ⟨?_, ih (fun other member => fits other (List.mem_cons_of_mem _ member)) ?_ restChanged
      restApart⟩
    · rintro other member ⟨accepted, meant, next, nextApplied, collides⟩
      rw [Changes.applyWhere, if_pos accepted, nextApplied, Except.ok.injEq] at firstChanged
      subst firstChanged
      obtain ⟨changedOther, storedAfter, otherChanged⟩ := exists_result_of_mapM restChanged member
      rw [Changes.applyWhere, if_pos meant] at otherChanged
      have behind := List.mem_cons_of_mem row member
      have rowFits := fits row List.mem_cons_self
      have otherFits := fits other behind
      refine collides fun key isKey agree => apart changedOther storedAfter key isKey ?_
      -- The row behind keeps the key that is taken from it, so that both have it in the end.
      have kept := stay row List.mem_cons_self other behind accepted meant next changedOther
        nextApplied otherChanged key isKey agree
      exact agree.trans wellFormed isKey (Changes.apply_fits changesFit rowFits nextApplied)
        otherFits (Changes.apply_fits changesFit otherFits otherChanged) kept.symm
    · intro row inRest other alsoInRest
      exact stay row (List.mem_cons_of_mem _ inRest) other (List.mem_cons_of_mem _ alsoInRest)

end Table

/-! ## The store -/

namespace MemoryStore

open Table

variable {entity : Entity} {filter : Filter} {changes : Changes} {store : MemoryStore}

theorem updateMany_result (available : store.available = true) :
    (interface.updateMany entity filter changes store).1
      = (updateFrom entity changes filter.selects [] (store.rows entity.name)).1 :=
  (change_of_available _ _ available).1.trans (staged_result _ _)

theorem updateMany_ok_iff (filter : Filter) (changes : Changes) (available : store.available = true)
    (unique : Unique entity (store.rows entity.name)) :
    (∃ n, (interface.updateMany entity filter changes store).1 = .ok n) ↔
      (∃ changed, (store.rows entity.name).mapM (changes.applyWhere filter.selects) = .ok changed ∧
        Unique entity changed) ∧
      (store.rows entity.name).Pairwise
        fun row other => ¬ Takes entity changes filter.selects row other := by
  rw [updateMany_result available]
  exact updateFrom_ok_iff unique

theorem updateMany_of_ok (available : store.available = true) {n : Nat}
    (succeeded : (interface.updateMany entity filter changes store).1 = .ok n) :
    n = ((store.rows entity.name).filter filter.selects).length ∧
    (store.rows entity.name).mapM (changes.applyWhere filter.selects)
      = .ok ((interface.updateMany entity filter changes store).2.rows entity.name) := by
  have batch := updateMany_result available ▸ succeeded
  refine ⟨updateFrom_count batch, ?_⟩
  obtain ⟨changed, applied, after⟩ := updateFrom_mapM batch
  obtain ⟨result, written⟩ :=
    change_of_available entity (staged (Table.updateMany entity filter changes)) available
  rw [(staged_of_ok (result.symm.trans succeeded)).2] at written
  rw [applied]
  exact congrArg Except.ok (after.symm.trans written.symm)

/-- Changing many rows succeeds if the changes can be applied, the changed rows are apart, and no
row takes a unique key from one that is stored behind it; only the last of these depends on the
order of the rows, and it goes without saying where the rows keep the keys that are taken from them.
-/
theorem updateMany_of_perm {name : String} {fields : List Field} {identity : List String}
    (declared : Entity.declare name fields identity = .ok entity) {raw : Json}
    (read : Changes.read entity raw = .ok changes) (filter : Filter) {rows : Table}
    (valid : Valid entity rows) :
    (∀ store : MemoryStore, store.available = true → (store.rows entity.name).Perm rows →
      let stored := store.rows entity.name
      let answer := interface.updateMany entity filter changes store
      ((∃ n, answer.1 = .ok n) ↔
        (∃ changed, stored.mapM (changes.applyWhere filter.selects) = .ok changed ∧
          Unique entity changed) ∧
        stored.Pairwise fun row other => ¬ Takes entity changes filter.selects row other) ∧
      (∀ n, answer.1 = .ok n → n = (rows.filter filter.selects).length ∧
        stored.mapM (changes.applyWhere filter.selects) = .ok (answer.2.rows entity.name)) ∧
      (KeysStay entity changes filter.selects rows →
        ((∃ n, answer.1 = .ok n) ↔
          ∃ changed, rows.mapM (changes.applyWhere filter.selects) = .ok changed ∧
            Unique entity changed))) ∧
    (SetKeys entity changes → KeysStay entity changes filter.selects rows) := by
  have wellFormed := Entity.declare_wellFormed declared
  have changesFit := Changes.readAny_fits (Changes.readAny_of_read read)
  refine ⟨?_, keysStay_of_setKeys wellFormed valid.fits⟩
  intro store available perm stored answer
  have unique : Unique entity stored := valid.apart.of_perm perm
  have criterion := updateMany_ok_iff filter changes available unique
  refine ⟨criterion, ?_, fun stay => ?_⟩
  · intro n succeeded
    obtain ⟨count, after⟩ := updateMany_of_ok available succeeded
    exact ⟨count.trans (perm.filter _).length_eq, after⟩
  · rw [criterion]
    constructor
    · rintro ⟨⟨changed, applied, apart⟩, -⟩
      obtain ⟨reordered, others, same⟩ := exists_mapM_of_perm perm.symm applied
      exact ⟨reordered, others, apart.of_perm same⟩
    · rintro ⟨changed, applied, apart⟩
      obtain ⟨reordered, others, same⟩ := exists_mapM_of_perm perm applied
      have apartAfter := apart.of_perm same
      refine ⟨⟨reordered, others, apartAfter⟩, ?_⟩
      refine pairwise_not_takes wellFormed changesFit (fun row member => ?_) ?_ others apartAfter
      · exact valid.fits row (perm.mem_iff.1 member)
      · intro row member other alsoMember
        exact stay row (perm.mem_iff.1 member) other (perm.mem_iff.1 alsoMember)

/-! ## Two manufacturers in both orders -/

/-- The manufacturers with their rows in the other order. -/
def reversedStore : MemoryStore :=
  ⟨manufacturerStore.tables.insert "Manufacturers" (manufacturerStore.rows "Manufacturers").reverse,
    true, 0⟩

theorem reversedStore_perm :
    (reversedStore.rows "Manufacturers").Perm (manufacturerStore.rows "Manufacturers") := by
  rw [reversedStore, rows_insert, if_pos rfl]
  exact List.reverse_perm _

theorem manufacturerStore_valid :
    Valid manufacturers (manufacturerStore.rows "Manufacturers") :=
  rows_valid manufacturers_registered (Entity.forall_wellFormed manufacturers_declared)
    reachable_manufacturerStore List.mem_cons_self

/-- A new name for the second manufacturer. -/
def renamed : Changes := ⟨FieldMap.empty.insert "Name" (.set (.string "Bosch"))⟩

def second : Filter := .leaf ⟨"Id", .equals (.int 2)⟩

/-- The second manufacturer is renamed, in whatever order the two are stored. -/
theorem manufacturers_renamed :
    Valid manufacturers (manufacturerStore.rows "Manufacturers") ∧
    (interface.updateMany manufacturers second renamed manufacturerStore).1 = .ok 1 ∧
    (interface.updateMany manufacturers second renamed reversedStore).1 = .ok 1 := by
  have read : Changes.read manufacturers (.obj [("Name", .str "Bosch")]) = .ok renamed := by
    decide +kernel
  have valid := manufacturerStore_valid
  obtain ⟨inOrder, stay⟩ := updateMany_of_perm tableManufacturers_eq read second valid
  have sets : SetKeys manufacturers renamed := by
    intro key _ name _ change bound
    obtain ⟨-, rfl⟩ := Prod.mk.inj (List.mem_singleton.1 (FieldMap.get?_eq_some.1 bound))
    exact ⟨_, rfl⟩
  have apart : ∃ changed, (manufacturerStore.rows "Manufacturers").mapM
      (renamed.applyWhere second.selects) = .ok changed ∧ Unique manufacturers changed :=
    ⟨_, rfl, by decide +kernel⟩
  -- One condition on the rows decides for both stores, and one count is what both of them give.
  have succeeds : ∀ store : MemoryStore, store.available = true →
      (store.rows "Manufacturers").Perm (manufacturerStore.rows "Manufacturers") →
        (interface.updateMany manufacturers second renamed store).1 = .ok 1 := by
    intro store available perm
    obtain ⟨-, counts, decided⟩ := inOrder store available perm
    obtain ⟨n, succeeded⟩ := (decided (stay sets)).2 apart
    rw [succeeded, (counts n succeeded).1]
    decide +kernel
  exact ⟨valid, succeeds _ (by decide +kernel) (.refl _), succeeds _ rfl reversedStore_perm⟩

/-- Numbers that go up by one. -/
def renumbered : Changes := ⟨FieldMap.empty.insert "Id" (.relative .add (.int 1))⟩

/-- The numbers of two manufacturers go up by one if the greater one is stored first.  If it is
stored behind, the other one cannot take it, although it is to be given up. -/
theorem manufacturers_renumbered :
    Changes.read manufacturers (.obj [("Id", .obj [("increment", .int 1)])]) = .ok renumbered ∧
    Valid manufacturers (manufacturerStore.rows "Manufacturers") ∧
    (reversedStore.rows "Manufacturers").Perm (manufacturerStore.rows "Manufacturers") ∧
    (∃ changed, (manufacturerStore.rows "Manufacturers").mapM
      (renumbered.applyWhere (Predicate.always : Filter).selects) = .ok changed ∧
        Unique manufacturers changed) ∧
    (interface.updateMany manufacturers .always renumbered reversedStore).1 = .ok 2 ∧
    (interface.updateMany manufacturers .always renumbered manufacturerStore).1
      = .error (.uniqueViolation ["Id"]) := by
  refine ⟨by decide +kernel, manufacturerStore_valid, reversedStore_perm, ⟨_, rfl, ?_⟩, ?_, ?_⟩
  · decide +kernel
  · decide +kernel
  · decide +kernel

end MemoryStore

end RecordStore
