import RecordStore.Proofs.Memory.Effects
import RecordStore.Proofs.Memory.Paging

/-! # Counters

An integer field that is only incremented and decremented is a counter: whatever else happens in a
run, it goes up and down by the amounts of the commands that succeed and reach its row, once each.

A row is followed by its address.  A command `Keeps` the address if it neither removes the row nor takes
it to another one, and `Counts` a field if it changes it by an increment or a decrement, if at all.
-/

namespace RecordStore

/-! ## Changes of one field -/

namespace Change

/-- Whether a change is an increment or a decrement. -/
def isCount : Change → Bool
  | .relative .add _ => true
  | .relative .subtract _ => true
  | _ => false

/-- What an increment or a decrement adds. -/
def amount : Change → Int
  | .relative .add operand => operand.integer?.getD 0
  | .relative .subtract operand => -operand.integer?.getD 0
  | _ => 0

theorem amount_of_not_isCount {change : Change} (other : change.isCount = false) :
    change.amount = 0 := by
  unfold isCount at other
  unfold amount
  split at other <;> first | contradiction | rfl

theorem integer?_of_isCount {change : Change} (counts : change.isCount = true) {name : String}
    {current value : Value} {n : Int} (held : current.integer? = some n)
    (applied : change.apply name current = .ok value) :
    value.integer? = some (n + change.amount) := by
  cases change with
  | set => contradiction
  | relative op operand =>
    simp only [apply] at applied
    split at applied
    · next computed =>
      cases applied
      -- There is a result for two integers of one kind, and it is in the range of the kind.
      cases op <;> first | contradiction | skip
      all_goals
        cases current <;> cases held <;> cases operand <;>
          simp only [Value.arithmetic?, Arithmetic.onInt?, Option.bind_some, Option.map_eq_some_iff,
            int32?_eq_some, int64?_eq_some, reduceCtorEq] at computed
        all_goals
          obtain ⟨word, sum, rfl⟩ := computed
          exact congrArg some sum
    · contradiction

end Change

theorem FieldKind.Holds.exists_integer {kind : FieldKind} {value : Value} (held : kind.Holds value)
    (integral : kind = .int ∨ kind = .bigInt) : ∃ n, value.integer? = some n := by
  rcases integral with rfl | rfl <;> cases held <;> exact ⟨_, rfl⟩

namespace Command

/-- What a command is to do to a field of a row. -/
def changeOf? (command : Command) (row : Record) (field : String) : Option Change :=
  (command.changesOf? row).bind fun changes => changes.byField.get? field

theorem applyTo_valueAt {command : Command} {row changed : Record}
    (applied : command.applyTo row = .ok changed) (name : String) :
    match command.changeOf? row name with
    | none => changed.valueAt name = row.valueAt name
    | some change => change.apply name (row.valueAt name) = .ok (changed.valueAt name) := by
  unfold applyTo at applied
  unfold changeOf?
  split at applied
  · next untouched => cases applied; rw [untouched]; rfl
  · next changes meant =>
    rw [meant]
    exact (Changes.apply_makes applied).valueAt name

end Command

/-! ## Commands and a counter -/

namespace Dispatch

variable (entity : Entity) (address : Address) (field : String) (dispatch : Dispatch)

/-- The row of an address as a command finds it. -/
def rowOf? : Option Record := (dispatch.before.rows entity.name).find? address.isOf

/-- Whether a command leaves the row of an address under this address. -/
def Keeps : Prop :=
  dispatch.SucceedsOn entity → ∀ row ∈ dispatch.rowOf? entity address,
    dispatch.command.removes row = false ∧
      ∀ changed ∈ (dispatch.command.applyTo row).toOption, address.isOf changed = true

/-- Whether a command that changes a field of the row of an address increments or decrements it. -/
def Counts : Prop :=
  dispatch.SucceedsOn entity → ∀ row ∈ dispatch.rowOf? entity address,
    ∀ changed ∈ (dispatch.command.applyTo row).toOption,
      changed.valueAt field ≠ row.valueAt field →
        (dispatch.command.changeOf? row field).any Change.isCount = true

/-- What a command adds to a field of the row of an address: the amount of its change, if it succeeds
and reaches the row. -/
def amount : Int :=
  if dispatch.SucceedsOn entity then
    ((dispatch.rowOf? entity address).bind fun row => dispatch.command.changeOf? row field).elim 0
      Change.amount
  else 0

instance : Decidable (dispatch.Keeps entity address) :=
  inferInstanceAs (Decidable (_ → ∀ row ∈ Dispatch.rowOf? _ _ _, _ ∧ ∀ changed ∈ _, _))

instance : Decidable (dispatch.Counts entity address field) :=
  inferInstanceAs (Decidable (_ → ∀ row ∈ Dispatch.rowOf? _ _ _, ∀ changed ∈ _, _ → _))

end Dispatch

/-- Whether a store has a row of an address with an integer in a field. -/
def MemoryStore.HoldsAt (store : MemoryStore) (entity : Entity) (address : Address)
    (field : String) (n : Int) : Prop :=
  ∃ row ∈ store.rows entity.name, address.isOf row = true ∧
    (row.valueAt field).integer? = some n

section Runs

variable {entities : List Entity} {registry : Registry} {entity : Entity} {address : Address}
  {field : String} {n : Int}

/-- A command moves a counter by its amount. -/
theorem Dispatch.holdsAt (registered : Registry.ofEntities entities = .ok registry)
    (wellFormed : ∀ entity ∈ entities, entity.WellFormed) (member : entity ∈ entities)
    (fits : address.Fits entity) {dispatch : Dispatch}
    (reachable : MemoryStore.Reachable registry dispatch.before)
    (checked : dispatch.Checked registry) (keeps : dispatch.Keeps entity address)
    (counts : dispatch.Counts entity address field)
    (before : dispatch.before.HoldsAt entity address field n) :
    dispatch.after.HoldsAt entity address field (n + dispatch.amount entity address field) := by
  obtain ⟨row, stored, isOf, held⟩ := before
  have valid := MemoryStore.rows_valid registered wellFormed reachable member
  have found : dispatch.rowOf? entity address = some row :=
    find?_eq_some_of_single (valid.length_filter_isOf_le_one fits) stored isOf
  have carried := dispatch.carries registered wellFormed member reachable checked stored
    fun succeeds => (keeps succeeds row found).1
  unfold amount
  split at carried
  · next succeeds =>
    obtain ⟨changed, storedAfter, applied⟩ := carried
    have possible : changed ∈ (dispatch.command.applyTo row).toOption := by rw [applied]; rfl
    rw [if_pos succeeds, found, Option.bind_some]
    refine ⟨changed, storedAfter, (keeps succeeds row found).2 changed possible, ?_⟩
    have effect := Command.applyTo_valueAt applied field
    cases change? : dispatch.command.changeOf? row field with
    | none =>
      rw [change?] at effect
      rw [effect, held, Option.elim_none, Int.add_zero]
    | some change =>
      rw [change?] at effect
      cases isCount : change.isCount with
      | true => exact Change.integer?_of_isCount isCount held effect
      | false =>
        -- What is neither an increment nor a decrement has left the value as it was.
        have same : changed.valueAt field = row.valueAt field := by
          by_contra differs
          have counted := counts succeeds row found changed possible differs
          rw [change?, Option.any_some, isCount] at counted
          contradiction
        rw [same, held, Option.elim_some, Change.amount_of_not_isCount isCount, Int.add_zero]
  · next fails =>
    rw [if_neg fails, Int.add_zero]
    exact ⟨row, carried, isOf, held⟩

theorem MemoryStore.Run.holdsAt (registered : Registry.ofEntities entities = .ok registry)
    (wellFormed : ∀ entity ∈ entities, entity.WellFormed) (member : entity ∈ entities)
    (fits : address.Fits entity) {store final : MemoryStore} {log : List Dispatch}
    (run : Run registry store log final) (reachable : ReachableFromJson registry store)
    (keeps : ∀ dispatch ∈ log, dispatch.Keeps entity address)
    (counts : ∀ dispatch ∈ log, dispatch.Counts entity address field)
    (before : store.HoldsAt entity address field n) :
    final.HoldsAt entity address field
      (n + (log.map fun dispatch => dispatch.amount entity address field).sum) := by
  induction run generalizing n with
  | done =>
    rw [List.map_nil, List.sum_nil, Int.add_zero]
    exact before
  | setAvailable available _ ih => exact ih (reachable.setAvailable available) keeps counts before
  | dispatch checked _ ih =>
    obtain ⟨keepsFirst, keepsRest⟩ := List.forall_mem_cons.1 keeps
    obtain ⟨countsFirst, countsRest⟩ := List.forall_mem_cons.1 counts
    rw [List.map_cons, List.sum_cons, ← Int.add_assoc]
    refine ih (reachable.after checked) keepsRest countsRest ?_
    exact Dispatch.holdsAt registered wellFormed member fits reachable.reachable checked keepsFirst
      countsFirst before

end Runs

end RecordStore
