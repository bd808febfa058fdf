import RecordStore.Proofs.Memory.Completeness
import RecordStore.Proofs.Memory.Failure
import RecordStore.Proofs.Memory.Uniqueness

/-! # What a command does to every row

A command that fails leaves the rows as they are.  One that succeeds removes some of them, applies its
changes to some of the others, and stores new rows behind them; nothing else happens to a row.
`Command.run_cases` says so for a whole table, `Dispatch.carries` follows one row through a command.

`MemoryStore.Run` are the runs of a store: commands that have been checked, one after the other, with
what each of them has found.
-/

namespace RecordStore

/-! ## Rows that a command touches -/

namespace Command

/-- The address of the row that a command is to change or to remove. -/
def address? : Command → Option Address
  | .update address _ => some address
  | .upsert address _ _ => some address
  | .delete address => some address
  | _ => none

/-- Whether a command removes a row. -/
def removes : Command → Record → Bool
  | .delete address, row => address.isOf row
  | .deleteMany filter, row => filter.selects row
  | _, _ => false

/-- What a command is to do to a row. -/
def changesOf? : Command → Record → Option Changes
  | .update address changes, row => if address.isOf row then some changes else none
  | .updateMany filter changes, row => if filter.selects row then some changes else none
  | .upsert address _ changes, row => if address.isOf row then some changes else none
  | _, _ => none

/-- A row with what a command does to it. -/
def applyTo (command : Command) (row : Record) : Except StoreError Record :=
  match command.changesOf? row with
  | none => .ok row
  | some changes => changes.apply row

end Command

/-- A row with changes that are meant for the rows of a test. -/
def Changes.applyWhere (changes : Changes) (test : Record → Bool) (row : Record) :
    Except StoreError Record :=
  if test row then changes.apply row else .ok row

theorem Changes.applyWhere_of_false {changes : Changes} {test : Record → Bool} {row : Record}
    (rejected : test row = false) : changes.applyWhere test row = .ok row := by
  rw [applyWhere, rejected]
  rfl

/-! ## Edits that succeed -/

namespace Table

variable {entity : Entity} {rows : Table}

/-- The rows in front of and behind the one of a test are none of it. -/
theorem rejected_of_parted {test : Record → Bool} {front back : Table} {row : Record}
    (single : ((front ++ row :: back).filter test).length ≤ 1) (accepted : test row = true) :
    ∀ other ∈ front ++ back, test other = false := by
  rw [List.filter_append, List.filter_cons_of_pos accepted, List.length_append,
    List.length_cons] at single
  have none : ((front ++ back).filter test).length = 0 := by
    rw [List.filter_append, List.length_append]
    omega
  intro other member
  simpa using List.filter_eq_nil_iff.1 (List.length_eq_zero_iff.1 none) other member

theorem insert_of_ok {now : Readings} {insertion : Insertion} {row : Record}
    (inserted : (insert entity now insertion rows).1 = .ok row) :
    (insert entity now insertion rows).2 = rows ++ [row] := by
  rcases insert_cases entity now insertion rows with ⟨_, -, -, run⟩ | ⟨_, -, run⟩
  · rw [run] at inserted ⊢
    cases inserted
    rfl
  · rw [run] at inserted
    contradiction

theorem insertMany_append (clock : Clock) (skipDuplicates : Bool) (n : Nat)
    (insertions : List Insertion) :
    ∃ created, (insertMany entity clock skipDuplicates n insertions rows).2 = rows ++ created := by
  refine insertMany_induction (motive := fun table => ∃ created, table = rows ++ created) ?_
    ⟨[], (List.append_nil rows).symm⟩
  rintro now insertion - _ ⟨created, rfl⟩
  rcases insert_cases entity now insertion (rows ++ created) with ⟨row, -, -, run⟩ | ⟨_, -, run⟩
  · exact ⟨created ++ [row], by rw [run, List.append_assoc]⟩
  · exact ⟨created, by rw [run]⟩

theorem staged_of_ok {α : Type} {edit : Call Table α} {result : α}
    (succeeded : (staged edit rows).1 = .ok result) :
    (edit rows).1 = .ok result ∧ (staged edit rows).2 = (edit rows).2 := by
  unfold staged at succeeded ⊢
  split at succeeded
  · next run => exact ⟨(congrArg Prod.fst run).trans succeeded, (congrArg Prod.snd run).symm⟩
  · contradiction

theorem changeAt_of_ok {changes : Changes} {front back : Table} {row changed : Record}
    (succeeded : (changeAt entity changes front row back).1 = .ok changed) :
    changes.apply row = .ok changed ∧
      (changeAt entity changes front row back).2 = front ++ changed :: back := by
  rcases changeAt_cases entity changes front row back with ⟨_, applied, -, run⟩ | ⟨_, -, run⟩
  · rw [run] at succeeded ⊢
    cases succeeded
    exact ⟨applied, rfl⟩
  · rw [run] at succeeded
    contradiction

/-- Where a test is that of one row, changes reach that row. -/
theorem changeAt_mapM {changes : Changes} {test : Record → Bool} {front back : Table}
    {row changed : Record} (single : ((front ++ row :: back).filter test).length ≤ 1)
    (accepted : test row = true)
    (succeeded : (changeAt entity changes front row back).1 = .ok changed) :
    (front ++ row :: back).mapM (changes.applyWhere test)
      = .ok (changeAt entity changes front row back).2 := by
  obtain ⟨applied, after⟩ := changeAt_of_ok succeeded
  have others := rejected_of_parted single accepted
  have unchanged : ∀ part : Table, (∀ other ∈ part, other ∈ front ++ back) →
      List.Forall₂ (fun row after => changes.applyWhere test row = .ok after) part part :=
    fun part among => List.forall₂_same.2 fun other member =>
      Changes.applyWhere_of_false (others other (among other member))
  rw [after, mapM_eq_ok]
  refine List.rel_append (unchanged front fun _ => List.mem_append_left _)
    (.cons ?_ (unchanged back fun _ => List.mem_append_right _))
  rw [Changes.applyWhere, accepted]
  exact applied

theorem update_mapM {address : Address} {changes : Changes} {changed : Record}
    (single : (rows.filter address.isOf).length ≤ 1)
    (succeeded : (update entity address changes rows).1 = .ok changed) :
    rows.mapM (changes.applyWhere address.isOf) = .ok (update entity address changes rows).2 := by
  unfold update at succeeded ⊢
  split at succeeded
  · contradiction
  · next parted =>
    obtain ⟨rfl, accepted, -⟩ := splitAtFirst_eq_some parted
    exact changeAt_mapM single accepted succeeded

theorem upsert_mapM {now : Readings} {address : Address} {insertion : Insertion}
    {changes : Changes} {row : Record} (single : (rows.filter address.isOf).length ≤ 1)
    (succeeded : (upsert entity now address insertion changes rows).1 = .ok row) :
    ∃ changed created, rows.mapM (changes.applyWhere address.isOf) = .ok changed ∧
      (upsert entity now address insertion changes rows).2 = changed ++ created := by
  unfold upsert at succeeded ⊢
  split at succeeded
  · next absent =>
    refine ⟨rows, [row], ?_, insert_of_ok succeeded⟩
    rw [mapM_eq_ok, List.forall₂_same]
    exact fun other member => Changes.applyWhere_of_false (splitAtFirst_eq_none_iff.1 absent other member)
  · next parted =>
    obtain ⟨rfl, accepted, -⟩ := splitAtFirst_eq_some parted
    exact ⟨_, [], changeAt_mapM single accepted succeeded, (List.append_nil _).symm⟩

theorem updateFrom_mapM {changes : Changes} {test : Record → Bool} {done : Table} {n : Nat}
    (succeeded : (updateFrom entity changes test done rows).1 = .ok n) :
    ∃ changed, rows.mapM (changes.applyWhere test) = .ok changed ∧
      (updateFrom entity changes test done rows).2 = done ++ changed := by
  induction rows generalizing done n with
  | nil => exact ⟨[], rfl, (List.append_nil done).symm⟩
  | cons row rest ih =>
    unfold updateFrom at succeeded ⊢
    by_cases accepted : test row = true
    · rw [if_pos accepted] at succeeded ⊢
      rcases changeAt_cases entity changes done row rest with ⟨next, applied, -, run⟩ | ⟨_, -, run⟩
      · simp only [run] at succeeded ⊢
        -- The rest is changed behind the changed row, and has to succeed as well.
        cases batch : updateFrom entity changes test (done ++ [next]) rest with
        | mk result after =>
          rw [batch] at succeeded
          cases result with
          | error => contradiction
          | ok count =>
            obtain ⟨changed, restChanged, equal⟩ := ih (congrArg Prod.fst batch)
            refine ⟨next :: changed, ?_, ?_⟩
            · rw [List.mapM_cons, Changes.applyWhere, if_pos accepted, applied, restChanged]
              rfl
            · rw [batch] at equal
              rw [equal, List.append_assoc]
              rfl
      · simp only [run] at succeeded
        contradiction
    · rw [if_neg accepted] at succeeded ⊢
      obtain ⟨changed, restChanged, equal⟩ := ih succeeded
      refine ⟨row :: changed, ?_, ?_⟩
      · rw [List.mapM_cons, Changes.applyWhere_of_false (by simpa using accepted), restChanged]
        rfl
      · rw [equal, List.append_assoc]
        rfl

theorem delete_of_ok {address : Address} {row : Record}
    (single : (rows.filter address.isOf).length ≤ 1)
    (succeeded : (delete entity address rows).1 = .ok row) :
    (delete entity address rows).2 = rows.filter fun row => !address.isOf row := by
  unfold delete at succeeded ⊢
  split at succeeded
  · contradiction
  · next parted =>
    obtain ⟨rfl, accepted, -⟩ := splitAtFirst_eq_some parted
    have others := rejected_of_parted single accepted
    rw [List.filter_append, List.filter_cons_of_neg (by simp [accepted]), ← List.filter_append]
    exact (List.filter_eq_self.2 fun other member => by rw [others other member]; rfl).symm

end Table

/-! ## Commands -/

theorem Operation.check_address {operation : Operation} {entity : Entity} {limits : Limits}
    {command : Command} (checked : operation.check entity limits = .ok command) :
    ∀ address ∈ command.address?, address.Fits entity := by
  unfold check at checked
  cases kind : operation.kind <;> simp only [kind, bind_eq_ok, pure_eq_ok] at checked
  case update =>
    obtain ⟨_, read, _, -, rfl⟩ := checked
    rintro _ ⟨⟩
    exact Address.read_fits read
  case upsert =>
    obtain ⟨_, read, _, -, _, -, rfl⟩ := checked
    rintro _ ⟨⟩
    exact Address.read_fits read
  case delete =>
    obtain ⟨_, read, rfl⟩ := checked
    rintro _ ⟨⟩
    exact Address.read_fits read
  case updateMany | findFirst | findMany | count =>
    obtain ⟨_, -, _, -, rfl⟩ := checked
    exact fun address given => absurd given (Option.not_mem_none address)
  all_goals
    obtain ⟨_, -, rfl⟩ := checked
    exact fun address given => absurd given (Option.not_mem_none address)

theorem MemoryStore.outcome_change_cases {α : Type} {entity : Entity} {edit : Call Table α}
    (atomic : Table.Atomic edit) {toOutcome : α → Except StoreError Outcome}
    (shown : ∀ result, ∃ outcome, toOutcome result = .ok outcome) {store : MemoryStore}
    {motive : Table → Prop}
    (edited : ∀ result, (edit (store.rows entity.name)).1 = .ok result →
      motive (edit (store.rows entity.name)).2) :
    let answer := (change entity edit).outcome toOutcome store
    (∃ error, answer.1 = .error error ∧ answer.2.rows entity.name = store.rows entity.name) ∨
    ∃ outcome, answer.1 = .ok outcome ∧ motive (answer.2.rows entity.name) := by
  intro answer
  cases ran : answer.1 with
  | error error => exact .inl ⟨error, rfl, rows_outcome_of_error atomic shown ran entity.name⟩
  | ok outcome =>
    obtain ⟨result, called, -⟩ := Call.exists_of_outcome ran
    obtain ⟨succeeded, after⟩ := eq_ok_of_change called
    refine .inr ⟨outcome, rfl, ?_⟩
    rw [Call.outcome_store, after]
    exact edited result succeeded

namespace Command

/-- Whether a table behind a command has the rows that the command does not remove, each with what it
does to it, and behind them new ones. -/
def Edits (command : Command) (rows after : Table) : Prop :=
  ∃ kept created, (rows.filter fun row => !command.removes row).mapM command.applyTo = .ok kept ∧
    after = kept ++ created

variable {command : Command} {rows after : Table}

theorem filter_kept (kept : ∀ row, command.removes row = false) :
    (rows.filter fun row => !command.removes row) = rows :=
  List.filter_eq_self.2 fun row _ => by rw [kept]; rfl

theorem applyTo_of_unchanged (unchanged : ∀ row, command.changesOf? row = none) :
    command.applyTo = .ok := by
  funext row
  rw [applyTo, unchanged]

theorem edits_filter (unchanged : ∀ row, command.changesOf? row = none) :
    command.Edits rows (rows.filter fun row => !command.removes row) :=
  ⟨_, [], by rw [applyTo_of_unchanged unchanged, mapM_ok], (List.append_nil _).symm⟩

theorem edits_append {created : Table} (kept : ∀ row, command.removes row = false)
    (unchanged : ∀ row, command.changesOf? row = none) (appended : after = rows ++ created) :
    command.Edits rows after :=
  ⟨rows, created, by rw [filter_kept kept, applyTo_of_unchanged unchanged, mapM_ok], appended⟩

theorem edits_mapM {changes : Changes} {test : Record → Bool} {changed created : Table}
    (kept : ∀ row, command.removes row = false)
    (meant : ∀ row, command.changesOf? row = if test row then some changes else none)
    (applied : rows.mapM (changes.applyWhere test) = .ok changed)
    (appended : after = changed ++ created) : command.Edits rows after := by
  have applies : command.applyTo = changes.applyWhere test := by
    funext row
    rw [applyTo, meant, Changes.applyWhere]
    cases test row <;> rfl
  exact ⟨changed, created, by rw [filter_kept kept, applies, applied], appended⟩

open MemoryStore Table in
/-- A command fails and leaves the rows of its entity as they are, or it succeeds and edits them. -/
theorem run_cases {entity : Entity} {clock : Clock} {command : Command} {store : MemoryStore}
    (valid : Table.Valid entity (store.rows entity.name))
    (addressed : ∀ address ∈ command.address?, address.Fits entity) :
    let rows := store.rows entity.name
    let answer := command.run interface entity clock store
    (∃ error, answer.1 = .error error ∧ answer.2.rows entity.name = rows) ∨
    ∃ outcome, answer.1 = .ok outcome ∧ command.Edits rows (answer.2.rows entity.name) := by
  intro rows answer
  have single : ∀ address ∈ command.address?, (rows.filter address.isOf).length ≤ 1 :=
    fun address given => valid.length_filter_isOf_le_one (addressed address given)
  have shown : ∀ record, ∃ outcome, Command.run.shownRecord entity record = .ok outcome :=
    fun record => ⟨_, rfl⟩
  have counted : ∀ n : Nat, ∃ outcome, (.ok (.batch n) : Except StoreError Outcome) = .ok outcome :=
    fun n => ⟨_, rfl⟩
  cases command with
  -- A read leaves the rows as they are, whether or not it fails.
  | findUnique | find | count | aggregate | groupBy =>
    have same : answer.2.rows entity.name = rows := by
      rw [rows_run]
      exact ite_self _
    cases ran : answer.1 with
    | error error => exact .inl ⟨error, rfl, same⟩
    | ok outcome =>
      have unchanged := same.trans (List.append_nil rows).symm
      exact .inr ⟨outcome, rfl, edits_append (fun _ => rfl) (fun _ => rfl) unchanged⟩
  | create insertion =>
    refine outcome_change_cases (insert_atomic entity (clock 0) insertion) shown ?_
    intro row inserted
    exact edits_append (fun _ => rfl) (fun _ => rfl) (insert_of_ok inserted)
  | createMany insertions skipDuplicates =>
    refine outcome_change_cases (staged_atomic _) counted ?_
    intro n inserted
    obtain ⟨created, appended⟩ := insertMany_append clock skipDuplicates 0 insertions
    exact edits_append (fun _ => rfl) (fun _ => rfl) ((staged_of_ok inserted).2.trans appended)
  | update address changes =>
    refine outcome_change_cases (update_atomic entity address changes) shown ?_
    intro row updated
    have applied := update_mapM (single address rfl) updated
    exact edits_mapM (fun _ => rfl) (fun _ => rfl) applied (List.append_nil _).symm
  | updateMany filter changes =>
    refine outcome_change_cases (staged_atomic _) counted ?_
    intro n updated
    obtain ⟨succeeded, equal⟩ := staged_of_ok updated
    obtain ⟨changed, applied, after⟩ := updateFrom_mapM succeeded
    rw [← List.append_nil ([] ++ changed)] at after
    exact edits_mapM (fun _ => rfl) (fun _ => rfl) applied (equal.trans after)
  | upsert address insertion changes =>
    refine outcome_change_cases (upsert_atomic entity (clock 0) address insertion changes) shown ?_
    intro row stored
    obtain ⟨changed, created, applied, after⟩ := upsert_mapM (single address rfl) stored
    exact edits_mapM (fun _ => rfl) (fun _ => rfl) applied after
  | delete address =>
    refine outcome_change_cases (delete_atomic entity address) shown ?_
    intro row deleted
    rw [delete_of_ok (single address rfl) deleted]
    exact edits_filter fun _ => rfl
  | deleteMany filter =>
    refine outcome_change_cases (deleteMany_atomic filter) counted ?_
    intro n deleted
    exact edits_filter fun _ => rfl

end Command

/-! ## Commands that have been dispatched -/

/-- A command on an entity, and the store that it finds. -/
structure Dispatch where
  entity : Entity
  command : Command
  clock : Clock
  before : MemoryStore

namespace Dispatch

def answer (dispatch : Dispatch) : Except StoreError Outcome × MemoryStore :=
  dispatch.command.run MemoryStore.interface dispatch.entity dispatch.clock dispatch.before

/-- The store that a command leaves. -/
def after (dispatch : Dispatch) : MemoryStore := dispatch.answer.2

/-- Whether a command is on an entity and succeeds. -/
def SucceedsOn (dispatch : Dispatch) (entity : Entity) : Prop :=
  dispatch.entity = entity ∧ dispatch.answer.1.isOk = true

instance (dispatch : Dispatch) (entity : Entity) : Decidable (dispatch.SucceedsOn entity) :=
  inferInstanceAs (Decidable (_ ∧ _))

/-- A dispatch of what the checks of an operation have let through. -/
structure Checked (registry : Registry) (dispatch : Dispatch) : Prop where
  described : ∃ name, registry.describe name = .ok dispatch.entity
  checked : ∃ (operation : Operation) (limits : Limits), operation.arguments.IsProper ∧
    operation.check dispatch.entity limits = .ok dispatch.command

end Dispatch

namespace MemoryStore

/-- The runs of a store, with what is dispatched to it; it may be switched off and on. -/
inductive Run (registry : Registry) : MemoryStore → List Dispatch → MemoryStore → Prop where
  | done (store : MemoryStore) : Run registry store [] store
  | setAvailable {store final : MemoryStore} {log : List Dispatch} (available : Bool)
      (rest : Run registry (store.setAvailable available) log final) : Run registry store log final
  | dispatch {dispatch : Dispatch} {final : MemoryStore} {log : List Dispatch}
      (checked : dispatch.Checked registry) (rest : Run registry dispatch.after log final) :
      Run registry dispatch.before (dispatch :: log) final

variable {registry : Registry} {store middle final : MemoryStore} {log later : List Dispatch}

theorem ReachableFromJson.after {dispatch : Dispatch}
    (before : ReachableFromJson registry dispatch.before) (checked : dispatch.Checked registry) :
    ReachableFromJson registry dispatch.after := by
  obtain ⟨⟨name, described⟩, operation, limits, proper, accepted⟩ := checked
  exact before.run described proper accepted dispatch.clock

theorem Run.reachable (run : Run registry store log final)
    (before : ReachableFromJson registry store) : ReachableFromJson registry final := by
  induction run with
  | done => exact before
  | setAvailable available _ ih => exact ih (before.setAvailable available)
  | dispatch checked _ ih => exact ih (before.after checked)

theorem Run.trans (run : Run registry store log middle) (next : Run registry middle later final) :
    Run registry store (log ++ later) final := by
  induction run with
  | done => exact next
  | setAvailable available _ ih => exact .setAvailable available (ih next)
  | dispatch checked _ ih => exact .dispatch checked (ih next)

end MemoryStore

namespace Dispatch

variable {entities : List Entity} {registry : Registry} {entity : Entity} {dispatch : Dispatch}

/-- A row that is not removed is behind a command with what the command does to it, if the command
succeeds on its entity, and else as it was. -/
theorem carries (registered : Registry.ofEntities entities = .ok registry)
    (wellFormed : ∀ entity ∈ entities, entity.WellFormed) (member : entity ∈ entities)
    (reachable : MemoryStore.Reachable registry dispatch.before)
    (checked : dispatch.Checked registry) {row : Record}
    (stored : row ∈ dispatch.before.rows entity.name)
    (kept : dispatch.SucceedsOn entity → dispatch.command.removes row = false) :
    if dispatch.SucceedsOn entity then
      ∃ changed ∈ dispatch.after.rows entity.name, dispatch.command.applyTo row = .ok changed
    else row ∈ dispatch.after.rows entity.name := by
  obtain ⟨⟨name, described⟩, operation, limits, -, accepted⟩ := checked
  by_cases same : entity.name = dispatch.entity.name
  · obtain rfl : dispatch.entity = entity :=
      Registry.describe_unique registered member described same
    have valid := MemoryStore.rows_valid registered wellFormed reachable member
    rcases Command.run_cases valid (Operation.check_address accepted) with
      ⟨error, failed, after⟩ | ⟨outcome, succeeded, left, created, applied, after⟩
    · have fails : ¬ dispatch.SucceedsOn dispatch.entity := fun succeeds => by
        have ok := succeeds.2
        rw [answer, failed] at ok
        contradiction
      rw [if_neg fails]
      exact after ▸ stored
    · have succeeds : dispatch.SucceedsOn dispatch.entity := ⟨rfl, by rw [answer, succeeded]; rfl⟩
      rw [if_pos succeeds]
      have remains : row ∈ (dispatch.before.rows dispatch.entity.name).filter
          fun row => !dispatch.command.removes row :=
        List.mem_filter.2 ⟨stored, by rw [kept succeeds]; rfl⟩
      obtain ⟨changed, among, changedTo⟩ := exists_result_of_mapM applied remains
      exact ⟨changed, after ▸ List.mem_append_left created among, changedTo⟩
  · have elsewhere : ¬ dispatch.SucceedsOn entity := fun succeeds => same (by rw [succeeds.1])
    rw [if_neg elsewhere, after, answer, MemoryStore.rows_run, if_neg fun edited => same edited.2]
    exact stored

end Dispatch

end RecordStore
