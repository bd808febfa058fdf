import RecordStore.Proofs.Request.Execution

/-! # How often a request calls the store

A request calls its store once or not at all, and its lifecycle says which.  To say so of any store,
the store is watched: `StoreInterface.mapCalls` puts something around every call of an interface, and
what is put around the calls is around a command, because a command is one call (`run_mapCalls`).

* `execute_cases` parts the requests by what is decided before there is a store: a request is refused
  whatever the store is, or it runs one command on whatever the store is.
* `execute_calls` counts the calls, and ties the count to the lifecycle and to the result.
-/

namespace RecordStore

variable {σ τ : Type}

/-! ## Stores that are watched -/

/-- The interface with something put around every call. -/
def StoreInterface.mapCalls (interface : StoreInterface σ)
    (around : ∀ {α : Type}, Call σ α → Call τ α) : StoreInterface τ where
  findUnique entity address := around (interface.findUnique entity address)
  findMany entity plan := around (interface.findMany entity plan)
  count entity plan := around (interface.count entity plan)
  create entity clock insertion := around (interface.create entity clock insertion)
  createMany entity clock insertions skipDuplicates :=
    around (interface.createMany entity clock insertions skipDuplicates)
  update entity address changes := around (interface.update entity address changes)
  updateMany entity filter changes := around (interface.updateMany entity filter changes)
  upsert entity clock address insertion changes :=
    around (interface.upsert entity clock address insertion changes)
  delete entity address := around (interface.delete entity address)
  deleteMany entity filter := around (interface.deleteMany entity filter)
  aggregate entity query := around (interface.aggregate entity query)
  groupBy entity query := around (interface.groupBy entity query)

/-- What is around every call, and leaves the results to be shown, is around a command once. -/
theorem Command.run_mapCalls {around : ∀ {α : Type}, Call σ α → Call τ α}
    (shows : ∀ {α : Type} (call : Call σ α) (toOutcome : α → Except StoreError Outcome),
      (around call).outcome toOutcome = around (call.outcome toOutcome))
    (interface : StoreInterface σ) (entity : Entity) (clock : Clock) (command : Command) :
    command.run (interface.mapCalls around) entity clock
      = around (command.run interface entity clock) := by
  cases command <;> exact shows _ _

/-- What is done to a store, with the number of times that it has been done. -/
def tallied {β : Type} (call : σ → β × σ) : σ × Nat → β × σ × Nat := fun (store, n) =>
  ((call store).1, (call store).2, n + 1)

/-- The interface of a store together with the number of its calls. -/
def StoreInterface.counted (interface : StoreInterface σ) : StoreInterface (σ × Nat) :=
  interface.mapCalls tallied

theorem Command.run_counted (interface : StoreInterface σ) (entity : Entity) (clock : Clock)
    (command : Command) :
    command.run interface.counted entity clock = tallied (command.run interface entity clock) := by
  refine Command.run_mapCalls (fun call toOutcome => funext fun (store, n) => ?_) interface entity
    clock command
  rcases called : call store with ⟨result, after⟩
  cases result <;> simp [Call.outcome, tallied, called]

/-! ## What is decided before there is a store -/

/-- Whether an error says that a request was not let through to a store. -/
def RequestError.isRefusal : RequestError → Bool
  | .validation _ => true
  | .unknownEntity _ => true
  | .cancelled => true
  | .store _ => false
  | .internal _ => false

namespace Request

theorem isRefusal_of_prepare {registry : Registry} {limits : Limits} {request : Request}
    {error : RequestError} (failed : request.prepare registry limits = .error error) :
    error.isRefusal = true := by
  simp only [prepare, bind_eq_error, mapError_eq_error] at failed
  rcases failed with ⟨fault, described, rfl⟩ | ⟨_, -, ⟨_, -, rfl⟩ | ⟨_, -, ⟨_, -, rfl⟩ | ⟨_, -, made⟩⟩⟩
  · -- A registry has one fault: that there is no entity of the name.
    unfold Registry.describe at described
    split at described
    · contradiction
    · cases described
      rfl
  · rfl
  · rfl
  · contradiction

/-- The execution of a request that has run a command. -/
def concluded : Except StoreError Outcome × σ → Execution σ
  | (.ok outcome, store) =>
    ⟨.ok outcome, ⟨.completed, [.received, .validated, .dispatched, .completed]⟩, store⟩
  | (.error error, store) =>
    ⟨.error (.store error), ⟨.failed, [.received, .validated, .dispatched, .failed]⟩, store⟩

/-- A request is refused before or behind its validation, whatever the store is, or else it runs one
command on whatever the store is. -/
theorem execute_cases (registry : Registry) (limits : Limits) (clock : Clock)
    (cancellation : Cancellation) (request : Request) :
    (∃ error history, error.isRefusal = true ∧
      history ∈ [[Phase.received, .failed], [.received, .validated, .failed]] ∧
      ∀ {σ : Type} (interface : StoreInterface σ) (store : σ),
        request.execute interface registry limits clock cancellation store
          = ⟨.error error, ⟨.failed, history⟩, store⟩) ∨
    ∃ (entity : Entity) (command : Command), ∀ {σ : Type} (interface : StoreInterface σ) (store : σ),
      request.execute interface registry limits clock cancellation store
        = concluded (command.run interface entity clock store) := by
  by_cases early : cancellation = .beforeStart
  · subst early
    exact .inl ⟨.cancelled, _, rfl, List.mem_cons_self, fun _ _ => rfl⟩
  cases prepared : request.prepare registry limits with
  | error error =>
    refine .inl ⟨error, _, isRefusal_of_prepare prepared, List.mem_cons_self,
      fun interface store => ?_⟩
    simp only [execute, early, prepared]
    rfl
  | ok admitted =>
    obtain ⟨entity, command⟩ := admitted
    by_cases late : cancellation = .beforeDispatch
    · refine .inl ⟨.cancelled, _, rfl, List.mem_cons_of_mem _ List.mem_cons_self,
        fun interface store => ?_⟩
      simp only [execute, prepared, dispatch, late]
      rfl
    · refine .inr ⟨entity, command, fun interface store => ?_⟩
      simp only [execute, early, prepared, dispatch, late]
      rcases command.run interface entity clock store with ⟨error | outcome, after⟩ <;> rfl

/-! ## Counting -/

/-- A request makes one call of its store if its lifecycle has come to the dispatch, and else none.
Where it was refused it has made none, and the store is as it was.  A lifecycle takes one of four
courses; it ends in completion where there is an outcome, and never takes an illegal step. -/
theorem execute_calls (interface : StoreInterface σ) (registry : Registry) (limits : Limits)
    (clock : Clock) (cancellation : Cancellation) (request : Request) (store : σ) (n : Nat) :
    let execution := request.execute interface registry limits clock cancellation store
    let counted := request.execute interface.counted registry limits clock cancellation (store, n)
    let history := execution.lifecycle.history
    (counted.result = execution.result ∧ counted.lifecycle = execution.lifecycle ∧
      counted.store.1 = execution.store) ∧
    counted.store.2 = (if .dispatched ∈ history then n + 1 else n) ∧
    (∀ error, execution.result = .error error → error.isRefusal = true →
      counted.store = (store, n) ∧ execution.store = store) ∧
    history ∈ [[.received, .failed], [.received, .validated, .failed],
      [.received, .validated, .dispatched, .completed],
      [.received, .validated, .dispatched, .failed]] ∧
    (history.getLast? = some .completed ↔ ∃ outcome, execution.result = .ok outcome) ∧
    ∀ current next, execution.result ≠ .error (.internal (.illegalTransition current next)) := by
  intro execution counted history
  rcases execute_cases registry limits clock cancellation request with
    ⟨error, course, refusal, early, refused⟩ | ⟨entity, command, ran⟩
  · -- No store is looked at.
    have executed : execution = ⟨.error error, ⟨.failed, course⟩, store⟩ := refused interface store
    have watched : counted = ⟨.error error, ⟨.failed, course⟩, (store, n)⟩ :=
      refused interface.counted (store, n)
    have legal : ∀ current next, error ≠ .internal (.illegalTransition current next) := by
      rintro current next rfl
      contradiction
    simp only [history, executed, watched, List.mem_cons, List.not_mem_nil, or_false] at early ⊢
    rcases early with rfl | rfl <;> simp [legal]
  · have executed : execution = concluded (command.run interface entity clock store) :=
      ran interface store
    have watched : counted = concluded (tallied (command.run interface entity clock) (store, n)) := by
      rw [← Command.run_counted]
      exact ran interface.counted (store, n)
    unfold tallied at watched
    simp only [history, executed, watched]
    rcases command.run interface entity clock store with ⟨error | outcome, after⟩
    · have dispatched : (RequestError.store error).isRefusal = false := rfl
      simp [concluded, dispatched]
    · simp [concluded]

end Request

end RecordStore
