import RecordStore.Proofs.Typing.Values
import RecordStore.Request.Execution

/-! # What a request does to a store

Carrying out a request runs at most one command, and does nothing else to the store: the command that
the checks of the request have let through, on the entity that the registry has under its name.

`execute_store` is the form in which this is used: what holds of the store before and is kept by every
such command holds afterwards, however the request ends.
-/

namespace RecordStore

theorem Call.outcome_store {σ α : Type} (call : Call σ α)
    (toOutcome : α → Except StoreError Outcome) (store : σ) :
    (call.outcome toOutcome store).2 = (call store).2 := by
  unfold Call.outcome
  split <;> next called => rw [called]

theorem Call.outcome_result {σ α : Type} (call : Call σ α)
    (toOutcome : α → Except StoreError Outcome) (store : σ) :
    (call.outcome toOutcome store).1 = (call store).1 >>= toOutcome := by
  unfold Call.outcome
  split <;> next called => rw [called]; rfl

namespace Request

variable {σ : Type} {motive : σ → Prop} {store : σ}

theorem move_store {lifecycle : Lifecycle} {next : Phase} {continue_ : Lifecycle → Execution σ}
    (start : motive store) (moved : ∀ lifecycle, motive (continue_ lifecycle).store) :
    motive (move lifecycle next store continue_).store := by
  unfold move
  split
  · exact moved _
  · exact start

theorem prepare_eq_ok {registry : Registry} {limits : Limits} {request : Request} {entity : Entity}
    {command : Command} :
    request.prepare registry limits = .ok (entity, command) ↔
      registry.describe request.entity = .ok entity ∧
      ∃ operation, Operation.read request.operation request.arguments = .ok operation ∧
        operation.check entity limits = .ok command := by
  simp only [prepare, bind_eq_ok, mapError_eq_ok, pure_eq_ok, Prod.mk.injEq]
  constructor
  · rintro ⟨_, described, operation, read, _, checked, rfl, rfl⟩
    exact ⟨described, operation, read, checked⟩
  · rintro ⟨described, operation, read, checked⟩
    exact ⟨_, described, operation, read, _, checked, rfl, rfl⟩

theorem execute_store {interface : StoreInterface σ} {registry : Registry} {limits : Limits}
    {clock : Clock} {cancellation : Cancellation} {request : Request} (start : motive store)
    (ran : ∀ entity operation command, registry.describe request.entity = .ok entity →
      Operation.read request.operation request.arguments = .ok operation →
      operation.check entity limits = .ok command →
      motive (command.run interface entity clock store).2) :
    motive (request.execute interface registry limits clock cancellation store).store := by
  unfold execute
  split
  · exact start
  split
  · exact start
  · next entity command prepared =>
    obtain ⟨described, operation, read, checked⟩ := prepare_eq_ok.1 prepared
    refine move_store start fun lifecycle => ?_
    unfold dispatch
    split
    · exact start
    -- The store changes in this call only; the phases before and behind it hand it on.
    · refine move_store start fun lifecycle => ?_
      have after := ran entity operation command described read checked
      split
      · next run =>
        rw [run] at after
        exact move_store after fun lifecycle => after
      · next run =>
        rw [run] at after
        exact after

end Request

end RecordStore
