import RecordStore.Request.Lifecycle
import RecordStore.Schema.Registry
import RecordStore.Store.Interface

/-!
# Carrying out requests

A `Request` names an entity, an operation and its arguments.  `Request.execute` checks it, hands it
to a store by one call, and completes or fails its lifecycle.  A request that is rejected, or called
off in time, does not reach the store.
-/

namespace RecordStore

/-- One operation on one entity. -/
structure Request where
  entity : String
  operation : String
  arguments : Json

/-- When a request is called off, if it is. -/
inductive Cancellation where
  | never
  | beforeStart
  | beforeDispatch
deriving DecidableEq

/-- What has become of a request: its result, its lifecycle, and the store. -/
structure Execution (σ : Type) where
  result : Except RequestError Outcome
  lifecycle : Lifecycle
  store : σ

namespace Request

/-- The shape of a request; it may have fields of other names. -/
def shape : ArgumentShape :=
  ⟨"Request", [("entity", .text), ("operation", .text), ("args", .defaulted)], false⟩

/-- The request of arguments of its shape. -/
def ofArguments (arguments : Arguments) : Request :=
  let text (name : String) : String := ((arguments.get? name).bind Json.str?).getD ""
  ⟨text "entity", text "operation", (arguments.get? "args").getD .null⟩

def read (raw : Json) : Except ShapeFault Request := do
  return ofArguments (← shape.read raw)

def prepare (registry : Registry) (limits : Limits) (request : Request) :
    Except RequestError (Entity × Command) := do
  let entity ← (registry.describe request.entity).mapError .ofSchema
  let operation ← (Operation.read request.operation request.arguments).mapError .validation
  let command ← (operation.check entity limits).mapError .validation
  return (entity, command)

variable {σ : Type}

/-- Moves a request on and continues, or ends it with the fault of an illegal move. -/
def move (lifecycle : Lifecycle) (next : Phase) (store : σ)
    (continue_ : Lifecycle → Execution σ) : Execution σ :=
  match lifecycle.advance next with
  | .ok lifecycle => continue_ lifecycle
  | .error error => ⟨.error error, lifecycle, store⟩

/-- Ends a request with an error. -/
def stop (lifecycle : Lifecycle) (error : RequestError) (store : σ) : Execution σ :=
  let (error, lifecycle) := lifecycle.failWith error
  ⟨.error error, lifecycle, store⟩

@[simp] theorem stop_result (lifecycle : Lifecycle) (error : RequestError) (store : σ) :
    (stop lifecycle error store).result = .error error := rfl

@[simp] theorem stop_store (lifecycle : Lifecycle) (error : RequestError) (store : σ) :
    (stop lifecycle error store).store = store := rfl

/-- Hands a command to a store. -/
def dispatch (interface : StoreInterface σ) (clock : Clock) (cancelled : Bool) (entity : Entity)
    (command : Command) (lifecycle : Lifecycle) (store : σ) : Execution σ :=
  -- This is the last moment at which a request can be called off.
  if cancelled then stop lifecycle .cancelled store
  else
    move lifecycle .dispatched store fun lifecycle =>
      match command.run interface entity clock store with
      | (.ok outcome, store) =>
        move lifecycle .completed store fun lifecycle => ⟨.ok outcome, lifecycle, store⟩
      | (.error error, store) => stop lifecycle (.store error) store

def execute (interface : StoreInterface σ) (registry : Registry) (limits : Limits) (clock : Clock)
    (cancellation : Cancellation) (request : Request) (store : σ) : Execution σ :=
  let lifecycle := Lifecycle.start
  if cancellation = .beforeStart then stop lifecycle .cancelled store
  else
    match request.prepare registry limits with
    | .error error => stop lifecycle error store
    | .ok (entity, command) =>
      move lifecycle .validated store fun lifecycle =>
        dispatch interface clock (cancellation = .beforeDispatch) entity command lifecycle store

end Request

end RecordStore
