import RecordStore.Json.Writer
import RecordStore.Program.Config
import RecordStore.Request.Retry
import RecordStore.Request.Text
import RecordStore.Store.Interface

/-!
# Answering requests

A `Server` answers one line at a time, each with one line: the outcome of a request, or the kind and
the message of what went wrong.  Requests that only read are retried while the store is not
available.
-/

namespace RecordStore

/-- What answers requests, by carrying them out on a store. -/
structure Server (σ : Type) where
  execute : Clock → Request → σ → Except RequestError Outcome × σ
  attempts : Nat
  /-- Whether there is time for another attempt, so many having been made before the last one. -/
  patience : Nat → Bool
  store : σ

namespace Server

variable {σ : Type}

/-- The server of a store, as it is configured. -/
def ofInterface (interface : StoreInterface σ) (registry : Registry) (config : Config)
    (patience : Nat → Bool) (store : σ) : Server σ where
  execute clock request store :=
    let execution := request.execute interface registry config.limits clock .never store
    (execution.result, execution.store)
  attempts := config.retryAttempts
  patience := patience
  store := store

def success (outcome : Outcome) : Json := .obj [("ok", outcome.toJson)]

def failure (kind message : String) : Json :=
  .obj [("error", .obj [("kind", .str kind), ("message", .str message)])]

def response : Except RequestError Outcome → Json
  | .ok outcome => success outcome
  | .error error => failure error.kind error.message

/-- Whether a request names an operation that only reads, with arguments of its shape. -/
def isReadOnly (request : Request) : Bool :=
  match Operation.read request.operation request.arguments with
  | .ok operation => operation.kind.isReadOnly
  | .error _ => false

def answer (server : Server σ) (clock : Clock) (request : Request) : Json × Server σ :=
  let call := server.execute clock request
  let (result, store) :=
    if isReadOnly request then retry server.attempts server.patience call server.store
    else call server.store
  (response result, { server with store := store })

def handleLine (server : Server σ) (clock : Clock) (line : String) : Json × Server σ :=
  match Request.ofText line with
  | .error fault => (failure "InvalidRequest" fault.message, server)
  | .ok request => server.answer clock request

/-- Answers a line; a blank one has no answer. -/
def handle (server : Server σ) (clock : Clock) (line : String) : Option String × Server σ :=
  if isBlankText line.toList then (none, server)
  else
    let (response, server) := server.handleLine clock line
    (some response.compact, server)

def handleAll (server : Server σ) (clock : Clock) : List String → List String
  | [] => []
  | line :: rest =>
    let (response?, server) := server.handle clock line
    response?.toList ++ server.handleAll clock rest

end Server

end RecordStore
