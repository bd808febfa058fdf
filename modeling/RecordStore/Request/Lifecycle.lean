import RecordStore.Error

/-!
# The lifecycle of a request

A request is received, validated, dispatched to a store, and then completed or failed; it may fail in
every phase before that.  A request that fails without having been dispatched has not reached any
store.
-/

namespace RecordStore

namespace Phase

/-- Whether a phase is the last one. -/
def isTerminal : Phase → Bool
  | .completed => true
  | .failed => true
  | _ => false

/-- Which phase may follow which. -/
def canBecome : Phase → Phase → Bool
  | .received, .validated => true
  | .received, .failed => true
  | .validated, .dispatched => true
  | .validated, .failed => true
  | .dispatched, .completed => true
  | .dispatched, .failed => true
  | _, _ => false

def all : List Phase := [.received, .validated, .dispatched, .completed, .failed]

/-- The phase of a name. -/
def ofName? (name : String) : Option Phase := all.find? fun phase => phase.name = name

end Phase

/-- The phase a request is in, and the phases it has been through. -/
structure Lifecycle where
  phase : Phase
  history : List Phase
deriving DecidableEq, Inhabited

namespace Lifecycle

/-- A request that has just been received. -/
def start : Lifecycle := ⟨.received, [.received]⟩

/-- Moves on to a phase, if it may follow. -/
def advance (l : Lifecycle) (next : Phase) : Except RequestError Lifecycle :=
  if l.phase.canBecome next then .ok ⟨next, l.history ++ [next]⟩
  else .error (.internal (.illegalTransition l.phase next))

/-- Marks a failure; a request in its last phase stays there. -/
def fail (l : Lifecycle) : Lifecycle :=
  if l.phase.isTerminal then l else ⟨.failed, l.history ++ [.failed]⟩

/-- Marks a failure, and hands back the error that it is due to. -/
def failWith (l : Lifecycle) (error : RequestError) : RequestError × Lifecycle := (error, l.fail)

end Lifecycle

end RecordStore
