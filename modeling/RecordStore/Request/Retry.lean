import RecordStore.Error

/-!
# Retrying

A call that fails because its store is not available is made again, up to a number of calls and as
long as the patience lasts; every other result is final.
-/

namespace RecordStore

variable {σ α : Type}

def isWorthRetrying : Except RequestError α → Bool
  | .ok _ => false
  | .error error => error.isRetryable

/-- Makes a call until its result is final, until `limit` calls have been made, or until the
patience gives out; `made` calls have been made before.  There is always one call. -/
def retryFrom (limit : Nat) (patience : Nat → Bool) (call : σ → Except RequestError α × σ)
    (made : Nat) (state : σ) : Except RequestError α × σ :=
  let (result, state) := call state
  if isWorthRetrying result && patience made then
    if made + 1 < limit then retryFrom limit patience call (made + 1) state else (result, state)
  else (result, state)
termination_by limit - made

/-- Makes a call until its result is final, at most `limit` times and at least once. -/
def retry (limit : Nat) (patience : Nat → Bool) (call : σ → Except RequestError α × σ) (state : σ) :
    Except RequestError α × σ :=
  retryFrom limit patience call 0 state

end RecordStore
