import RecordStore.Proofs.Request.Calls
import RecordStore.Request.Retry

/-! # What is made again only reads

Whether a request only reads is told from the name of its operation, before there is a command.
`check_isReadOnly` says that the command then does as the name says, and `execute_keeps` that a
request of such a name leaves alone what the reads of its store leave alone.

A store may be out of reach at any time.  `StoreInterface.interrupted` is a store with outages, that
take the place of calls.

* `retry_keeps` says that what one attempt leaves alone is left alone by all of them together.
* `retry_tallied` says how many attempts there are.
* `retryFrom_last` says which of the attempts is the last one, and `retry_bounded` says so of attempts
  whose results are given as a sequence.
-/

namespace RecordStore

variable {σ α β : Type}

/-! ## Commands that only read -/

def Command.isReadOnly : Command → Bool
  | .findUnique _ _ => true
  | .find _ _ => true
  | .count _ => true
  | .create _ => false
  | .createMany _ _ => false
  | .update _ _ => false
  | .updateMany _ _ => false
  | .upsert _ _ _ => false
  | .delete _ => false
  | .deleteMany _ => false
  | .aggregate _ => true
  | .groupBy _ => true

/-- A command only reads where the name of its operation says so. -/
theorem Operation.check_isReadOnly {operation : Operation} {entity : Entity} {limits : Limits}
    {command : Command} (checked : operation.check entity limits = .ok command) :
    command.isReadOnly = operation.kind.isReadOnly := by
  unfold check at checked
  cases kind : operation.kind <;> simp only [kind, bind_eq_ok, pure_eq_ok] at checked
  case findUnique | findUniqueOrThrow | create | createMany | delete | deleteMany | aggregate
      | groupBy =>
    obtain ⟨_, -, rfl⟩ := checked
    rfl
  case findFirst | findMany | count | update | updateMany =>
    obtain ⟨_, -, _, -, rfl⟩ := checked
    rfl
  case upsert =>
    obtain ⟨_, -, _, -, _, -, rfl⟩ := checked
    rfl

/-- Whether calls that only read leave something of a store as it is. -/
def StoreInterface.ReadsKeep (interface : StoreInterface σ) (view : σ → β) : Prop :=
  ∀ (entity : Entity) (clock : Clock) (command : Command) (store : σ), command.isReadOnly = true →
    view (command.run interface entity clock store).2 = view store

/-- A request of an operation that only reads leaves alone what reads do. -/
theorem Request.execute_keeps {interface : StoreInterface σ} {view : σ → β}
    (keeps : interface.ReadsKeep view) {request : Request} {operation : Operation}
    (read : Operation.read request.operation request.arguments = .ok operation)
    (readOnly : operation.kind.isReadOnly = true) (registry : Registry) (limits : Limits)
    (clock : Clock) (cancellation : Cancellation) (store : σ) :
    view (request.execute interface registry limits clock cancellation store).store = view store := by
  refine execute_store (motive := fun after => view after = view store) rfl ?_
  intro entity operation' command _ read' checked
  cases read.symm.trans read'
  exact keeps entity clock command store ((Operation.check_isReadOnly checked).trans readOnly)

/-! ## Stores that are out of reach at times -/

/-- A call of a store with outages, and with the number of calls before it. -/
def Call.interrupted (outage? : Nat → Option String) (call : Call σ α) : Call (σ × Nat) α :=
  fun (store, made) =>
    match outage? made with
    | some reason => (.error (.unavailable reason), (store, made + 1))
    | none => ((call store).1, ((call store).2, made + 1))

def StoreInterface.interrupted (interface : StoreInterface σ) (outage? : Nat → Option String) :
    StoreInterface (σ × Nat) :=
  interface.mapCalls (Call.interrupted outage?)

theorem Command.run_interrupted (interface : StoreInterface σ) (outage? : Nat → Option String)
    (entity : Entity) (clock : Clock) (command : Command) :
    command.run (interface.interrupted outage?) entity clock
      = (command.run interface entity clock).interrupted outage? := by
  refine Command.run_mapCalls (fun call toOutcome => funext fun (store, made) => ?_) interface entity
    clock command
  rcases outage : outage? made with _ | reason
  · rcases called : call store with ⟨error | result, after⟩ <;>
      simp [Call.outcome, Call.interrupted, outage, called]
  · simp [Call.outcome, Call.interrupted, outage]

/-- An outage leaves a store alone, so with outages reads keep what they keep without. -/
theorem StoreInterface.ReadsKeep.interrupted {interface : StoreInterface σ} {view : σ → β}
    (keeps : interface.ReadsKeep view) (outage? : Nat → Option String) :
    (interface.interrupted outage?).ReadsKeep fun state => view state.1 := by
  rintro entity clock command ⟨store, made⟩ readOnly
  rw [Command.run_interrupted]
  simp only [Call.interrupted]
  split
  · rfl
  · exact keeps entity clock command store readOnly

/-! ## Attempts -/

variable {limit : Nat} {patience : Nat → Bool} {call : σ → Except RequestError α × σ}

/-- An attempt is followed by the others, or is the last one. -/
theorem retryFrom_eq (made : Nat) (state : σ) :
    retryFrom limit patience call made state
      = if isWorthRetrying (call state).1 = true ∧ patience made = true ∧ made + 1 < limit then
          retryFrom limit patience call (made + 1) (call state).2
        else call state := by
  rw [retryFrom]
  rcases call state with ⟨result, after⟩
  simp only [Bool.and_eq_true]
  grind

theorem retryFrom_keeps {view : σ → β} (keeps : ∀ state, view (call state).2 = view state)
    (made : Nat) (state : σ) : view (retryFrom limit patience call made state).2 = view state := by
  induction left : limit - made generalizing made state with
  | zero =>
    rw [retryFrom_eq, if_neg (by omega), keeps]
  | succ rest ih =>
    rw [retryFrom_eq]
    split
    · rw [ih (made + 1) (call state).2 (by omega), keeps]
    · exact keeps state

/-- There is one attempt at least, and no more of them than there may be. -/
theorem retryFrom_tallied (made : Nat) (state : σ) (n : Nat) :
    ∃ attempts, 1 ≤ attempts ∧ attempts ≤ max 1 (limit - made) ∧
      retryFrom limit patience (tallied call) made (state, n)
        = ((retryFrom limit patience call made state).1,
            (retryFrom limit patience call made state).2, n + attempts) := by
  -- Whether there is another attempt is not for the count to say.
  have step : ∀ made state n, retryFrom limit patience (tallied call) made (state, n)
      = if isWorthRetrying (call state).1 = true ∧ patience made = true ∧ made + 1 < limit then
          retryFrom limit patience (tallied call) (made + 1) ((call state).2, n + 1)
        else ((call state).1, (call state).2, n + 1) := fun made state n => retryFrom_eq made (state, n)
  induction left : limit - made generalizing made state n with
  | zero =>
    refine ⟨1, le_rfl, le_max_left 1 _, ?_⟩
    rw [step, retryFrom_eq made state, if_neg (by omega), if_neg (by omega)]
  | succ rest ih =>
    rw [retryFrom_eq made state]
    by_cases more : isWorthRetrying (call state).1 = true ∧ patience made = true ∧ made + 1 < limit
    · obtain ⟨attempts, one, most, ran⟩ := ih (made + 1) (call state).2 (n + 1) (by omega)
      refine ⟨attempts + 1, by omega, by omega, ?_⟩
      rw [step, if_pos more, if_pos more, ran, show n + 1 + attempts = n + (attempts + 1) by omega]
    · refine ⟨1, le_rfl, le_max_left 1 _, ?_⟩
      rw [step, if_neg more, if_neg more]

theorem retry_keeps {view : σ → β} (keeps : ∀ state, view (call state).2 = view state)
    (state : σ) : view (retry limit patience call state).2 = view state :=
  retryFrom_keeps keeps 0 state

theorem retry_tallied (limit : Nat) (patience : Nat → Bool)
    (call : σ → Except RequestError α × σ) (state : σ) :
    ∃ attempts, 1 ≤ attempts ∧ attempts ≤ max 1 limit ∧
      retry limit patience (tallied call) (state, 0)
        = ((retry limit patience call state).1, (retry limit patience call state).2, attempts) := by
  simpa [retry] using retryFrom_tallied 0 state 0

/-! ## Which attempt is the last one -/

/-- The state before the attempt of a number. -/
def stateBefore (call : σ → Except RequestError α × σ) (state : σ) : Nat → σ
  | 0 => state
  | n + 1 => stateBefore call (call state).2 n

/-- The result is that of the last attempt.  All attempts in front of it were worth retrying, and it
was as well only if there may be no other or the patience has given out. -/
theorem retryFrom_last (made : Nat) (state : σ) :
    ∃ last,
      retryFrom limit patience call made state = call (stateBefore call state last) ∧
      made + last + 1 ≤ max (made + 1) limit ∧
      (∀ k < last, isWorthRetrying (call (stateBefore call state k)).1 = true) ∧
      (isWorthRetrying (call (stateBefore call state last)).1 = true →
        limit ≤ made + last + 1 ∨ patience (made + last) = false) := by
  induction left : limit - made generalizing made state with
  | zero =>
    refine ⟨0, ?_, le_max_left _ _, by simp, fun _ => .inl (by omega)⟩
    rw [retryFrom_eq, if_neg (by omega)]
    rfl
  | succ rest ih =>
    rw [retryFrom_eq]
    by_cases more : isWorthRetrying (call state).1 = true ∧ patience made = true ∧ made + 1 < limit
    · obtain ⟨last, ended, most, before, gaveUp⟩ := ih (made + 1) (call state).2 (by omega)
      have shift : made + 1 + last = made + (last + 1) := by omega
      rw [shift] at most gaveUp
      refine ⟨last + 1, by rw [if_pos more, ended]; rfl, by omega, fun k earlier => ?_, gaveUp⟩
      cases k with
      | zero => exact more.1
      | succ k => exact before k (by omega)
    · refine ⟨0, by rw [if_neg more]; rfl, le_max_left _ _, by simp, fun worth => ?_⟩
      by_contra other
      rw [not_or, Nat.not_le, Bool.not_eq_false] at other
      exact more ⟨worth, other.2, other.1⟩

theorem isWorthRetrying_iff {result : Except RequestError α} :
    isWorthRetrying result = true ↔ ∃ error, result = .error error ∧ error.isRetryable = true := by
  cases result <;> simp [isWorthRetrying]

/-- The call whose results are those of a sequence, one after the other.  Its state is the number of
times that it has been made. -/
def scripted (results : Nat → Except RequestError α) : Nat → Except RequestError α × Nat :=
  fun made => (results made, made + 1)

theorem stateBefore_scripted (results : Nat → Except RequestError α) (made n : Nat) :
    stateBefore (scripted results) made n = made + n := by
  induction n generalizing made with
  | zero => rfl
  | succ n ih => rw [stateBefore, scripted, ih, Nat.add_right_comm, Nat.add_assoc]

/-- Whatever the results are and whenever the patience gives out, a call is made once at least and no
more often than it may be.  The result is that of the last time, and all times before it ended in an
error that is worth retrying.  The last one did so only if there was no time left for another. -/
theorem retry_bounded (limit : Nat) (patience : Nat → Bool)
    (results : Nat → Except RequestError α) :
    ∃ calls, 1 ≤ calls ∧ calls ≤ max 1 limit ∧
      retry limit patience (scripted results) 0 = (results (calls - 1), calls) ∧
      (∀ k < calls - 1, ∃ error, results k = .error error ∧ error.isRetryable = true) ∧
      ((∃ error, results (calls - 1) = .error error ∧ error.isRetryable = true) →
        limit ≤ calls ∨ patience (calls - 1) = false) := by
  obtain ⟨last, ended, most, before, gaveUp⟩ :=
    @retryFrom_last _ _ limit patience (scripted results) 0 0
  simp only [stateBefore_scripted, isWorthRetrying_iff, Nat.zero_add] at ended most before gaveUp
  exact ⟨last + 1, Nat.le_add_left 1 last, most, ended, before, gaveUp⟩

end RecordStore
