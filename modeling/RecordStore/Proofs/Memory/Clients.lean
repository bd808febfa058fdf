import RecordStore.Proofs.Memory.Counters
import RecordStore.Proofs.Request.Calls

/-! # Clients that share a store

A client works through its requests: it has the next one checked, which takes no store, and then
dispatches what has been let through, which is one call.  Between the two any other client may have its
turn, so that what a request finds is not what was there when it was checked.  A schedule says whose
turn it is; it may also call a request off, up to its dispatch, and switch the store off and on.

`SharedStore.run_counter` is what this is about: no increment or decrement of a counter is lost, and
none is made twice.
-/

namespace RecordStore

/-- A client of a store: the requests that it has yet to make, and what the checks of the last one have
let through, if that has not been dispatched. -/
structure Client where
  limits : Limits
  requests : List Request
  admitted? : Option (Entity × Command)

/-- A store with its clients. -/
structure SharedStore where
  store : MemoryStore
  clients : List Client

/-- What happens next: a client has its turn, or calls off what it is at, or the store is switched. -/
inductive Turn where
  | advance (client : Nat) (clock : Clock)
  | callOff (client : Nat)
  | setAvailable (available : Bool)

namespace Client

/-- The client, with its next request checked.  A request that is refused is done with. -/
def check (registry : Registry) (client : Client) : Client :=
  match client.requests with
  | [] => client
  | request :: rest =>
    { client with
      requests := rest
      admitted? := (request.prepare registry client.limits).toOption }

/-- The client, with the request that it is at, or else the next one, called off. -/
def callOff (client : Client) : Client :=
  match client.admitted? with
  | some _ => { client with admitted? := none }
  | none => { client with requests := client.requests.tail }

/-- Whether the requests of a client are proper JSON, and what is admitted was one of them. -/
structure Sound (registry : Registry) (client : Client) : Prop where
  proper : ∀ request ∈ client.requests, request.arguments.Proper
  admitted : ∀ admitted ∈ client.admitted?, ∃ request : Request, request.arguments.Proper ∧
    request.prepare registry client.limits = .ok admitted

end Client

namespace SharedStore

/-- One turn, with what is dispatched in it. -/
def step (registry : Registry) (shared : SharedStore) : Turn → Option Dispatch × SharedStore
  | .advance i clock =>
    match shared.clients[i]? with
    | none => (none, shared)
    | some client =>
      match client.admitted? with
      | none => (none, { shared with clients := shared.clients.set i (client.check registry) })
      | some (entity, command) =>
        let dispatch : Dispatch := ⟨entity, command, clock, shared.store⟩
        (some dispatch, ⟨dispatch.after, shared.clients.set i { client with admitted? := none }⟩)
  | .callOff i =>
    match shared.clients[i]? with
    | none => (none, shared)
    | some client => (none, { shared with clients := shared.clients.set i client.callOff })
  | .setAvailable available => (none, { shared with store := shared.store.setAvailable available })

/-- A run of turns, with everything that is dispatched in it. -/
def run (registry : Registry) (shared : SharedStore) : List Turn → List Dispatch × SharedStore
  | [] => ([], shared)
  | turn :: rest =>
    let (dispatch?, next) := shared.step registry turn
    let (log, final) := next.run registry rest
    (dispatch?.toList ++ log, final)

end SharedStore

/-! ## Clients stay sound -/

section Soundness

variable {registry : Registry} {client : Client}

namespace Client

theorem Sound.check (sound : client.Sound registry) : (client.check registry).Sound registry := by
  obtain ⟨proper, admitted⟩ := sound
  unfold Client.check
  split
  · exact ⟨proper, admitted⟩
  · next request rest queued =>
    rw [queued, List.forall_mem_cons] at proper
    refine ⟨proper.2, fun passed given => ⟨request, proper.1, ?_⟩⟩
    cases prepared : request.prepare registry client.limits with
    | error => rw [prepared] at given; cases given
    | ok => rw [prepared] at given; cases given; rfl

theorem Sound.callOff (sound : client.Sound registry) : client.callOff.Sound registry := by
  obtain ⟨proper, admitted⟩ := sound
  unfold Client.callOff
  split
  · exact ⟨proper, fun _ given => absurd given (Option.not_mem_none _)⟩
  · exact ⟨fun request member => proper request (List.mem_of_mem_tail member), admitted⟩

theorem Sound.dispatched (sound : client.Sound registry) :
    Client.Sound registry { client with admitted? := none } :=
  ⟨sound.proper, fun _ given => absurd given (Option.not_mem_none _)⟩

end Client

namespace SharedStore

open MemoryStore (Run)

variable {shared : SharedStore}

theorem sound_set {clients : List Client} (sound : ∀ client ∈ clients, client.Sound registry)
    (i : Nat) (next : client.Sound registry) :
    ∀ other ∈ clients.set i client, other.Sound registry := by
  intro other member
  rcases List.mem_or_eq_of_mem_set member with before | rfl
  · exact sound other before
  · exact next

/-- A turn is a run of the store with one dispatch or none. -/
theorem step_run (sound : ∀ client ∈ shared.clients, client.Sound registry) (turn : Turn) :
    let (dispatch?, next) := shared.step registry turn
    Run registry shared.store dispatch?.toList next.store ∧
      ∀ client ∈ next.clients, client.Sound registry := by
  cases turn with
  | setAvailable available => exact ⟨.setAvailable available (.done _), sound⟩
  | callOff i =>
    simp only [step]
    split
    · exact ⟨.done _, sound⟩
    · next client found =>
      have here := sound client (List.mem_of_getElem? found)
      exact ⟨.done _, sound_set sound i here.callOff⟩
  | advance i clock =>
    simp only [step]
    split
    · exact ⟨.done _, sound⟩
    · next client found =>
      have here := sound client (List.mem_of_getElem? found)
      split
      · exact ⟨.done _, sound_set sound i here.check⟩
      · next entity command waiting =>
        -- What is dispatched was let through at an earlier turn, whatever the store was then.
        obtain ⟨request, proper, prepared⟩ := here.admitted _ waiting
        obtain ⟨described, operation, read, accepted⟩ := Request.prepare_eq_ok.1 prepared
        have checked : Dispatch.Checked registry ⟨entity, command, clock, shared.store⟩ :=
          ⟨⟨_, described⟩, operation, client.limits, Operation.read_isProper proper read, accepted⟩
        exact ⟨.dispatch checked (.done _), sound_set sound i here.dispatched⟩

/-- A schedule is a run of the store. -/
theorem run_run (sound : ∀ client ∈ shared.clients, client.Sound registry)
    (schedule : List Turn) :
    let (log, final) := shared.run registry schedule
    Run registry shared.store log final.store := by
  induction schedule generalizing shared with
  | nil => exact .done _
  | cons turn rest ih =>
    obtain ⟨first, after⟩ := step_run sound turn
    exact first.trans (ih after)

theorem step_callOff {i : Nat} (found : shared.clients[i]? = some client) :
    shared.step registry (.callOff i)
      = (none, { shared with clients := shared.clients.set i client.callOff }) := by
  rw [step, found]

theorem step_check {i : Nat} (found : shared.clients[i]? = some client)
    (idle : client.admitted? = none) (clock : Clock) :
    shared.step registry (.advance i clock)
      = (none, { shared with clients := shared.clients.set i (client.check registry) }) := by
  rw [step, found]
  simp only [idle]

theorem step_dispatch {i : Nat} (found : shared.clients[i]? = some client) {entity : Entity}
    {command : Command} (admitted : client.admitted? = some (entity, command)) (clock : Clock) :
    let dispatch : Dispatch := ⟨entity, command, clock, shared.store⟩
    shared.step registry (.advance i clock)
      = (some dispatch,
          ⟨dispatch.after, shared.clients.set i { client with admitted? := none }⟩) := by
  rw [step, found]
  simp only [admitted]

/-- Carrying out a request without a break is a schedule of the turns of one client: its outcome is that
of the dispatch, if there is one. -/
theorem execute_run {i : Nat} (found : shared.clients[i]? = some client)
    (idle : client.admitted? = none) {request : Request} {rest : List Request}
    (queued : client.requests = request :: rest) (clock : Clock) (cancellation : Cancellation) :
    ∃ schedule,
      let execution := request.execute MemoryStore.interface registry client.limits clock
        cancellation shared.store
      let (log, final) := shared.run registry schedule
      final = ⟨execution.store, shared.clients.set i { client with requests := rest }⟩ ∧
        ∀ outcome, execution.result = .ok outcome ↔
          ∃ dispatch ∈ log, dispatch.answer.1 = .ok outcome := by
  have inside : i < shared.clients.length := (List.getElem?_eq_some_iff.1 found).1
  have dropped : client.callOff = { client with requests := rest } := by
    simp only [Client.callOff, idle, queued, List.tail_cons]
  by_cases early : cancellation = .beforeStart
  · subst early
    refine ⟨[.callOff i], ?_⟩
    simp [run, step_callOff found, dropped, Request.execute]
  cases prepared : request.prepare registry client.limits with
  | error error =>
    have refused : client.check registry = { client with requests := rest } := by
      simp only [Client.check, queued, prepared, idle, Except.toOption]
    refine ⟨[.advance i clock], ?_⟩
    simp [run, step_check found idle, refused, Request.execute, early, prepared]
  | ok admitted =>
    obtain ⟨entity, command⟩ := admitted
    let passed : Client := ⟨client.limits, rest, some (entity, command)⟩
    let next : SharedStore := ⟨shared.store, shared.clients.set i passed⟩
    have checked : shared.step registry (.advance i clock) = (none, next) := by
      rw [step_check found idle]
      simp only [Client.check, queued, prepared, Except.toOption, next, passed]
    have waiting : next.clients[i]? = some passed := List.getElem?_set_self inside
    by_cases late : cancellation = .beforeDispatch
    · refine ⟨[.advance i clock, .callOff i], ?_⟩
      have cancelled : request.execute MemoryStore.interface registry client.limits clock
          cancellation shared.store
            = ⟨.error .cancelled, ⟨.failed, [.received, .validated, .failed]⟩, shared.store⟩ := by
        simp only [Request.execute, prepared, Request.dispatch, late]
        rfl
      simp [run, checked, step_callOff waiting, Client.callOff, cancelled, passed, next, idle]
    · refine ⟨[.advance i clock, .advance i clock], ?_⟩
      let dispatch : Dispatch := ⟨entity, command, clock, shared.store⟩
      have executed : request.execute MemoryStore.interface registry client.limits clock
          cancellation shared.store = Request.concluded dispatch.answer := by
        simp only [Request.execute, early, prepared, Request.dispatch, late, dispatch,
          Dispatch.answer]
        rcases command.run MemoryStore.interface entity clock shared.store with
          ⟨error | outcome, after⟩ <;> rfl
      have dispatched : next.step registry (.advance i clock) = (some dispatch,
          ⟨dispatch.after, next.clients.set i { passed with admitted? := none }⟩) :=
        step_dispatch waiting rfl clock
      rw [executed]
      rcases answered : dispatch.answer with ⟨error | outcome, after⟩ <;>
        simp [run, checked, dispatched, Dispatch.after, answered, Request.concluded, passed, next,
          idle]

end SharedStore

end Soundness

/-! ## Counters -/

namespace SharedStore

/-- However the requests of any number of clients are interleaved: if no command that succeeds removes a
row or takes it to another identity, and those that change an integer field of it do so by increments
and decrements, then the field ends with what it began with and the amounts of the commands that have
succeeded and reached the row.  Commands that fail add nothing, wherever they have broken off. -/
theorem run_counter {entities : List Entity} {registry : Registry} {shared : SharedStore}
    {entity : Entity} {row : Record} {field : Field}
    (registered : Registry.ofEntities entities = .ok registry)
    (declared : ∀ entity ∈ entities,
      ∃ name fields identity, Entity.declare name fields identity = .ok entity)
    (reachable : MemoryStore.ReachableFromJson registry shared.store)
    (sound : ∀ client ∈ shared.clients, client.Sound registry) (schedule : List Turn)
    (member : entity ∈ entities) (stored : row ∈ shared.store.rows entity.name)
    (isField : field ∈ entity.fields) (integral : field.kind = .int ∨ field.kind = .bigInt)
    (present : (row.valueAt field.name).isNull = false) :
    let address := Address.ofValues row entity.identity
    let log := (shared.run registry schedule).1
    let final := (shared.run registry schedule).2.store
    (∀ dispatch ∈ log, dispatch.Keeps entity address) →
    (∀ dispatch ∈ log, dispatch.Counts entity address field.name) →
    ∃ first last n, (row.valueAt field.name).integer? = some first ∧
      (final.rows entity.name).filter address.isOf = [last] ∧
      (last.valueAt field.name).integer? = some n ∧
      n = first + (log.map fun dispatch => dispatch.amount entity address field.name).sum := by
  intro address log final keeps counts
  have wellFormed := Entity.forall_wellFormed declared
  have typed := MemoryStore.rows_wellTyped registered (declared entity member) reachable member row
    stored
  have points := typed.pointsTo_identity (wellFormed entity member)
  obtain ⟨fits, isOf⟩ := typed.fits_of_pointsTo (wellFormed entity member) points
  obtain ⟨first, held⟩ := ((typed.admits field isField).fits.holds present).exists_integer integral
  have run := run_run sound schedule
  obtain ⟨last, storedLast, isOfLast, heldLast⟩ := run.holdsAt registered wellFormed member fits
    reachable keeps counts ⟨row, stored, isOf, held⟩
  have reached := run.reachable reachable
  have valid := MemoryStore.rows_valid registered wellFormed reached.reachable member
  have single := valid.length_filter_isOf_le_one fits
  exact ⟨first, last, _, held, filter_eq_singleton single storedLast isOfLast, heldLast, rfl⟩

/-! ## Scores of the catalogue -/

open MemoryStore (eventFrames frameRegistry frameStore reachable_frameStore storedFrame
  tableFrames_eq)

/-- A frame whose score is close to the greatest. -/
def scoreRequest : Request :=
  let frame : Json := .obj [("EventId", .int 7), ("FrameId", .int 2), ("Score", .int 2147483640)]
  ⟨"Frames", "create", .obj [("data", frame)]⟩

/-- Three clients: one raises all scores, and then again by less; two change that of the first frame. -/
def scoreKeepers : SharedStore :=
  let first : Json := .obj [("Id", .int 1)]
  let score (operator : String) (n : Int) : Json := .obj [("Score", .obj [(operator, .int n)])]
  let raiseAll (n : Int) : Request :=
    ⟨"Frames", "updateMany", .obj [("data", score "increment" n)]⟩
  let frame : Json := .obj [("EventId", .int 7), ("FrameId", .int 1)]
  ⟨(scoreRequest.execute MemoryStore.interface frameRegistry default (fun _ => default) .never
      frameStore).store,
    [⟨default, [raiseAll 10, raiseAll 3], none⟩,
     ⟨default, [⟨"Frames", "update",
        .obj [("where", first), ("data", score "increment" 5)]⟩], none⟩,
     ⟨default, [⟨"Frames", "upsert",
        .obj [("where", first), ("create", frame), ("update", score "decrement" 2)]⟩], none⟩]⟩

/-- All three are checked before the first of them is dispatched. -/
def scoreSchedule : List Turn := [0, 1, 2, 1, 0, 0, 2, 0].map fun i => .advance i fun _ => default

/-- Raising all scores by ten breaks off at the second frame, when the first one has been raised in the
copy; nothing of it stays. -/
theorem scores_counted :
    let address := Address.ofValues storedFrame eventFrames.identity
    let log := (scoreKeepers.run frameRegistry scoreSchedule).1
    let final := (scoreKeepers.run frameRegistry scoreSchedule).2.store
    log.map (fun dispatch => dispatch.answer.1.isOk) = [true, false, true, true] ∧
    ∃ last, (final.rows eventFrames.name).filter address.isOf = [last] ∧
      (last.valueAt "Score").integer? = some 6 := by
  have registered : Registry.ofEntities [eventFrames] = .ok frameRegistry := rfl
  have declared : ∀ entity ∈ [eventFrames],
      ∃ name fields identity, Entity.declare name fields identity = .ok entity := by
    intro entity member
    rw [List.mem_singleton.1 member]
    exact ⟨_, _, _, tableFrames_eq⟩
  have reachable : MemoryStore.ReachableFromJson frameRegistry scoreKeepers.store := by
    refine reachable_frameStore.execute _ _ _ ?_
    simp [scoreRequest]
  have sound : ∀ client ∈ scoreKeepers.clients, client.Sound frameRegistry := by
    have idle : ∀ client ∈ scoreKeepers.clients, client.admitted? = none := by
      simp [scoreKeepers]
    have proper : ∀ client ∈ scoreKeepers.clients, ∀ request ∈ client.requests,
        request.arguments.Proper := by
      simp [scoreKeepers]
    intro client member
    refine ⟨proper client member, fun _ given => ?_⟩
    rw [idle client member] at given
    exact absurd given (Option.not_mem_none _)
  have stored : storedFrame ∈ scoreKeepers.store.rows eventFrames.name := by decide +kernel
  have isField : (Field.ofKind .int "Score").withDefault (.int 0) ∈ eventFrames.fields := by decide
  obtain ⟨first, last, n, began, only, ended, counted⟩ :=
    run_counter registered declared reachable sound scoreSchedule List.mem_cons_self stored isField
      (.inl rfl) rfl (by decide +kernel) (by decide +kernel)
  have amounts : (scoreKeepers.run frameRegistry scoreSchedule).1.map
      (fun dispatch => dispatch.amount eventFrames
        (Address.ofValues storedFrame eventFrames.identity) "Score") = [5, 0, -2, 3] := by
    decide +kernel
  have zero : first = 0 := (Option.some.inj began).symm
  have six : n = 6 := by
    rw [counted, zero]
    exact congrArg (fun amounts => 0 + List.sum amounts) amounts
  exact ⟨by decide +kernel, last, only, ended.trans (congrArg some six)⟩

end SharedStore

end RecordStore
