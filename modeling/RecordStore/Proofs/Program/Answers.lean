import RecordStore.Proofs.Database.Stores
import RecordStore.Proofs.Memory.Stores
import RecordStore.Proofs.Request.Retries
import RecordStore.Program.Server

/-! # Answering a line repeats reads only

A server carries out the request of a line again while its store is out of reach, if the request only
reads.  A request that writes is carried out once, whatever comes of it: an attempt that has failed
may have done its work, and is not for the server to repeat.

`RepeatsReadsOnly` says what that means for one line, of a server that counts, and
`repeatsReadsOnly_of_readsKeep` proves it of a server of any store whose reads leave alone what there
is to lose.  `handleLine_repeatsReadsOnly` is about the stores that there are.
-/

namespace RecordStore

/-! ## Stores -/

/-- Reads leave the tables in memory alone, and only count as calls. -/
theorem MemoryStore.readsKeep : interface.ReadsKeep tables := by
  intro entity clock command store readOnly
  cases command with
  | create | createMany | update | updateMany | upsert | delete | deleteMany => contradiction
  | findUnique | find | count | aggregate | groupBy =>
    exact (congrArg tables (Call.outcome_store _ _ store)).trans (tables_inspect entity _ store)

/-- Reads leave a database as it is. -/
theorem DatabaseStore.readsKeep : interface.ReadsKeep tables := by
  intro entity clock command store readOnly
  cases command with
  | create | createMany | update | updateMany | upsert | delete | deleteMany => contradiction
  | findUnique | groupBy =>
    exact congrArg tables ((Call.outcome_store _ _ store).trans (store_inspect entity _ store))
  | find | count | aggregate =>
    exact congrArg tables ((Call.outcome_store _ _ store).trans (store_read entity _ _ _ store))

/-! ## Servers -/

namespace Server

variable {σ β : Type}

/-- The server, with the number of times that it has carried out a request. -/
def counted (server : Server σ) : Server (σ × Nat) where
  execute clock request := tallied (server.execute clock request)
  attempts := server.attempts
  patience := server.patience
  store := (server.store, 0)

/-- What a line does to a server: it is carried out again only if it only reads. -/
structure RepeatsReadsOnly (tables : σ → β) (server : Server σ) (clock : Clock) (line : String) :
    Prop where
  /-- Nothing but the number comes of counting. -/
  counts :
    (server.counted.handleLine clock line).1 = (server.handleLine clock line).1 ∧
    (server.counted.handleLine clock line).2.store.1 = (server.handleLine clock line).2.store
  /-- A line that is not a request is not carried out. -/
  refuses : (∀ request, Request.ofText line ≠ .ok request) →
    (server.counted.handleLine clock line).2.store = (server.store, 0)
  /-- A request that is not known to only read is carried out once. -/
  once : ∀ request, Request.ofText line = .ok request →
    (∀ operation, Operation.read request.operation request.arguments = .ok operation →
      operation.kind.isReadOnly = false) →
    (server.counted.handleLine clock line).2.store
      = ((server.execute clock request server.store).2, 1)
  /-- A request that only reads is carried out so often as it may be, and leaves the tables alone every
  time. -/
  reads : ∀ request operation, Request.ofText line = .ok request →
    Operation.read request.operation request.arguments = .ok operation →
    operation.kind.isReadOnly = true →
    (∀ store, tables (server.execute clock request store).2 = tables store) ∧
    let (store, attempts) := (server.counted.handleLine clock line).2.store
    1 ≤ attempts ∧ attempts ≤ max 1 server.attempts ∧ tables store = tables server.store

theorem isReadOnly_iff {request : Request} :
    isReadOnly request = true ↔
      ∃ operation, Operation.read request.operation request.arguments = .ok operation ∧
        operation.kind.isReadOnly = true := by
  unfold isReadOnly
  split
  · next operation read => simp [read]
  · next read => simp [read]

theorem handleLine_of_error {line : String} {fault : Json.Fault}
    (unread : Request.ofText line = .error fault) (server : Server σ) (clock : Clock) :
    server.handleLine clock line = (failure "InvalidRequest" fault.message, server) := by
  rw [handleLine, unread]

theorem handleLine_of_write {line : String} {request : Request}
    (read : Request.ofText line = .ok request) (writes : isReadOnly request = false)
    (server : Server σ) (clock : Clock) :
    server.handleLine clock line =
      (response (server.execute clock request server.store).1,
        { server with store := (server.execute clock request server.store).2 }) := by
  rw [handleLine, read]
  simp only [answer, writes]
  rfl

theorem handleLine_of_read {line : String} {request : Request}
    (read : Request.ofText line = .ok request) (readOnly : isReadOnly request = true)
    (server : Server σ) (clock : Clock) :
    let call := server.execute clock request
    server.handleLine clock line =
      (response (retry server.attempts server.patience call server.store).1,
        { server with store := (retry server.attempts server.patience call server.store).2 }) := by
  rw [handleLine, read]
  simp only [answer, readOnly]
  rfl

/-- What holds of one attempt holds of a line. -/
theorem repeatsReadsOnly {tables : σ → β} {server : Server σ} {clock : Clock}
    (keeps : ∀ request operation,
      Operation.read request.operation request.arguments = .ok operation →
      operation.kind.isReadOnly = true →
      ∀ store, tables (server.execute clock request store).2 = tables store)
    (line : String) : RepeatsReadsOnly tables server clock line := by
  cases asked : Request.ofText line with
  | error fault =>
    have plain := handleLine_of_error asked server clock
    have watched := handleLine_of_error asked server.counted clock
    exact {
      counts := by rw [plain, watched]; exact ⟨rfl, rfl⟩
      refuses := fun _ => by rw [watched]; rfl
      once := fun request read => by rw [asked] at read; contradiction
      reads := fun request operation read => by rw [asked] at read; contradiction }
  | ok request =>
    cases kind : isReadOnly request with
    | false =>
      have plain := handleLine_of_write asked kind server clock
      have watched := handleLine_of_write asked kind server.counted clock
      exact {
        counts := by rw [plain, watched]; exact ⟨rfl, rfl⟩
        refuses := fun unread => absurd asked (unread request)
        once := fun request read _ => by
          cases asked.symm.trans read
          rw [watched]
          rfl
        reads := fun request operation read known readOnly => by
          cases asked.symm.trans read
          rw [isReadOnly_iff.2 ⟨operation, known, readOnly⟩] at kind
          contradiction }
    | true =>
      have plain := handleLine_of_read asked kind server clock
      have watched := handleLine_of_read asked kind server.counted clock
      obtain ⟨operation, known, readOnly⟩ := isReadOnly_iff.1 kind
      have harmless := keeps request operation known readOnly
      obtain ⟨attempts, one, most, ran⟩ :=
        retry_tallied server.attempts server.patience (server.execute clock request) server.store
      have tally : (server.counted.handleLine clock line).2.store
          = ((server.handleLine clock line).2.store, attempts) := by
        rw [plain, watched]
        exact congrArg Prod.snd ran
      exact {
        counts := ⟨by rw [plain, watched]; exact congrArg (response ·.1) ran, by rw [tally]⟩
        refuses := fun unread => absurd asked (unread request)
        once := fun request read writes => by
          cases asked.symm.trans read
          rw [writes operation known] at readOnly
          contradiction
        reads := fun request _ read _ _ => by
          cases asked.symm.trans read
          rw [tally]
          exact ⟨harmless, one, most, by rw [plain]; exact retry_keeps harmless server.store⟩ }

theorem repeatsReadsOnly_of_readsKeep {interface : StoreInterface σ} {tables : σ → β}
    (keeps : interface.ReadsKeep tables) (registry : Registry) (config : Config)
    (patience : Nat → Bool) (store : σ) (clock : Clock) (line : String) :
    RepeatsReadsOnly tables (.ofInterface interface registry config patience store) clock line :=
  repeatsReadsOnly (fun _ _ known readOnly store =>
    Request.execute_keeps keeps known readOnly registry config.limits clock .never store) line

/-- Whatever the store holds, and whenever it is out of reach, a line is carried out more than once only
if its request is of an operation that only reads, and then no table changes. -/
theorem handleLine_repeatsReadsOnly (registry : Registry) (config : Config) (patience : Nat → Bool)
    (outage? : Nat → Option String) (clock : Clock) (line : String) :
    (∀ state : MemoryStore × Nat, RepeatsReadsOnly (fun state => state.1.tables)
      (.ofInterface (MemoryStore.interface.interrupted outage?) registry config patience state)
      clock line) ∧
    ∀ state : DatabaseStore × Nat, RepeatsReadsOnly (fun state => state.1.tables)
      (.ofInterface (DatabaseStore.interface.interrupted outage?) registry config patience state)
      clock line :=
  ⟨fun state => repeatsReadsOnly_of_readsKeep (MemoryStore.readsKeep.interrupted outage?) registry
      config patience state clock line,
    fun state => repeatsReadsOnly_of_readsKeep (DatabaseStore.readsKeep.interrupted outage?) registry
      config patience state clock line⟩

/-- A server whose store is out of reach for its first call. -/
def flakyServer : Server (MemoryStore × Nat) :=
  .ofInterface (MemoryStore.interface.interrupted fun made => if made = 0 then some "gone" else none)
    MemoryStore.manufacturerRegistry ⟨"", 1, default, 3⟩ (fun _ => true) (.empty, 0)

/-- A count is made again, and the second attempt is the last one. -/
example :
    (flakyServer.counted.handleLine (fun _ => default)
      "\x7b\"entity\":\"Manufacturers\",\"operation\":\"count\"\x7d").2.store.2 = 2 := by
  decide +kernel

/-- A deletion is not made again. -/
example :
    (flakyServer.counted.handleLine (fun _ => default)
      "\x7b\"entity\":\"Manufacturers\",\"operation\":\"deleteMany\"\x7d").2.store.2 = 1 := by
  decide +kernel

end Server

end RecordStore
