import RecordStore.Request.Operation

/-!
# What a store does

A store keeps the rows of every entity.  `StoreInterface` lists the calls that it answers, each with
arguments that have passed every check; `Command.run` carries out a command by exactly one of them.

A call is a function of the store before it: it gives a result and the store after it.  What time it
is comes in with the call, as what the clock reads for each row and for each of its fields.
-/

namespace RecordStore

/-- The readings of the clock during a call, for one new row after the other. -/
abbrev Clock := Nat → Readings

/-- A call of a store: a result, and the store afterwards. -/
abbrev Call (σ α : Type) := σ → Except StoreError α × σ

/-- The calls that a store answers. -/
structure StoreInterface (σ : Type) where
  /-- The row of an address, if there is one. -/
  findUnique : Entity → Address → Call σ (Option Record)
  /-- The rows of a plan, in its order. -/
  findMany : Entity → Plan → Call σ (List Record)
  count : Entity → Plan → Call σ Nat
  /-- Stores a new row and gives it back. -/
  create : Entity → Clock → Insertion → Call σ Record
  /-- Stores new rows, all or none, and counts them.  Rows that collide with a unique key are left
  out instead, if so wished. -/
  createMany : Entity → Clock → List Insertion → Bool → Call σ Nat
  /-- Changes the row of an address and gives it back. -/
  update : Entity → Address → Changes → Call σ Record
  /-- Changes every row that passes a filter, all or none, and counts them. -/
  updateMany : Entity → Filter → Changes → Call σ Nat
  /-- Changes the row of an address, or stores a new row if there is none. -/
  upsert : Entity → Clock → Address → Insertion → Changes → Call σ Record
  /-- Removes the row of an address and gives it back. -/
  delete : Entity → Address → Call σ Record
  /-- Removes every row that passes a filter and counts them. -/
  deleteMany : Entity → Filter → Call σ Nat
  /-- The aggregates of a window of rows. -/
  aggregate : Entity → AggregateQuery → Call σ AggregateValues
  groupBy : Entity → GroupQuery → Call σ (List Group)

/-- What a request comes to. -/
inductive Outcome where
  | record (found? : Option Record)
  | records (found : List Record)
  | count (total : Nat)
  | batch (total : Nat)
  | aggregate (values : AggregateValues)
  | groups (found : List Group)
deriving DecidableEq

def Outcome.toJson : Outcome → Json
  | .record none => .null
  | .record (some found) => found.recordJson
  | .records found => .arr (found.map FieldMap.recordJson)
  | .count n => .int n
  | .batch n => .obj [("count", .int n)]
  | .aggregate values => values.aggregateJson
  | .groups found => .arr (found.map Group.toJson)

/-- The outcome of a successful call. -/
def Call.outcome {σ α : Type} (call : Call σ α) (toOutcome : α → Except StoreError Outcome) :
    Call σ Outcome := fun store =>
  match call store with
  | (.ok result, store) => (toOutcome result, store)
  | (.error error, store) => (.error error, store)

/-- Carries out a command by one call of a store.  Rows are shown complete. -/
def Command.run {σ : Type} (store : StoreInterface σ) (entity : Entity) (clock : Clock) :
    Command → Call σ Outcome
  | .findUnique address orThrow =>
    (store.findUnique entity address).outcome fun
      | some record => .ok (.record (some (entity.complete record)))
      | none => if orThrow then .error (.notFound entity.name) else .ok (.record none)
  | .find plan first =>
    (store.findMany entity plan).outcome fun records =>
      let shown := records.map entity.complete
      .ok (if first then .record shown.head? else .records shown)
  | .count plan => (store.count entity plan).outcome fun n => .ok (.count n)
  | .create insertion => (store.create entity clock insertion).outcome shownRecord
  | .createMany insertions skipDuplicates =>
    (store.createMany entity clock insertions skipDuplicates).outcome fun n => .ok (.batch n)
  | .update address changes => (store.update entity address changes).outcome shownRecord
  | .updateMany filter changes =>
    (store.updateMany entity filter changes).outcome fun n => .ok (.batch n)
  | .upsert address insertion changes =>
    (store.upsert entity clock address insertion changes).outcome shownRecord
  | .delete address => (store.delete entity address).outcome shownRecord
  | .deleteMany filter => (store.deleteMany entity filter).outcome fun n => .ok (.batch n)
  | .aggregate query => (store.aggregate entity query).outcome fun values => .ok (.aggregate values)
  | .groupBy query => (store.groupBy entity query).outcome fun groups => .ok (.groups groups)
where
  shownRecord (record : Record) : Except StoreError Outcome :=
    .ok (.record (some (entity.complete record)))

end RecordStore
