import RecordStore.Aggregate.Having
import RecordStore.Query.Window

/-!
# Reducing and grouping

`AggregateQuery` reduces a window of rows to aggregates.  `GroupQuery` parts the rows that pass a
filter by the values of some fields, reduces each part, keeps the groups that pass a condition, and
hands over a page of them in order.
-/

namespace RecordStore

/-! ## Aggregating a window -/

/-- A window of rows and the aggregates to reduce it to. -/
structure AggregateQuery where
  plan : Plan
  selection : Selection

def AggregateQuery.read (entity : Entity) (limits : Limits) (arguments : FieldMap Json) :
    Except ValidationError AggregateQuery := do
  let query ← Query.read entity limits arguments
  let plan ← query.planWindow entity limits
  let selection ← Selection.read entity arguments
  return ⟨plan, selection⟩

/-- The aggregates of the rows of a table. -/
def AggregateQuery.run (query : AggregateQuery) (rows : List Record) :
    Except StoreError AggregateValues :=
  query.selection.evaluate (query.plan.run rows)

/-! ## Grouping -/

/-- A grouping of rows. -/
structure GroupQuery where
  /-- The fields by which rows are grouped. -/
  fields : List String
  filter : Filter
  having : GroupFilter
  /-- The terms asked for, then the other grouped fields. -/
  order : List OrderTerm
  skip : Nat
  take? : Option Nat
  selection : Selection

/-- A group of rows: the values of the grouped fields, and aggregates. -/
structure Group where
  key : Record
  values : AggregateValues
deriving DecidableEq

namespace GroupQuery

/-- The number of groups to skip, within limits. -/
def planSkip (limits : Limits) (skip? : Option Int) : Except PaginationFault Nat :=
  match skip? with
  | none => .ok 0
  | some skip =>
    if skip < 0 then .error .negativeGroupSkip
    else if limits.maxSkip < skip.natAbs then .error (.skipTooLarge skip limits.maxSkip)
    else .ok skip.natAbs

/-- The number of groups to return, within limits. -/
def planTake (limits : Limits) (take? : Option Int) : Except PaginationFault (Option Nat) :=
  match take? with
  | none => .ok none
  | some take =>
    if take < 0 then .error .negativeGroupTake
    else if limits.maxPageSize < take.natAbs then .error (.takeTooLarge take limits.maxPageSize)
    else .ok (some take.natAbs)

def read (entity : Entity) (limits : Limits) (arguments : FieldMap Json) :
    Except ValidationError GroupQuery := do
  let names := arguments.strings "by"
  if names.isEmpty then throw (.invalidArguments .noGroupFields)
  let fields ← readFieldNames entity names []
  let filter ← Filter.read entity limits.maxFilterDepth ((arguments.given? "where").getD .null)
  let having ←
    GroupFilter.read entity fields limits.maxFilterDepth ((arguments.given? "having").getD .null)
  let order ← readOrder entity ((arguments.given? "orderBy").getD .null)
  match order.find? fun term => term.field ∉ fields with
  | some term => throw (.invalidOrder term.field .notGrouped)
  | none => pure ()
  let take? := arguments.integer? "take"
  let skip? := arguments.integer? "skip"
  -- Without an order that was asked for, a page would be one of groups in no particular order.
  if order.isEmpty && (take?.isSome || skip?.isSome) then
    throw (.invalidPagination .unorderedGroups)
  let skip ← (planSkip limits skip?).mapError .invalidPagination
  let take? ← (planTake limits take?).mapError .invalidPagination
  let selection ← Selection.read entity arguments
  return ⟨fields, filter, having, extendOrder order fields, skip, take?, selection⟩

/-- Puts a row into the part of its key, which is opened behind the others if it is new. -/
def place (fields : List String) (row : Record) :
    List (List String × List Record) → List (List String × List Record)
  | [] => [(distinctKey fields row, [row])]
  | (key, members) :: rest =>
    if distinctKey fields row = key then (key, members ++ [row]) :: rest
    else (key, members) :: place fields row rest

/-- Parts rows by the values of some fields, in the order in which the values first occur. -/
def partition (fields : List String) (rows : List Record) : List (List Record) :=
  (rows.foldl (fun parts row => place fields row parts) []).map (·.2)

def keyOf (fields : List String) (members : List Record) : Record :=
  match members with
  | [] => .empty
  | first :: _ => FieldMap.ofList (fields.map fun field => (field, first.valueAt field))

/-- The group of a part, if it passes the condition. -/
def reduce (query : GroupQuery) (members : List Record) : Except StoreError (Option Group) := do
  let key := keyOf query.fields members
  let values ← query.selection.evaluate members
  if query.having.isAlways then return some ⟨key, values⟩
  -- What only the condition asks for is computed for the test and not shown.
  let tested ← computeTerms members query.having.requiredAggregates values
  if query.having.selectsGroup key tested then return some ⟨key, values⟩
  return none

/-- The groups of parts, in the order of the parts. -/
def reduceAll (query : GroupQuery) : List (List Record) → Except StoreError (List Group)
  | [] => .ok []
  | members :: rest => do
    let group? ← query.reduce members
    let groups ← reduceAll query rest
    return group?.toList ++ groups

def group (query : GroupQuery) (rows : List Record) : Except StoreError (List Group) := do
  let groups ← query.reduceAll (partition query.fields rows)
  let sorted := groups.mergeSort fun a b => compareRows query.order a.key b.key != .gt
  return takeAtMost query.take? (sorted.drop query.skip)

def run (query : GroupQuery) (rows : List Record) : Except StoreError (List Group) :=
  query.group (rows.filter query.filter.selects)

end GroupQuery

/-- A group as JSON: the grouped fields beside the aggregates, which win where names coincide. -/
def Group.toJson (group : Group) : Json :=
  .object
    ((group.key.entries.map fun entry => (entry.1, entry.2.toJson)) ++
      group.values.entries.map fun entry => (entry.1, Json.ofMap Value.toJson entry.2))

end RecordStore
