import RecordStore.Condition.Reader
import RecordStore.Mutation.Reader
import RecordStore.Query.Order

/-!
# Plans of reads

A `Query` is a read as it was asked for, checked against an entity.  A `Plan` is what a store carries
out: a total order, and a page with a direction.  A negative `take` reads the page backward from the
end, or from the cursor; limits refuse a window that is too large instead of cutting it.
-/

namespace RecordStore

/-- The bounds of every read. -/
structure Limits where
  defaultPageSize : Nat
  maxPageSize : Nat
  maxSkip : Nat
  maxFilterDepth : Nat
deriving DecidableEq

instance : Inhabited Limits := ⟨⟨100, 1000, 100000, 8⟩⟩

/-- From which end of the ordered rows a page is read. -/
inductive ScanDirection where
  | forward
  | backward
deriving DecidableEq

/-- A window of the ordered rows.  Without `take?` it is unbounded. -/
structure Page where
  direction : ScanDirection
  skip : Nat
  take? : Option Nat
deriving DecidableEq

/-- A read that a store can carry out. -/
structure Plan where
  filter : Filter
  /-- A total order: the terms asked for, then the identity. -/
  order : List OrderTerm
  cursor? : Option Address
  page : Page
  /-- The fields by which only the first of equal rows is kept. -/
  distinct : List String

def Plan.isEmptyPage (plan : Plan) : Bool := plan.page.take? = some 0

/-- A read as it was asked for. -/
structure Query where
  filter : Filter
  order : List OrderTerm
  cursor? : Option Address
  take? : Option Int
  skip? : Option Int
  distinct : List String

/-! ## Reading queries -/

/-- The value of an optional argument; null counts as not given. -/
def FieldMap.given? (arguments : FieldMap Json) (name : String) : Option Json :=
  (arguments.get? name).filter fun raw => !raw.isNull

/-- The integer of an optional argument. -/
def FieldMap.integer? (arguments : FieldMap Json) (name : String) : Option Int :=
  match arguments.get? name with
  | some (.int n) => some n
  | _ => none

/-- The strings of an optional argument. -/
def FieldMap.strings (arguments : FieldMap Json) (name : String) : List String :=
  match arguments.get? name with
  | some (.arr items) => items.filterMap Json.str?
  | _ => []

/-- The names of fields, each once, in the order of their first mention. -/
def readFieldNames (entity : Entity) :
    List String → List String → Except ValidationError (List String)
  | [], names => .ok names
  | name :: rest, names =>
    if (entity.field? name).isNone then .error (.unknownField entity.name name)
    else readFieldNames entity rest (if name ∈ names then names else names ++ [name])

def Query.read (entity : Entity) (limits : Limits) (arguments : FieldMap Json) :
    Except ValidationError Query := do
  let filter ← Filter.read entity limits.maxFilterDepth ((arguments.given? "where").getD .null)
  let order ← readOrder entity ((arguments.given? "orderBy").getD .null)
  let cursor? ← (arguments.given? "cursor").mapM (Address.read entity)
  let distinct ← readFieldNames entity (arguments.strings "distinct") []
  return ⟨filter, order, cursor?, arguments.integer? "take", arguments.integer? "skip", distinct⟩

/-! ## Planning -/

/-- The number of rows to skip, within limits. -/
def planSkip (limits : Limits) (skip? : Option Int) : Except PaginationFault Nat :=
  match skip? with
  | none => .ok 0
  | some skip =>
    if skip < 0 then .error (.negativeSkip skip)
    else if limits.maxSkip < skip.natAbs then .error (.skipTooLarge skip limits.maxSkip)
    else .ok skip.natAbs

/-- The direction and size of a page, within limits. -/
def planTake (limits : Limits) (default? : Option Nat) (hasCursor : Bool) (take? : Option Int) :
    Except PaginationFault (ScanDirection × Option Nat) :=
  match take? with
  | none => .ok (.forward, default?)
  | some take =>
    if take = 0 ∧ hasCursor = true then .error .emptyPageWithCursor
    else if limits.maxPageSize < take.natAbs then .error (.takeTooLarge take limits.maxPageSize)
    -- The sign of the size is the direction of the scan.
    else .ok (if take < 0 then .backward else .forward, some take.natAbs)

/-- The plan of a query, with a default size of its page. -/
def Query.plan (query : Query) (entity : Entity) (limits : Limits) (default? : Option Nat) :
    Except ValidationError Plan :=
  match planSkip limits query.skip? with
  | .error fault => .error (.invalidPagination fault)
  | .ok skip =>
    match planTake limits default? query.cursor?.isSome query.take? with
    | .error fault => .error (.invalidPagination fault)
    | .ok (direction, take?) =>
      .ok ⟨query.filter, canonicalOrder entity query.order, query.cursor?,
        ⟨direction, skip, take?⟩, query.distinct⟩

/-- The plan of a read that returns rows, which has a page size. -/
def Query.planPage (query : Query) (entity : Entity) (limits : Limits) :
    Except ValidationError Plan :=
  query.plan entity limits (some limits.defaultPageSize)

/-- The plan of a read that counts or reduces rows, which needs no page size. -/
def Query.planWindow (query : Query) (entity : Entity) (limits : Limits) :
    Except ValidationError Plan :=
  query.plan entity limits none

end RecordStore
