import RecordStore.Query.Plan

/-!
# Windows of rows

What a plan keeps of the rows that pass its filter: from the cursor on, the first of each group of
rows that agree on the distinct fields, then a page.  A backward plan does the same from the other
end, and hands the page over in the order of the plan.
-/

namespace RecordStore

/-- The texts of a row's values in some fields, by which rows are told apart. -/
def distinctKey (fields : List String) (row : Record) : List String :=
  fields.map fun field => (row.valueAt field).toJson.compact

/-- The rows whose key has not been seen before them. -/
def firstOfEach (fields : List String) : List (List String) → List Record → List Record
  | _, [] => []
  | seen, row :: rest =>
    let key := distinctKey fields row
    if key ∈ seen then firstOfEach fields seen rest
    else row :: firstOfEach fields (key :: seen) rest

/-- The rows that differ in some fields; without fields, all rows. -/
def keepDistinct (fields : List String) (rows : List Record) : List Record :=
  if fields.isEmpty then rows else firstOfEach fields [] rows

/-- At most so many items, if there is a bound. -/
def takeAtMost {α : Type} (bound? : Option Nat) (items : List α) : List α :=
  match bound? with
  | none => items
  | some bound => items.take bound

namespace Plan

/-- The page of rows in the direction of the scan. -/
def paginate (plan : Plan) (rows : List Record) : List Record :=
  takeAtMost plan.page.take? ((keepDistinct plan.distinct rows).drop plan.page.skip)

/-- The rows at and before the first row that a test accepts; none without such a row. -/
def upTo (test : Record → Bool) : List Record → List Record
  | [] => []
  | row :: rest =>
    if test row then [row]
    else
      match upTo test rest with
      | [] => []
      | tail => row :: tail

/-- The rows from the cursor on, in the direction of the scan; none if no row has the address. -/
def fromCursor (plan : Plan) (rows : List Record) : List Record :=
  match plan.cursor? with
  | none => rows
  | some cursor =>
    match plan.page.direction with
    | .forward => rows.dropWhile fun row => !cursor.isOf row
    | .backward => upTo cursor.isOf rows

/-- The window of rows that stand in the order of the plan. -/
def window (plan : Plan) (rows : List Record) : List Record :=
  let rows := plan.fromCursor rows
  match plan.page.direction with
  | .forward => plan.paginate rows
  -- The page is cut from the end and handed over in the order of the plan.
  | .backward => (plan.paginate rows.reverse).reverse

def run (plan : Plan) (rows : List Record) : List Record :=
  plan.window (sortRows plan.order (rows.filter plan.filter.selects))

end Plan

end RecordStore
