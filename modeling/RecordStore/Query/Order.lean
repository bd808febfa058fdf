import RecordStore.Error

/-!
# Orders of rows

An order is a list of fields, each with a direction; the first field in which two rows differ decides.
Null comes first in ascending and last in descending direction.  `canonicalOrder` ends an order with
the identity, so that no two rows of a table tie.
-/

namespace RecordStore

/-- The direction of one field in an order. -/
inductive Direction where
  | ascending
  | descending
deriving DecidableEq

def Direction.reverse : Direction → Direction
  | .ascending => .descending
  | .descending => .ascending

/-- One field of an order. -/
structure OrderTerm where
  field : String
  direction : Direction
deriving DecidableEq

/-- How two rows compare in one field of an order. -/
def OrderTerm.compare (term : OrderTerm) (a b : Record) : Ordering :=
  let order := (a.valueAt term.field).sortOrder (b.valueAt term.field)
  match term.direction with
  | .ascending => order
  | .descending => order.swap

def compareRows : List OrderTerm → Record → Record → Ordering
  | [], _, _ => .eq
  | term :: rest, a, b => (term.compare a b).then (compareRows rest a b)

/-- Rows in order; rows that tie keep their places. -/
def sortRows (order : List OrderTerm) (rows : List Record) : List Record :=
  rows.mergeSort fun a b => compareRows order a b != .gt

/-- The order with fields appended, ascending, that it does not have yet. -/
def extendOrder (order : List OrderTerm) (fields : List String) : List OrderTerm :=
  fields.foldl (fun order field =>
    if order.any fun term => term.field = field then order
    else order ++ [⟨field, .ascending⟩]) order

/-- The order, ended with the identity of an entity. -/
def canonicalOrder (entity : Entity) (order : List OrderTerm) : List OrderTerm :=
  extendOrder order entity.identity

/-! ## Reading -/

/-- Reads the terms of one object of an order, behind terms read before. -/
def readOrderTerms (entity : Entity) :
    List (String × Json) → List OrderTerm → Except ValidationError (List OrderTerm)
  | [], order => .ok order
  | (name, raw) :: rest, order =>
    if (entity.field? name).isNone then .error (.invalidOrder name .unknownField)
    else
      let direction? :=
        match raw with
        | .str "asc" => some Direction.ascending
        | .str "desc" => some Direction.descending
        | _ => none
      match direction? with
      | none => .error (.invalidOrder name (.expectedDirection raw.compact))
      | some direction =>
        if order.any fun term => term.field = name then .error (.invalidOrder name .listedTwice)
        else readOrderTerms entity rest (order ++ [⟨name, direction⟩])

def readOrderObjects (entity : Entity) :
    List Json → List OrderTerm → Except ValidationError (List OrderTerm)
  | [], order => .ok order
  | .obj entries :: rest, order => do
    let order ← readOrderTerms entity entries order
    readOrderObjects entity rest order
  | raw :: _, _ => .error (.invalidOrder raw.compact .expectedObject)

/-- Reads an order: an object of fields with directions, or a list of such objects. -/
def readOrder (entity : Entity) (raw : Json) : Except ValidationError (List OrderTerm) :=
  match raw with
  | .null => .ok []
  | .arr items => readOrderObjects entity items []
  | raw => readOrderObjects entity [raw] []

end RecordStore
