import RecordStore.Aggregate.Selector

/-!
# Selections of aggregates

A `Selection` lists the aggregates that a request asks for, and `Selection.evaluate` computes them on
a list of records.
-/

namespace RecordStore

/-- The aggregates asked for, in the order in which they are computed. -/
structure Selection where
  terms : List (Selector × String)
deriving DecidableEq

namespace Selection

def empty : Selection := ⟨[]⟩

def isEmpty (selection : Selection) : Bool := selection.terms.isEmpty

/-- The selection with one more term, unless it has the term already. -/
def add (selection : Selection) (selector : Selector) (field : String) : Selection :=
  if (selector, field) ∈ selection.terms then selection
  else ⟨selection.terms ++ [(selector, field)]⟩

/-- The fields of one selector. -/
def fieldsOf (selection : Selection) (selector : Selector) : List String :=
  (selection.terms.filter fun term => term.1 = selector).map (·.2)

def readFlags (entity : Entity) (selector : Selector) :
    List (String × Json) → Selection → Except ValidationError Selection
  | [], selection => .ok selection
  | (name, .bool true) :: rest, selection =>
    if selector = .count ∧ name = Selector.everyRecord then
      readFlags entity selector rest (selection.add .count name)
    else
      match entity.field? name with
      | none => .error (.invalidAggregate selector.key name .unknownField)
      | some field =>
        match selector.check field with
        | .error error => .error error
        | .ok () => readFlags entity selector rest (selection.add selector name)
  | (_, .bool false) :: rest, selection => readFlags entity selector rest selection
  | (name, _) :: _, _ => .error (.invalidAggregate selector.key name .expectedFlag)

def readTerm (entity : Entity) (selection : Selection) (selector : Selector) (raw : Json) :
    Except ValidationError Selection :=
  match raw with
  | .null => .ok selection
  | .bool false => .ok selection
  | .bool true =>
    if selector = .count then .ok (selection.add .count Selector.everyRecord)
    else .error (.invalidAggregate selector.key "-" .expectedFlags)
  | .obj flags => readFlags entity selector flags selection
  | _ => .error (.invalidAggregate selector.key "-" .expectedFlags)

def read (entity : Entity) (arguments : FieldMap Json) : Except ValidationError Selection :=
  Selector.all.foldlM (fun selection selector =>
    readTerm entity selection selector ((arguments.get? selector.key).getD .null)) empty

end Selection

/-- Computed aggregates: for the key of a selector, the values by field. -/
abbrev AggregateValues := FieldMap (FieldMap Value)

def FieldMap.insertAggregate (values : FieldMap (FieldMap Value)) (selector : Selector)
    (field : String) (value : Value) : FieldMap (FieldMap Value) :=
  values.insert selector.key (((values.get? selector.key).getD .empty).insert field value)

/-- The value of one aggregate, null if it was not computed. -/
def FieldMap.aggregate (values : FieldMap (FieldMap Value)) (selector : Selector)
    (field : String) : Value :=
  match values.get? selector.key with
  | some fields => fields.valueAt field
  | none => .null

def computeTerms (records : List Record) :
    List (Selector × String) → AggregateValues → Except StoreError AggregateValues
  | [], values => .ok values
  | (selector, field) :: rest, values =>
    match selector.compute field records with
    | .error error => .error error
    | .ok value => computeTerms records rest (values.insertAggregate selector field value)

/-- The aggregates of a selection on records. -/
def Selection.evaluate (selection : Selection) (records : List Record) :
    Except StoreError AggregateValues :=
  computeTerms records selection.terms .empty

def FieldMap.aggregateJson (values : FieldMap (FieldMap Value)) : Json :=
  Json.ofMap (Json.ofMap Value.toJson) values

end RecordStore
