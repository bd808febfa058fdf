import RecordStore.Aggregate.Selection
import RecordStore.Condition.Reader

/-!
# Conditions on groups

A condition on groups has the form of a filter.  An entry of a field holds conditions on the grouped
field itself, conditions on aggregates of the field under the keys of selectors, or both.  Plain
conditions are for grouped fields only.
-/

namespace RecordStore

/-- A leaf of a condition on groups. -/
inductive GroupCondition where
  | field (condition : Condition)
  | aggregate (selector : Selector) (field : String) (test : FieldTest)
deriving DecidableEq

/-- A tree of conditions on a group. -/
abbrev GroupFilter := Predicate GroupCondition

/-- Whether a group with a key and aggregates meets a condition. -/
def GroupCondition.meets (key : Record) (values : AggregateValues) : GroupCondition → Bool
  | .field c => c.meets key
  | .aggregate selector name test => test.passes (values.aggregate selector name)

/-- Whether a group with a key and aggregates passes a tree. -/
def Predicate.selectsGroup (filter : Predicate GroupCondition) (key : Record)
    (values : AggregateValues) : Bool :=
  filter.holds (GroupCondition.meets key values)

/-- The aggregates that a tree tests, each once. -/
def Predicate.requiredAggregates (filter : Predicate GroupCondition) : List (Selector × String) :=
  let required : Selection := filter.leaves.foldl (fun selection leaf =>
    match leaf with
    | .field _ => selection
    | .aggregate selector field _ => selection.add selector field) .empty
  required.terms

namespace GroupFilter

/-- The entry of a field with its selectors apart from its other operators. -/
def splitEntry : List (String × Json) → List (Selector × Json) × List (String × Json)
  | [] => ([], [])
  | (name, raw) :: rest =>
    let (aggregates, plain) := splitEntry rest
    match Selector.ofKey? name with
    | some selector => ((selector, raw) :: aggregates, plain)
    | none => (aggregates, (name, raw) :: plain)

def readAggregates (field : Field) (maxDepth depth : Nat) :
    List (Selector × Json) → Except ValidationError (List GroupFilter)
  | [] => .ok []
  | (selector, raw) :: rest => do
    selector.check field
    -- An aggregate of no values is null, so its tests are read as those of a field that may be null.
    let result := (Field.ofKind (selector.resultKind field.kind) field.name).orNull
    let filter ← Condition.readEntry result maxDepth depth raw
    let member := filter.map fun condition =>
      GroupCondition.aggregate selector condition.field condition.test
    let rest ← readAggregates field maxDepth depth rest
    return member :: rest

def readPlain (field : Field) (grouped : List String) (maxDepth depth : Nat) (raw : Json) :
    Except ValidationError GroupFilter := do
  if field.name ∉ grouped then throw (.invalidFilter field.name "having" .fieldNotGrouped)
  let filter ← Condition.readEntry field maxDepth depth raw
  return filter.map GroupCondition.field

def readField (entity : Entity) (grouped : List String) (maxDepth : Nat) (name : String)
    (depth : Nat) (raw : Json) : Except ValidationError GroupFilter := do
  let field ← entity.filterField name
  match raw with
  -- Aggregates are read first, so that their faults come first.
  | .obj entries =>
    let (aggregates, plain) := splitEntry entries
    let members ← readAggregates field maxDepth depth aggregates
    if plain.isEmpty then return .conjunction members
    let last ← readPlain field grouped maxDepth depth (.obj plain)
    return .conjunction (members ++ [last])
  | raw =>
    let only ← readPlain field grouped maxDepth depth raw
    return .conjunction [only]

def rules (entity : Entity) (grouped : List String) (maxDepth : Nat) :
    TreeRules GroupCondition where
  label := "having"
  maxDepth := maxDepth
  readField := readField entity grouped maxDepth

/-- Reads a condition on the groups of an entity's records. -/
def read (entity : Entity) (grouped : List String) (maxDepth : Nat) (raw : Json) :
    Except ValidationError GroupFilter :=
  Predicate.readTree (rules entity grouped maxDepth) raw

end GroupFilter

end RecordStore
