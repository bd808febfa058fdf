import RecordStore.Condition.Reader

/-! # The grammar of filters

What a filter is and what it says, read off the JSON value that it arrives as and without the tree
that is made of it.

* `Filter.IsObject` says which values are filters.  A key is a composite, whatever the fields of the
  entity are called, or else the name of a field.
* `Filter.levels` is the number of composites and negations on the longest path into a filter.
* `Filter.verdict` is what a filter says of a record.

The entry of a field has the same three: `Condition.IsEntry`, `negations` and `verdict`.
-/

namespace RecordStore

/-! ## The entry of a field -/

namespace Condition

/-- The operands of a field: what can be taken for a value of its kind, and null where an operator
has a use for it and the field may be null. -/
inductive IsOperand (field : Field) (allowNull : Bool) : Json → Prop where
  | null (allowed : allowNull = true) (nullable : field.nullable = true) :
      IsOperand field allowNull .null
  | value {raw : Json} {value : Value} (present : raw.isNull = false)
      (coerces : Value.coerce field.kind raw = .ok value) : IsOperand field allowNull raw

/-- The operators that test a value, with their operands. -/
inductive IsTest (field : Field) : String → Json → Prop where
  | equals {raw : Json} (operand : IsOperand field true raw) : IsTest field "equals" raw
  | list {name : String} {items : List Json} (named : name ∈ ["in", "notIn"])
      (each : ∀ item ∈ items, IsOperand field false item) : IsTest field name (.arr items)
  | ordered {name : String} {raw : Json} (named : name ∈ ["lt", "lte", "gt", "gte"])
      (isOrdered : field.kind.isOrdered = true) (operand : IsOperand field false raw) :
      IsTest field name raw
  | text {name : String} {raw : Json} (named : name ∈ ["contains", "startsWith", "endsWith"])
      (isText : field.kind.isText = true) (operand : IsOperand field false raw) :
      IsTest field name raw

/-- Whether the mode among operators is a legal one, if there is one. -/
inductive HasLegalMode (field : Field) (operators : List (String × Json)) : Prop where
  | absent (absent : lookupEntry "mode" operators = none)
  | sensitive (isText : field.kind.isText = true)
      (mode : lookupEntry "mode" operators = some (.str "default"))
  | insensitive (isText : field.kind.isText = true)
      (mode : lookupEntry "mode" operators = some (.str "insensitive"))
      (beside : ∃ entry ∈ operators, entry.1 ∈ ["contains", "startsWith", "endsWith"])

mutual

/-- The entries of a field: a bare operand, or an object of operators. -/
inductive IsEntry (field : Field) : Json → Prop where
  | bare {raw : Json} (bare : raw.fields? = none) (operand : IsOperand field true raw) :
      IsEntry field raw
  | operators {operators : List (String × Json)} (mode : HasLegalMode field operators)
      (each : ∀ entry ∈ operators, IsOperator field entry.1 entry.2) :
      IsEntry field (.obj operators)

inductive IsOperator (field : Field) : String → Json → Prop where
  | mode (raw : Json) : IsOperator field "mode" raw
  | negation {raw : Json} (entry : IsEntry field raw) : IsOperator field "not" raw
  | test {name : String} {raw : Json} (test : IsTest field name raw) : IsOperator field name raw

end

mutual

/-- The number of negations on the longest path into the entry of a field. -/
def negations : Json → Nat
  | .obj operators => negationsOfAll operators
  | _ => 0

def negationsOfAll : List (String × Json) → Nat
  | [] => 0
  | (name, raw) :: rest => max (if name = "not" then 1 + negations raw else 0) (negationsOfAll rest)

end

/-- The value of an operand. -/
def operandOf (field : Field) (raw : Json) : Value :=
  (Value.coerce field.kind raw).toOption.getD .null

/-- The mode of the text operators beside it. -/
def modeOf (operators : List (String × Json)) : CaseMode :=
  match lookupEntry "mode" operators with
  | some (.str "insensitive") => .insensitive
  | _ => .sensitive

/-- What an operator that tests a value says of it; of null, all but `equals` say no. -/
def testVerdict (field : Field) (mode : CaseMode) (value : Value) (name : String) (raw : Json) :
    Bool :=
  let operand := operandOf field raw
  let operands := (raw.items?.getD []).map (operandOf field)
  let search (test : List Char → List Char → Bool) : Bool :=
    value.text?.any fun subject => test (mode.view operand.text) (mode.view subject)
  match name with
  | "equals" => value.same operand
  | name =>
    !value.isNull &&
      match name with
      | "in" => operands.any value.same
      | "notIn" => !operands.any value.same
      | "lt" => value.compare? operand == some .lt
      | "lte" => value.compare? operand == some .lt || value.compare? operand == some .eq
      | "gt" => value.compare? operand == some .gt
      | "gte" => value.compare? operand == some .gt || value.compare? operand == some .eq
      | "contains" => search occursIn
      | "startsWith" => search List.isPrefixOf
      | "endsWith" => search List.isSuffixOf
      | _ => false

mutual

/-- What the entry of a field says of a value: that it is the operand, or what all operators say. -/
def verdict (field : Field) (value : Value) : Json → Bool
  | .obj operators => verdictOfAll field (modeOf operators) value operators
  | raw => value.same (operandOf field raw)

def verdictOfAll (field : Field) (mode : CaseMode) (value : Value) : List (String × Json) → Bool
  | [] => true
  | (name, raw) :: rest =>
    (if name = "mode" then true
      else if name = "not" then !verdict field value raw
      else testVerdict field mode value name raw) &&
    verdictOfAll field mode value rest

end

end Condition

/-! ## Filters -/

namespace Filter

mutual

/-- The objects that are filters on an entity. -/
inductive IsObject (entity : Entity) : Json → Prop where
  | entries {entries : List (String × Json)}
      (each : ∀ entry ∈ entries, IsEntry entity entry.1 entry.2) : IsObject entity (.obj entries)

inductive IsEntry (entity : Entity) : String → Json → Prop where
  | member {key : String} {raw : Json} {composite : Composite}
      (named : Composite.ofKey? key = some composite) (member : IsObject entity raw) :
      IsEntry entity key raw
  | members {key : String} {items : List Json} {composite : Composite}
      (named : Composite.ofKey? key = some composite)
      (each : ∀ item ∈ items, IsObject entity item) : IsEntry entity key (.arr items)
  | field {key : String} {raw : Json} {field : Field} (other : Composite.ofKey? key = none)
      (known : entity.field? key = some field) (entry : Condition.IsEntry field raw) :
      IsEntry entity key raw

end

mutual

/-- The number of composites and negations on the longest path into a filter. -/
def levels : Json → Nat
  | .obj entries => levelsOfEntries entries
  | _ => 0

def levelsOfEntries : List (String × Json) → Nat
  | [] => 0
  | (key, raw) :: rest =>
    max (if (Composite.ofKey? key).isSome then 1 + levelsOfMembers raw else Condition.negations raw)
      (levelsOfEntries rest)

def levelsOfMembers : Json → Nat
  | .arr items => levelsOfAll items
  | .obj entries => levelsOfEntries entries
  | _ => 0

def levelsOfAll : List Json → Nat
  | [] => 0
  | item :: rest => max (levels item) (levelsOfAll rest)

end

/-- What a composite says, given what its members say. -/
def compositeVerdict : Composite → List Bool → Bool
  | .and, members => members.all id
  | .or, members => members.any id
  | .not, members => !members.any id

mutual

/-- What a filter says of a record: what all its entries say; nothing is said by null. -/
def verdict (entity : Entity) (record : Record) : Json → Bool
  | .obj entries => verdictOfEntries entity record entries
  | _ => true

def verdictOfEntries (entity : Entity) (record : Record) : List (String × Json) → Bool
  | [] => true
  | (key, raw) :: rest =>
    (match Composite.ofKey? key with
      | some composite => compositeVerdict composite (verdictsOfMembers entity record raw)
      | none =>
        (entity.field? key).all fun field => Condition.verdict field (record.valueAt key) raw) &&
      verdictOfEntries entity record rest

def verdictsOfMembers (entity : Entity) (record : Record) : Json → List Bool
  | .arr items => verdictsOfAll entity record items
  | .obj entries => [verdictOfEntries entity record entries]
  | _ => []

def verdictsOfAll (entity : Entity) (record : Record) : List Json → List Bool
  | [] => []
  | item :: rest => verdict entity record item :: verdictsOfAll entity record rest

end

end Filter

end RecordStore
