import RecordStore.Condition.Test
import RecordStore.Error

/-!
# Reading conditions

A filter arrives as a JSON object.  The keys `AND`, `OR` and `NOT` hold an object or a list of
objects; every other key names a field and holds a bare value, which means equality, or an object of
operators.  All keys and all operators of an object have to hold.

`readTree` reads the composites of any such tree and leaves the entries of fields to its caller;
`readEntry` reads the entry of one field; `Filter.read` puts the two together for the fields of an
entity.  Composites and `not` may nest only so deep.
-/

namespace RecordStore

/-- The kind of a JSON value, for a message. -/
def Json.kindName : Json → String
  | .null => "null"
  | .bool _ => "boolean"
  | .int _ => "number"
  | .float _ => "number"
  | .str _ => "string"
  | .arr _ => "list"
  | .obj _ => "object"

namespace Condition

/-! ## Operands -/

/-- Reads an operand of a field; null where it is allowed and the field may be null. -/
def readOperand (field : Field) (operator : String) (allowNull : Bool) (raw : Json) :
    Except ValidationError Value :=
  if raw.isNull then
    if allowNull && field.nullable then .ok .null
    else .error (.typeMismatch field.name ⟨field.kind.text, "null (in " ++ operator ++ ")"⟩)
  else (Value.coerce field.kind raw).mapError (.typeMismatch field.name)

/-- Reads a list of operands, none of them null. -/
def readOperands (field : Field) (operator : String) (raw : Json) :
    Except ValidationError (List Value) :=
  match raw with
  | .arr items => items.mapM (readOperand field operator false)
  | raw => .error (.typeMismatch field.name ⟨"list of " ++ field.kind.text, raw.kindName⟩)

/-! ## Operators -/

/-- The operators of a field's entry, other than `mode` and `not`. -/
inductive Operator where
  | equals
  | oneOf
  | noneOf
  | ordered (test : Value → FieldTest)
  | text (test : Pattern → FieldTest)

def Operator.ofName? : String → Option Operator
  | "equals" => some .equals
  | "in" => some .oneOf
  | "notIn" => some .noneOf
  | "lt" => some (.ordered .lt)
  | "lte" => some (.ordered .lte)
  | "gt" => some (.ordered .gt)
  | "gte" => some (.ordered .gte)
  | "contains" => some (.text .contains)
  | "startsWith" => some (.text .startsWith)
  | "endsWith" => some (.text .endsWith)
  | _ => none

def isTextOperator (name : String) : Bool :=
  name == "contains" || name == "startsWith" || name == "endsWith"

def readOperator (field : Field) (mode : CaseMode) (name : String) (raw : Json) :
    Except ValidationError FieldTest :=
  match Operator.ofName? name with
  | none => .error (.invalidFilter field.name name .unknownOperator)
  | some .equals => return .equals (← readOperand field name true raw)
  | some .oneOf => return .oneOf (← readOperands field name raw)
  | some .noneOf => return .noneOf (← readOperands field name raw)
  | some (.ordered test) =>
    if field.kind.isOrdered then return test (← readOperand field name false raw)
    else .error (.invalidFilter field.name name (.unsupportedKind field.kind))
  | some (.text test) =>
    if field.kind.isText then return test ⟨(← readOperand field name false raw).text, mode⟩
    else .error (.invalidFilter field.name name (.unsupportedKind field.kind))

def readMode (field : Field) (operators : List (String × Json)) :
    Except ValidationError CaseMode :=
  -- Only the mode that is not the default needs a text operator beside it.
  match lookupEntry "mode" operators with
  | none => .ok .sensitive
  | some raw =>
    if field.kind.isText then
      match raw with
      | .str "default" => .ok .sensitive
      | .str "insensitive" =>
        if operators.any fun entry => isTextOperator entry.1 then .ok .insensitive
        else .error (.invalidFilter field.name "mode" .modeWithoutPattern)
      | _ => .error (.invalidFilter field.name "mode" .expectedMode)
    else .error (.invalidFilter field.name "mode" (.unsupportedKind field.kind))

mutual

/-- Reads the entry of a field, found under an operator: a bare value or an object of operators. -/
def readEntryUnder (field : Field) (maxDepth : Nat) (operator : String) (depth : Nat) :
    Json → Except ValidationError Filter
  | .obj operators => do
    let mode ← readMode field operators
    let members ← readOperators field maxDepth mode depth operators
    return .conjunction members
  | raw => do
    let operand ← readOperand field operator true raw
    return .leaf ⟨field.name, .equals operand⟩

def readOperators (field : Field) (maxDepth : Nat) (mode : CaseMode) (depth : Nat) :
    List (String × Json) → Except ValidationError (List Filter)
  | [] => .ok []
  | (name, raw) :: rest => do
    if name = "mode" then readOperators field maxDepth mode depth rest
    else
      let member : Filter ←
        -- A negation is the only operator that nests.
        if name = "not" then
          if maxDepth < depth + 1 then
            throw (.invalidFilter field.name name (.tooDeep maxDepth))
          else
            let negated ← readEntryUnder field maxDepth name (depth + 1) raw
            pure (.not [negated])
        else
          let test ← readOperator field mode name raw
          pure (.leaf ⟨field.name, test⟩)
      let rest ← readOperators field maxDepth mode depth rest
      return member :: rest

end

def readEntry (field : Field) (maxDepth depth : Nat) (raw : Json) :
    Except ValidationError Filter :=
  readEntryUnder field maxDepth "equals" depth raw

end Condition

/-! ## Trees -/

/-- The composites of a tree, by their keys. -/
inductive Composite where
  | and
  | or
  | not
deriving DecidableEq

def Composite.ofKey? : String → Option Composite
  | "AND" => some .and
  | "OR" => some .or
  | "NOT" => some .not
  | _ => none

/-- The predicate of a composite and its members. -/
def Composite.combine {Leaf : Type} : Composite → List (Predicate Leaf) → Predicate Leaf
  | .and => .and
  | .or => .or
  | .not => .not

/-- How a tree is read: the label of its root in messages, how deep it may nest, and how the entry
of a field is read at a depth. -/
structure TreeRules (Leaf : Type) where
  label : String
  maxDepth : Nat
  readField : String → Nat → Json → Except ValidationError (Predicate Leaf)

namespace Predicate

variable {Leaf : Type}

mutual

def readObject (rules : TreeRules Leaf) (depth : Nat) :
    Json → Except ValidationError (Predicate Leaf)
  | .obj entries => do
    let members ← readEntries rules depth entries
    return conjunction members
  | _ => .error (.invalidFilter rules.label "-" .expectedObject)

def readEntries (rules : TreeRules Leaf) (depth : Nat) :
    List (String × Json) → Except ValidationError (List (Predicate Leaf))
  | [] => .ok []
  | (key, raw) :: rest => do
    let member ←
      match Composite.ofKey? key with
      | some composite =>
        if rules.maxDepth < depth + 1 then
          throw (.invalidFilter key key (.tooDeep rules.maxDepth))
        else
          let members ← readMembers rules key (depth + 1) raw
          pure (composite.combine members)
      | none => rules.readField key depth raw
    let rest ← readEntries rules depth rest
    return member :: rest

/-- Reads the members of a composite: one object, or a list of them. -/
def readMembers (rules : TreeRules Leaf) (key : String) (depth : Nat) :
    Json → Except ValidationError (List (Predicate Leaf))
  | .arr items => readAll rules depth items
  | .obj entries => do
    let members ← readEntries rules depth entries
    return [conjunction members]
  | raw => .error (.invalidFilter key key (.expectedMembers raw.kindName))

def readAll (rules : TreeRules Leaf) (depth : Nat) :
    List Json → Except ValidationError (List (Predicate Leaf))
  | [] => .ok []
  | raw :: rest => do
    let member ← readObject rules depth raw
    let rest ← readAll rules depth rest
    return member :: rest

end

def readTree (rules : TreeRules Leaf) (raw : Json) : Except ValidationError (Predicate Leaf) :=
  -- A null is as good as no tree at all.
  if raw.isNull then .ok always else readObject rules 0 raw

end Predicate

def Entity.filterField (entity : Entity) (name : String) : Except ValidationError Field :=
  match entity.field? name with
  | some field => .ok field
  | none => .error (.invalidFilter name "-" .unknownField)

/-- How a filter over the fields of an entity is read. -/
def Filter.rules (entity : Entity) (maxDepth : Nat) : TreeRules Condition where
  label := "where"
  maxDepth := maxDepth
  readField name depth raw := do
    let field ← entity.filterField name
    Condition.readEntry field maxDepth depth raw

def Filter.read (entity : Entity) (maxDepth : Nat) (raw : Json) : Except ValidationError Filter :=
  Predicate.readTree (Filter.rules entity maxDepth) raw

end RecordStore
