import RecordStore.Condition.Predicate
import RecordStore.Record
import RecordStore.Text.Search

/-!
# Conditions on fields

A `FieldTest` tests one value; a `Condition` tests one field of a record, and a `Filter` is a tree of
conditions.  A null value passes only the test for equality with null: every other test, `noneOf`
included, fails on it.
-/

namespace RecordStore

/-- Whether a text test tells small letters from capitals. -/
inductive CaseMode where
  | sensitive
  | insensitive
deriving DecidableEq

/-- The operand of a text test. -/
structure Pattern where
  text : String
  mode : CaseMode
deriving DecidableEq

def CaseMode.view (mode : CaseMode) (text : String) : List Char :=
  match mode with
  | .sensitive => text.toList
  | .insensitive => foldCase text.toList

/-- A test of one value. -/
inductive FieldTest where
  | equals (operand : Value)
  | contains (pattern : Pattern)
  | startsWith (pattern : Pattern)
  | endsWith (pattern : Pattern)
  | gt (operand : Value)
  | gte (operand : Value)
  | lt (operand : Value)
  | lte (operand : Value)
  | oneOf (operands : List Value)
  | noneOf (operands : List Value)
deriving DecidableEq

namespace FieldTest

def name : FieldTest → String
  | .equals _ => "equals"
  | .contains _ => "contains"
  | .startsWith _ => "startsWith"
  | .endsWith _ => "endsWith"
  | .gt _ => "gt"
  | .gte _ => "gte"
  | .lt _ => "lt"
  | .lte _ => "lte"
  | .oneOf _ => "in"
  | .noneOf _ => "notIn"

/-- Whether the text of a value passes a test against a pattern; only a text does. -/
def textPasses (test : List Char → List Char → Bool) (pattern : Pattern) (value : Value) : Bool :=
  match value.text? with
  | some subject => test (pattern.mode.view pattern.text) (pattern.mode.view subject)
  | none => false

def passes (test : FieldTest) (value : Value) : Bool :=
  match test with
  | .equals operand => value.same operand
  | test =>
    !value.isNull &&
      match test with
      | .equals operand => value.same operand
      | .contains pattern => textPasses occursIn pattern value
      | .startsWith pattern => textPasses List.isPrefixOf pattern value
      | .endsWith pattern => textPasses List.isSuffixOf pattern value
      | .gt operand => value.compare? operand == some .gt
      | .gte operand => value.compare? operand == some .gt || value.compare? operand == some .eq
      | .lt operand => value.compare? operand == some .lt
      | .lte operand => value.compare? operand == some .lt || value.compare? operand == some .eq
      | .oneOf operands => operands.any value.same
      | .noneOf operands => !operands.any value.same

end FieldTest

/-- A test of one field of a record. -/
structure Condition where
  field : String
  test : FieldTest
deriving DecidableEq

def Condition.meets (condition : Condition) (record : Record) : Bool :=
  condition.test.passes (record.valueAt condition.field)

/-- A tree of conditions on a record. -/
abbrev Filter := Predicate Condition

def Predicate.selects (filter : Predicate Condition) (record : Record) : Bool :=
  filter.holds fun condition => condition.meets record

end RecordStore
