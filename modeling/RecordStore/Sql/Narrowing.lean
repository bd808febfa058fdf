import RecordStore.Condition.Test
import RecordStore.Sql.Clause

/-!
# Filters as clauses

`Predicate.narrowing` turns a filter over the fields of an entity into a clause.  Operands become
parameters, numbered in the order in which they are met, and never part of the text.

A condition on a null is false and never unknown, so that a negation around it keeps the row.  A
database cannot compare decimals, so a condition on a decimal field becomes a constant that errs on
the side of keeping a row: true, or false below an odd number of negations.  `isExact` tells whether
a filter has no such condition; the clause of any other filter keeps at least the rows that pass.
-/

namespace RecordStore

def Entity.isDecimal (entity : Entity) (field : String) : Bool :=
  (entity.field? field).any fun f => f.kind == .decimal

/-- The parameters of a statement so far, in the order of their numbers. -/
abbrev Bound := List Parameter

def Value.bind (value : Value) (bound : Bound) : Scalar × Bound :=
  (.placeholder (bound.length + 1), bound ++ [value.parameter])

def bindAll : List Value → Bound → List Scalar × Bound
  | [], bound => ([], bound)
  | value :: rest, bound =>
    let (first, bound) := value.bind bound
    let (others, bound) := bindAll rest bound
    (first :: others, bound)

namespace FieldTest

/-- The comparison of a column with a value. -/
def comparisonClause (comparison : Comparison) (field : String) (operand : Value) (bound : Bound) :
    Clause × Bound :=
  let (operand, bound) := operand.bind bound
  (.compare comparison (.column field) operand, bound)

/-- A scalar as a mode sees it. -/
def seenIn (mode : CaseMode) (operand : Scalar) : Scalar :=
  match mode with
  | .sensitive => operand
  | .insensitive => .lower operand

/-- A text test of a column, given the subject and the pattern. -/
def textClause (test : Scalar → Scalar → Clause) (field : String) (pattern : Pattern)
    (bound : Bound) : Clause × Bound :=
  let (operand, bound) := (Value.string pattern.text).bind bound
  (test (seenIn pattern.mode (.column field)) (seenIn pattern.mode operand), bound)

def clause (test : FieldTest) (field : String) (bound : Bound) : Clause × Bound :=
  match test with
  | .equals .null => (.isNull (.column field), bound)
  | .equals operand => comparisonClause .equal field operand bound
  | .gt operand => comparisonClause .greater field operand bound
  | .gte operand => comparisonClause .greaterOrEqual field operand bound
  | .lt operand => comparisonClause .less field operand bound
  | .lte operand => comparisonClause .lessOrEqual field operand bound
  -- An empty list is not written as one.
  | .oneOf [] => (.constant false, bound)
  | .oneOf operands =>
    let (items, bound) := bindAll operands bound
    (.among (.column field) items, bound)
  | .noneOf [] => (.isNotNull (.column field), bound)
  | .noneOf operands =>
    let (items, bound) := bindAll operands bound
    (.all [.isNotNull (.column field), .notAmong (.column field) items], bound)
  | .contains pattern =>
    textClause (fun subject p => .compare .greater (.instr subject p) (.literal 0)) field pattern
      bound
  | .startsWith pattern =>
    textClause (fun subject p => .compare .equal (.front subject (.length p)) p) field pattern bound
  -- The last zero characters of a text would be all of it.
  | .endsWith pattern =>
    if pattern.text.isEmpty then (.isNotNull (.column field), bound)
    else
      textClause (fun subject p => .compare .equal (.back subject (.length p)) p) field pattern
        bound

end FieldTest

namespace Predicate

/-- Whether the clause of a filter keeps exactly the rows that pass. -/
def isExact (entity : Entity) (filter : Predicate Condition) : Bool :=
  filter.leaves.all fun condition => !entity.isDecimal condition.field

/-- The clause of a condition; `positive` tells whether it stands below an even number of
negations. -/
def leafNarrowing (entity : Entity) (positive : Bool) (condition : Condition) (bound : Bound) :
    Clause × Bound :=
  -- The constant keeps the row where it stands: below an odd number of negations, false does.
  if entity.isDecimal condition.field then (.constant positive, bound)
  else
    let (clause, bound) := condition.test.clause condition.field bound
    (.orFalse clause, bound)

mutual

/-- The clause of a filter below an even or an odd number of negations. -/
def narrowingFrom (entity : Entity) (positive : Bool) :
    Predicate Condition → Bound → Clause × Bound
  | .leaf condition, bound => leafNarrowing entity positive condition bound
  | .and members, bound =>
    if members.isEmpty then (.constant true, bound)
    else
      let (clauses, bound) := narrowingsFrom entity positive members bound
      (.group (.all clauses), bound)
  | .or members, bound =>
    if members.isEmpty then (.constant false, bound)
    else
      let (clauses, bound) := narrowingsFrom entity positive members bound
      (.group (.any clauses), bound)
  | .not members, bound =>
    if members.isEmpty then (.constant true, bound)
    else
      let (clauses, bound) := narrowingsFrom entity (!positive) members bound
      (.negation (.group (.any clauses)), bound)

def narrowingsFrom (entity : Entity) (positive : Bool) :
    List (Predicate Condition) → Bound → List Clause × Bound
  | [], bound => ([], bound)
  | member :: rest, bound =>
    let (clause, bound) := member.narrowingFrom entity positive bound
    let (clauses, bound) := narrowingsFrom entity positive rest bound
    (clause :: clauses, bound)

end

/-- The clause of a filter over the fields of an entity. -/
def narrowing (entity : Entity) (filter : Predicate Condition) (bound : Bound) : Clause × Bound :=
  filter.narrowingFrom entity true bound

end Predicate

namespace Address

/-- The clauses of the fields of a key. -/
def keyClauses : List (String × Value) → Bound → List Clause × Bound
  | [], bound => ([], bound)
  | (field, value) :: rest, bound =>
    let (clause, bound) := FieldTest.comparisonClause .equal field value bound
    let (clauses, bound) := keyClauses rest bound
    (clause :: clauses, bound)

def clause (address : Address) (bound : Bound) : Clause × Bound :=
  let (clauses, bound) := keyClauses address.key.entries bound
  (.all clauses, bound)

end Address

end RecordStore
