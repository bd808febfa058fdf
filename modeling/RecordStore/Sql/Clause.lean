import RecordStore.Sql.Scalar

/-!
# Clauses

The conditions of a statement.  A clause is true, false, or unknown: a comparison with null is
unknown, and `and`, `or` and `not` treat unknown as a value that may yet turn out either way.  A
statement keeps a row when its clause is true.

`Clause.text` writes a clause and `Clause.eval` evaluates it.  Members of `all` and `any` are joined
without brackets; `group` sets brackets and means nothing.
-/

namespace RecordStore

/-- True, false, or unknown. -/
abbrev Truth := Option Bool

namespace Truth

def and : Truth → Truth → Truth
  | some false, _ => some false
  | _, some false => some false
  | some true, some true => some true
  | _, _ => none

def or : Truth → Truth → Truth
  | some true, _ => some true
  | _, some true => some true
  | some false, some false => some false
  | _, _ => none

def not : Truth → Truth := Option.map Bool.not

end Truth

/-- A comparison of two scalars. -/
inductive Comparison where
  | equal
  | less
  | lessOrEqual
  | greater
  | greaterOrEqual
deriving DecidableEq

namespace Comparison

def symbol : Comparison → String
  | .equal => "="
  | .less => "<"
  | .lessOrEqual => "<="
  | .greater => ">"
  | .greaterOrEqual => ">="

def accepts : Comparison → Ordering → Bool
  | .equal, order => order == .eq
  | .less, order => order == .lt
  | .lessOrEqual, order => order != .gt
  | .greater, order => order == .gt
  | .greaterOrEqual, order => order != .lt

def eval (comparison : Comparison) (a b : Cell) : Truth := (a.compare? b).map comparison.accepts

end Comparison

/-- A condition on a row. -/
inductive Clause where
  | constant (value : Bool)
  | compare (comparison : Comparison) (a b : Scalar)
  | isNull (operand : Scalar)
  | isNotNull (operand : Scalar)
  | among (operand : Scalar) (items : List Scalar)
  | notAmong (operand : Scalar) (items : List Scalar)
  /-- The clause, with unknown taken for false. -/
  | orFalse (clause : Clause)
  | all (members : List Clause)
  | any (members : List Clause)
  | negation (clause : Clause)
  | group (clause : Clause)

namespace Clause

instance : Inhabited Clause := ⟨.constant true⟩

/-- Whether a cell is equal to one of several. -/
def amongCells (cell : Cell) : List Cell → Truth
  | [] => some false
  | item :: rest => Truth.or (Comparison.equal.eval cell item) (amongCells cell rest)

mutual

/-- The truth of a clause in a row, with parameters bound to the placeholders. -/
def eval (bound : List Parameter) (row : StoredRow) : Clause → Truth
  | .constant value => some value
  | .compare comparison a b => comparison.eval (a.eval bound row) (b.eval bound row)
  | .isNull operand => some (operand.eval bound row).isNull
  | .isNotNull operand => some !(operand.eval bound row).isNull
  | .among operand items =>
    amongCells (operand.eval bound row) (items.map fun item => item.eval bound row)
  | .notAmong operand items =>
    Truth.not (amongCells (operand.eval bound row) (items.map fun item => item.eval bound row))
  | .orFalse clause => some ((clause.eval bound row).getD false)
  | .all members => evalAll bound row members
  | .any members => evalAny bound row members
  | .negation clause => Truth.not (clause.eval bound row)
  | .group clause => clause.eval bound row

def evalAll (bound : List Parameter) (row : StoredRow) : List Clause → Truth
  | [] => some true
  | member :: rest => Truth.and (member.eval bound row) (evalAll bound row rest)

def evalAny (bound : List Parameter) (row : StoredRow) : List Clause → Truth
  | [] => some false
  | member :: rest => Truth.or (member.eval bound row) (evalAny bound row rest)

end

def keeps (clause : Clause) (bound : List Parameter) (row : StoredRow) : Bool :=
  clause.eval bound row == some true

/-! ## Text -/

def listText (items : List Scalar) : String := "(" ++ ", ".intercalate (items.map Scalar.text) ++ ")"

mutual

def text : Clause → String
  | .constant value => if value then "1" else "0"
  | .compare comparison a b => a.text ++ " " ++ comparison.symbol ++ " " ++ b.text
  | .isNull operand => operand.text ++ " IS NULL"
  | .isNotNull operand => operand.text ++ " IS NOT NULL"
  | .among operand items => operand.text ++ " IN " ++ listText items
  | .notAmong operand items => operand.text ++ " NOT IN " ++ listText items
  | .orFalse clause => "COALESCE((" ++ clause.text ++ "), 0)"
  | .all members => " AND ".intercalate (texts members)
  | .any members => " OR ".intercalate (texts members)
  | .negation clause => "NOT " ++ clause.text
  | .group clause => "(" ++ clause.text ++ ")"

def texts : List Clause → List String
  | [] => []
  | member :: rest => member.text :: texts rest

end

end Clause

end RecordStore
