import RecordStore.Number.Integer
import RecordStore.Value.Basic

/-!
# Arithmetic on values

`Value.arithmetic?` is the arithmetic of relative updates, on two values of one numeric kind.  It has
no result where the exact one leaves the kind, and none for a division by zero.  Null stays null.
-/

namespace RecordStore

/-- The arithmetic of relative updates. -/
inductive Arithmetic where
  | add
  | subtract
  | multiply
  | divide
deriving DecidableEq

namespace Arithmetic

/-- On integers; division drops the fraction. -/
def onInt? (op : Arithmetic) (a b : Int) : Option Int :=
  match op with
  | .add => some (a + b)
  | .subtract => some (a - b)
  | .multiply => some (a * b)
  | .divide => if b = 0 then none else some (a.tdiv b)

/-- On doubles; only a finite result counts. -/
def onDouble? (op : Arithmetic) (x y : Double) : Option Double :=
  let result? :=
    match op with
    | .add => some (x + y)
    | .subtract => some (x - y)
    | .multiply => some (x * y)
    | .divide => if y.isZero then none else some (x / y)
  result?.filter (·.isFinite)

def onDecimal? (op : Arithmetic) (x y : Decimal) : Option Decimal :=
  match op with
  | .add => x.add? y
  | .subtract => x.sub? y
  | .multiply => x.mul? y
  | .divide => x.div? y

end Arithmetic

/-- The result of arithmetic on two values of one numeric kind. -/
def Value.arithmetic? (op : Arithmetic) : Value → Value → Option Value
  | .null, _ => some .null
  | .int a, .int b => ((op.onInt? a.toInt b.toInt).bind int32?).map .int
  | .bigInt a, .bigInt b => ((op.onInt? a.toInt b.toInt).bind int64?).map .bigInt
  | .float x, .float y => (op.onDouble? x y).map .float
  | .decimal x, .decimal y => (op.onDecimal? x y).map .decimal
  | _, _ => none

end RecordStore
