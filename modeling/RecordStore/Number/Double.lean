/-!
# Double-precision numbers

A `Double` is the 64 bits of an IEEE 754 binary64 number.  Keeping the bits makes equality decidable
and lets order and exact value be computed in integers; only the four arithmetic operations are left
to the machine.

* `key` orders the finite numbers and the infinities as integers, both zeros alike; `compare?` is
  that order, undefined on a NaN.
* `significand` and `exponent` give the exact value `± significand · 2 ^ exponent`, and
  `integer?` the integer a number is equal to, if it is one.
* `ofNat` and `ofInt` round an integer to the nearest double, a half to the even neighbour.
-/

namespace RecordStore

/-- A double-precision number, held as its bits. -/
structure Double where
  bits : UInt64
deriving DecidableEq, Inhabited

namespace Double

/-! ## The machine's arithmetic -/

def toFloat (x : Double) : Float := Float.ofBits x.bits

def ofFloat (x : Float) : Double := ⟨x.toBits⟩

instance : Add Double := ⟨fun x y => ofFloat (x.toFloat + y.toFloat)⟩
instance : Sub Double := ⟨fun x y => ofFloat (x.toFloat - y.toFloat)⟩
instance : Mul Double := ⟨fun x y => ofFloat (x.toFloat * y.toFloat)⟩
instance : Div Double := ⟨fun x y => ofFloat (x.toFloat / y.toFloat)⟩

/-- The nearest integer, a half away from zero. -/
def round (x : Double) : Double := ofFloat x.toFloat.round

/-! ## Parts of the bits -/

/-- The sign bit. -/
def negative (x : Double) : Bool := Nat.pow 2 63 ≤ x.bits.toNat

/-- The bits other than the sign, which grow with the absolute value. -/
def magnitude (x : Double) : Nat := x.bits.toNat % Nat.pow 2 63

/-- The magnitude of the infinities; every greater magnitude is a NaN's. -/
def infiniteMagnitude : Nat := 2047 * Nat.pow 2 52

def isNaN (x : Double) : Bool := infiniteMagnitude < x.magnitude

def isFinite (x : Double) : Bool := x.magnitude < infiniteMagnitude

def isZero (x : Double) : Bool := x.magnitude = 0

/-- The number of a sign and a magnitude. -/
def ofMagnitude (negative : Bool) (magnitude : Nat) : Double :=
  ⟨UInt64.ofNat (if negative then Nat.pow 2 63 + magnitude else magnitude)⟩

/-- The number with its sign turned. -/
def neg (x : Double) : Double := ofMagnitude (!x.negative) x.magnitude

instance : Neg Double := ⟨neg⟩

def zero : Double := ⟨0⟩

/-! ## Order -/

/-- The integer that orders a number among those that are not NaN: both zeros have key 0. -/
def key (x : Double) : Int := if x.negative then -(x.magnitude : Int) else x.magnitude

/-- The order of two numbers, unless one of them is a NaN. -/
def compare? (x y : Double) : Option Ordering :=
  if x.isNaN || y.isNaN then none else some (compare x.key y.key)

/-! ## Exact value -/

/-- The absolute value is `significand · 2 ^ exponent`. -/
def significand (x : Double) : Nat :=
  if x.magnitude < Nat.pow 2 52 then x.magnitude else Nat.pow 2 52 + x.magnitude % Nat.pow 2 52

/-- The absolute value is `significand · 2 ^ exponent`. -/
def exponent (x : Double) : Int :=
  if x.magnitude < Nat.pow 2 52 then -1074 else (x.magnitude / Nat.pow 2 52 : Nat) - 1075

/-- The absolute value, where it is a whole number. -/
def wholeMagnitude? (x : Double) : Option Nat :=
  match x.exponent with
  | .ofNat e => some (x.significand * Nat.pow 2 e)
  | .negSucc e =>
    if x.significand % Nat.pow 2 (e + 1) = 0 then some (x.significand / Nat.pow 2 (e + 1)) else none

/-- The integer that a finite number is equal to, if there is one. -/
def integer? (x : Double) : Option Int :=
  if x.isFinite then
    x.wholeMagnitude?.map fun n => if x.negative then -(n : Int) else n
  else none

/-! ## Rounding integers -/

/-- The nearest integer to `n / 2 ^ shift`, a half to the even neighbour. -/
def roundShift (n shift : Nat) : Nat :=
  let quotient := n / Nat.pow 2 shift
  let remainder := n % Nat.pow 2 shift
  if Nat.pow 2 shift < 2 * remainder ∨ (Nat.pow 2 shift = 2 * remainder ∧ quotient % 2 = 1) then
    quotient + 1
  else quotient

/-- The double nearest to a natural number, a half to the even neighbour. -/
def ofNat (n : Nat) : Double :=
  if n = 0 then zero
  else
    let top := n.log2
    let significand := if top ≤ 52 then n * Nat.pow 2 (52 - top) else roundShift n (top - 52)
    -- A significand that is rounded up to `2 ^ 53` carries into the exponent field.
    let magnitude := (top + 1022) * Nat.pow 2 52 + significand
    ofMagnitude false (if magnitude < infiniteMagnitude then magnitude else infiniteMagnitude)

/-- The double nearest to an integer. -/
def ofInt (n : Int) : Double :=
  if n < 0 then neg (ofNat n.natAbs) else ofNat n.natAbs

end Double

end RecordStore
