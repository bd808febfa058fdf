import RecordStore.Number.Double

/-!
# Shortest decimal text of a double

A finite double is written with the fewest significant digits that read back as the same number, and
of those with the nearest.  All of it is exact arithmetic on natural numbers: the double is
`significand · 2 ^ exponent`, the numbers that round to it form an interval around it, and for each
count of digits the two neighbours of the double on that decimal grid are tried.

* `Digits` holds the digits chosen and their place.
* `DoubleFormat` says how digits become text: which exponents are written in positional notation and
  what follows a whole number.  `DoubleFormat.json` and `DoubleFormat.plain` are the two in use.
-/

namespace RecordStore

/-- The decimal number `coefficient · 10 ^ exponent`. -/
structure Digits where
  coefficient : Nat
  exponent : Int
deriving DecidableEq

/-- A positive number, and the ends of the interval of numbers that round to it, over one
denominator.  The ends belong to the interval when `closed`. -/
structure RoundingInterval where
  low : Nat
  value : Nat
  high : Nat
  denominator : Nat
  closed : Bool

namespace RoundingInterval

/-- The interval of a positive finite double. -/
def ofDouble (x : Double) : RoundingInterval :=
  -- In quarters of a unit of the last place the ends are whole numbers.
  let m := x.significand
  -- Below a power of two the numbers are half as far apart as above it.
  let below := if x.magnitude % Nat.pow 2 52 = 0 ∧ Nat.pow 2 52 < x.magnitude then 1 else 2
  let scale := x.exponent - 2
  let up := Nat.pow 2 scale.toNat
  { low := (4 * m - below) * up
    value := 4 * m * up
    high := (4 * m + 2) * up
    denominator := Nat.pow 2 (-scale).toNat
    closed := m % 2 = 0 }

/-- The interval seen on the grid of multiples of `10 ^ place`. -/
def onGrid (i : RoundingInterval) (place : Int) : RoundingInterval :=
  let up := Nat.pow 10 (-place).toNat
  { i with
    low := i.low * up
    value := i.value * up
    high := i.high * up
    denominator := i.denominator * Nat.pow 10 place.toNat }

def covers (i : RoundingInterval) (n : Nat) : Bool :=
  let scaled := n * i.denominator
  if i.closed then i.low ≤ scaled && scaled ≤ i.high else i.low < scaled && scaled < i.high

/-- The whole number in the interval that is nearest to the value, if one of the two neighbours of
the value is in it; a tie goes to the even one. -/
def nearestWhole? (i : RoundingInterval) : Option Nat :=
  let floor := i.value / i.denominator
  match i.covers floor, i.covers (floor + 1) with
  | false, false => none
  | true, false => some floor
  | false, true => some (floor + 1)
  | true, true =>
    let rest := i.value % i.denominator
    if 2 * rest < i.denominator ∨ (2 * rest = i.denominator ∧ floor % 2 = 0) then some floor
    else some (floor + 1)

/-- Whether the value is at least `10 ^ place`. -/
def reaches (i : RoundingInterval) (place : Int) : Bool :=
  i.denominator * Nat.pow 10 place.toNat ≤ i.value * Nat.pow 10 (-place).toNat

end RoundingInterval

/-- The decimal number without the zeros at the end of its coefficient. -/
def Digits.trim (coefficient : Nat) (exponent : Int) : Nat → Digits
  | 0 => ⟨coefficient, exponent⟩
  | fuel + 1 =>
    if coefficient % 10 = 0 then Digits.trim (coefficient / 10) (exponent + 1) fuel
    else ⟨coefficient, exponent⟩

namespace Double

/-- The place of the first significant digit of a positive finite double: the greatest `p` with
`10 ^ p` at most the number.  The binary exponent gives it up to one. -/
def leadingPlace (x : Double) : Int :=
  let interval := RoundingInterval.ofDouble x
  -- 30103 / 100000 is just above the logarithm of 2 to base 10.
  let guess := ((x.significand.log2 : Int) + x.exponent) * 30103 / 100000
  if !interval.reaches guess then guess - 1
  else if interval.reaches (guess + 1) then guess + 1
  else guess

/-- The shortest decimal number that reads back as a positive finite double, and of those the
nearest. -/
def shortest (x : Double) : Digits :=
  let interval := RoundingInterval.ofDouble x
  let top := x.leadingPlace
  -- Seventeen digits always suffice.
  let found := (List.range 17).findSome? fun (k : Nat) =>
    let place := top - k
    ((interval.onGrid place).nearestWhole?).map fun n => Digits.trim n place 20
  found.getD ⟨0, 0⟩

end Double

/-! ## Text -/

/-- How the digits of a double are written. -/
structure DoubleFormat where
  /-- The exponents of the first digit that are written in positional notation. -/
  positional : Int → Bool
  /-- What follows the digits of a whole number. -/
  wholeSuffix : String

/-- Numbers from `1e-5` up to below `1e16` are positional, and a whole number ends in `.0`. -/
def DoubleFormat.json : DoubleFormat := ⟨fun place => -5 ≤ place && place ≤ 15, ".0"⟩

/-- Every number is positional, and a whole number has no point. -/
def DoubleFormat.plain : DoubleFormat := ⟨fun _ => true, ""⟩

/-- The digits of a natural number. -/
def decimalDigits (n : Nat) : List Char := Nat.toDigits 10 n

def Digits.positionalText (d : Digits) (wholeSuffix : String) : String :=
  let digits := decimalDigits d.coefficient
  if 0 ≤ d.exponent then
    String.ofList (digits ++ List.replicate d.exponent.toNat '0') ++ wholeSuffix
  else
    let fraction := (-d.exponent).toNat
    let padded := List.replicate (fraction + 1 - digits.length) '0' ++ digits
    let whole := padded.length - fraction
    String.ofList (padded.take whole ++ '.' :: padded.drop whole)

/-- The text of digits with an exponent, which always has a sign. -/
def Digits.exponentText (d : Digits) : String :=
  let digits := decimalDigits d.coefficient
  let place := d.exponent + (digits.length - 1 : Nat)
  let mantissa := digits.take 1 ++ (if digits.length = 1 then [] else '.' :: digits.drop 1)
  let sign := if place < 0 then '-' else '+'
  String.ofList (mantissa ++ 'e' :: sign :: decimalDigits place.natAbs)

def Double.text (format : DoubleFormat) (x : Double) : String :=
  if x.isNaN then "NaN"
  else
    let sign := if x.negative then "-" else ""
    if !x.isFinite then sign ++ "inf"
    else if x.isZero then sign ++ "0" ++ format.wholeSuffix
    else
      let d := x.shortest
      let place := d.exponent + ((decimalDigits d.coefficient).length - 1 : Nat)
      if format.positional place then sign ++ d.positionalText format.wholeSuffix
      else sign ++ d.exponentText

end RecordStore
