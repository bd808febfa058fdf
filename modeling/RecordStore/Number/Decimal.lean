import RecordStore.Number.Double

/-!
# Decimal numbers

A `Decimal` is `± magnitude / 10 ^ scale` with a magnitude below `2 ^ 96` and a scale of at most 28.
The scale is part of the number: `1.5` and `1.50` are equal but written differently.  So is the sign
of a zero: a number that is rounded to nothing may keep its sign.

* `compare` orders decimals by their exact value.
* `add?`, `sub?`, `mul?` give the exact result, at the largest scale at which it fits, rounded once
  with a half to the even neighbour; without a scale at which it fits there is no result.
* `div?` produces digits nine at a time until the remainder is spent or the room is.
-/

namespace RecordStore

/-- The number `± magnitude / 10 ^ scale`. -/
structure Decimal where
  negative : Bool
  magnitude : Nat
  scale : Nat
  magnitude_lt : magnitude < Nat.pow 2 96
  scale_le : scale ≤ 28
deriving DecidableEq

namespace Decimal

/-- The bound on magnitudes. -/
def limit : Nat := Nat.pow 2 96

/-- The greatest scale. -/
def maxScale : Nat := 28

/-- The magnitude with its sign. -/
def coefficient (x : Decimal) : Int := if x.negative then -(x.magnitude : Int) else x.magnitude

/-- The decimal of a sign, a magnitude and a scale within bounds. -/
def ofSigned? (negative : Bool) (magnitude scale : Nat) : Option Decimal :=
  if h : magnitude < Nat.pow 2 96 ∧ scale ≤ 28 then some ⟨negative, magnitude, scale, h.1, h.2⟩
  else none

/-- The decimal of a coefficient and a scale within bounds; a zero has no sign. -/
def ofParts? (coefficient : Int) (scale : Nat) : Option Decimal :=
  ofSigned? (coefficient < 0) coefficient.natAbs scale

def zero : Decimal := ⟨false, 0, 0, by decide, by decide⟩

instance : Inhabited Decimal := ⟨zero⟩

def isZero (x : Decimal) : Bool := x.magnitude = 0

/-- The number with the other sign; a zero keeps the sign it has. -/
def neg (x : Decimal) : Decimal := if x.isZero then x else { x with negative := !x.negative }

instance : Neg Decimal := ⟨neg⟩

/-- The number without the sign of a zero. -/
def unsignedZero (x : Decimal) : Decimal := if x.isZero then { x with negative := false } else x

def ofInt64 (n : Int64) : Decimal :=
  ⟨n.toInt < 0, n.toInt.natAbs, 0, by
    have := n.le_toInt
    have := n.toInt_lt
    have : Nat.pow 2 96 = 79228162514264337593543950336 := rfl
    omega, by decide⟩

theorem natAbs_coefficient (x : Decimal) : x.coefficient.natAbs = x.magnitude := by
  cases h : x.negative <;> simp [coefficient, h]

theorem coefficient_neg (x : Decimal) : (-x).coefficient = -x.coefficient := by
  change x.neg.coefficient = _
  unfold neg
  split
  · next h =>
    have hm : x.magnitude = 0 := by simpa [isZero] using h
    simp [coefficient, hm]
  · cases h : x.negative <;> simp [coefficient, h]

def ofCount? (n : Nat) : Option Decimal := ofParts? n 0

/-! ## Order -/

/-- The order of two decimals by value: both brought to one denominator. -/
def compare (x y : Decimal) : Ordering :=
  Ord.compare (x.coefficient * Nat.pow 10 y.scale) (y.coefficient * Nat.pow 10 x.scale)

/-! ## Rounding and fitting -/

/-- The integer nearest to `n / d`, a half to the even neighbour. -/
def roundHalfEven (n d : Nat) : Nat :=
  let quotient := n / d
  let rest := n % d
  if d < 2 * rest ∨ (d = 2 * rest ∧ quotient % 2 = 1) then quotient + 1 else quotient

/-- The integer nearest to `n / d`, a half upwards. -/
def roundHalfUp (n d : Nat) : Nat := (2 * n + d) / (2 * d)

/-- The result `± n / 10 ^ (dropped + scale)` with digits dropped, as many as needed to fit. -/
def fitDropping (negative : Bool) (n : Nat) (dropped : Nat) : Nat → Option Decimal
  | 0 => ofSigned? negative (roundHalfEven n (Nat.pow 10 dropped)) 0
  | scale + 1 =>
    match ofSigned? negative (roundHalfEven n (Nat.pow 10 dropped)) (scale + 1) with
    | some x => some x
    | none => fitDropping negative n (dropped + 1) scale

/-- The decimal nearest to `± n / 10 ^ scale` at the largest scale at which it fits. -/
def fit? (negative : Bool) (n scale : Nat) : Option Decimal :=
  -- The sign is handed through, so what is rounded to zero keeps it.
  fitDropping negative n (scale - 28) (min scale 28)

/-! ## Arithmetic -/

def add? (x y : Decimal) : Option Decimal :=
  -- A zero leaves the other operand as it is, scale included.
  if x.isZero then some y
  else if y.isZero then some x
  else
    let scale := max x.scale y.scale
    let sum := x.coefficient * Nat.pow 10 (scale - x.scale) + y.coefficient * Nat.pow 10 (scale - y.scale)
    fit? (sum < 0) sum.natAbs scale

def sub? (x y : Decimal) : Option Decimal := x.add? (-y)

def isShort (x : Decimal) : Bool := x.magnitude < Nat.pow 2 32

def mul? (x y : Decimal) : Option Decimal :=
  let scale := x.scale + y.scale
  let product? := fit? (x.negative != y.negative) (x.magnitude * y.magnitude) scale
  if x.isZero || y.isZero then some zero
  -- Short operands are multiplied in one word: what is rounded to zero has no sign, and scales that
  -- sum to more than 47 leave no digit of the product.
  else if x.isShort && y.isShort then
    if 47 < scale then some zero else product?.map unsignedZero
  else product?

/-! ## Division -/

/-- The state of a long division: the quotient so far, its scale (negative while whole digits are
missing), and the remainder. -/
structure Division where
  quotient : Nat
  scale : Int
  remainder : Nat

/-- The greatest power of ten, at most `bound`, by which a quotient can still grow. -/
def roomFor (quotient : Nat) : Nat → Nat
  | 0 => 0
  | bound + 1 => if quotient * Nat.pow 10 (bound + 1) < limit then bound + 1 else roomFor quotient bound

/-- Removes a block of zeros from the end of a coefficient, if they are there and the scale has
them. -/
def stripBlock (block : Nat) (c : Nat × Nat) : Nat × Nat :=
  if block ≤ c.2 ∧ c.1 % Nat.pow 10 block = 0 then (c.1 / Nat.pow 10 block, c.2 - block) else c

/-- Removes zeros from the end of a coefficient, in blocks of eight, of four, of two and of one. -/
def stripZeros (coefficient scale : Nat) : Nat × Nat :=
  let c := stripBlock 1 (stripBlock 2 (stripBlock 4 (eights scale coefficient scale)))
  c
where
  eights : Nat → Nat → Nat → Nat × Nat
    | 0, m, s => (m, s)
    | fuel + 1, m, s =>
      -- Eight zeros are looked for only where the lowest word of the coefficient is zero.
      if m % Nat.pow 2 32 = 0 ∧ 8 ≤ s ∧ m % Nat.pow 10 8 = 0 then
        eights fuel (m / Nat.pow 10 8) (s - 8)
      else (m, s)

/-- Rounds a quotient that is one digit too long; what was left over decides a tie upwards. -/
def shortenQuotient (quotient remainder : Nat) : Nat :=
  let last := quotient % 10
  let short := quotient / 10
  if 5 < last ∨ (last = 5 ∧ (remainder ≠ 0 ∨ short % 2 = 1)) then short + 1 else short

/-- Carries a division on: the coefficient and the scale of the result, and whether digits were
produced beyond an exact division, which is when zeros at the end are removed. -/
def divideFrom (divisor : Nat) : Nat → Division → Bool → Option (Nat × Nat × Bool)
  | 0, _, _ => none
  | fuel + 1, d, strip =>
    -- Without a remainder nothing but the whole digits of a negative scale can be missing.
    if d.remainder = 0 then
      if 0 ≤ d.scale then some (d.quotient, d.scale.toNat, strip)
      else grow divisor fuel d (min 9 (-d.scale).toNat) strip
    else
      let room := if d.scale = 28 then 0 else roomFor d.quotient (min 9 (28 - d.scale).toNat)
      if d.scale ≠ 28 ∧ room < 9 ∧ d.scale + room < 0 then none
      -- No digit fits any more: the remainder decides how the last one is rounded.
      else if room = 0 then
        let rounded :=
          if divisor < 2 * d.remainder ∨ (divisor = 2 * d.remainder ∧ d.quotient % 2 = 1) then
            d.quotient + 1
          else d.quotient
        if rounded < limit then some (rounded, d.scale.toNat, true)
        else if d.scale ≤ 0 then none
        else some (shortenQuotient rounded 0, d.scale.toNat - 1, true)
      else grow divisor fuel d room true
where
  /-- Appends `places` digits to the quotient. -/
  grow (divisor fuel : Nat) (d : Division) (places : Nat) (strip : Bool) :
      Option (Nat × Nat × Bool) :=
    let shifted := d.quotient * Nat.pow 10 places
    if limit ≤ shifted then none
    else
      let part := d.remainder * Nat.pow 10 places
      let quotient := shifted + part / divisor
      let scale := d.scale + places
      -- The block of digits was chosen for the old quotient and may still carry over the limit.
      if limit ≤ quotient then
        if scale < 1 then none
        else some (shortenQuotient quotient (part % divisor), (scale - 1).toNat, strip)
      else divideFrom divisor fuel ⟨quotient, scale, part % divisor⟩ strip

/-- The quotient; none by a zero divisor. -/
def div? (x y : Decimal) : Option Decimal :=
  if y.isZero then none
  else if x.isZero then some zero
  else
    let m := x.magnitude
    let divisor := y.magnitude
    match divideFrom divisor 60 ⟨m / divisor, x.scale - y.scale, m % divisor⟩ false with
    | none => none
    | some (coefficient, scale, strip) =>
      let (c, s) := if strip then stripZeros coefficient scale else (coefficient, scale)
      -- A zero quotient has no sign, also where it comes of rounding.
      (ofSigned? (x.negative != y.negative) c s).map unsignedZero

/-! ## Other forms -/

/-- The number without the zeros at the end of its fraction. -/
def normalize (x : Decimal) : Decimal := strip x.scale x
where
  strip : Nat → Decimal → Decimal
    | 0, x => x
    | fuel + 1, x =>
      if x.scale ≠ 0 ∧ x.magnitude % 10 = 0 then
        strip fuel
          ⟨x.negative, x.magnitude / 10, x.scale - 1, by have := x.magnitude_lt; omega,
            by have := x.scale_le; omega⟩
      else x

/-- The nearest double, computed from the whole and the fractional part. -/
def toDouble (x : Decimal) : Double :=
  let m := x.magnitude
  let unit := Nat.pow 10 x.scale
  let power := Double.ofNat unit
  let whole := Double.ofNat (m / unit)
  let fraction := Double.ofNat (m % unit) / power
  -- The sum is brought back onto the grid of the scale, which takes off what division left behind.
  let value :=
    if x.scale = 0 ∨ fraction.isZero then whole
    else ((whole + fraction) * power).round / power
  if x.negative then -value else value

end Decimal

end RecordStore
