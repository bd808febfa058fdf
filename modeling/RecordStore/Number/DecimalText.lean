import RecordStore.Number.Decimal
import RecordStore.Number.Integer
import RecordStore.Number.Shortest

/-!
# Decimal text

`Decimal.render` writes a decimal with all the digits of its scale.  `Decimal.read?` reads positional
text and, failing that, scientific text.

Positional text is an optional sign and digits with at most one point; `_` may stand after the first
digit.  Digits for which there is no room, because the scale is 28 or the coefficient would overflow
behind the point, are dropped: the first of them rounds the number, a 5 upwards.  Underscores before
it are passed over behind a long coefficient; behind a short one the first of them stands for a 0.  A
zero is read without its sign.

Scientific text has an exponent as well.  A negative exponent raises the scale; where the scale would
pass 28, digits are dropped as above, and the sign stays even if no digit is left.
-/

namespace RecordStore.Decimal

/-! ## Writing -/

/-- The text of a decimal: as many digits behind the point as its scale says. -/
def render (x : Decimal) : List Char :=
  let digits := decimalDigits x.magnitude
  let sign := if x.negative then ['-'] else []
  if x.scale = 0 then sign ++ digits
  else
    let padded := List.replicate (x.scale + 1 - digits.length) '0' ++ digits
    let whole := padded.length - x.scale
    sign ++ padded.take whole ++ '.' :: padded.drop whole

def text (x : Decimal) : String := String.ofList x.render

/-! ## Positional text -/

/-- What has been read of a number: its coefficient and its scale. -/
structure Reading where
  coefficient : Nat
  scale : Nat
  afterPoint : Bool
  hasDigit : Bool

/-- Whether no digit more can be read because of the scale. -/
def Reading.isFull (r : Reading) : Bool := r.afterPoint && maxScale ≤ r.scale

/-- Coefficients from here on are read in more than one machine word. -/
def wordLimit : Nat := 10 * ((Nat.pow 2 64 - 1) / 10 - 255)

/-- Whether a character rounds a number that is full.  An underscore does so only behind a coefficient
of one word. -/
def Reading.isRoundedBy (r : Reading) (c : Char) : Bool :=
  r.isFull && (c ≠ '_' || r.coefficient < wordLimit)

/-- The number when a character finds no room: the character rounds it, an underscore like a 0, and
the rest is only checked. -/
def Reading.close (r : Reading) (c : Char) (rest : List Char) : Option Reading :=
  match (if c = '_' then some 0 else digitValue? c) with
  | none => none
  | some digit =>
    if !rest.all fun c => c = '_' ∨ (digitValue? c).isSome then none
    else if digit < 5 then some r
    -- A coefficient that is rounded beyond the limit gives up its last digit.
    else if r.coefficient + 1 < limit then some { r with coefficient := r.coefficient + 1 }
    else if r.scale = 0 then none
    else some { r with coefficient := (r.coefficient + 5) / 10, scale := r.scale - 1 }

def Reading.extend (r : Reading) : List Char → Option Reading
  | [] => if r.hasDigit then some r else none
  | c :: rest =>
    if r.isRoundedBy c then r.close c rest
    else if c = '.' then
      if r.afterPoint then none else { r with afterPoint := true }.extend rest
    else if c = '_' then
      if r.hasDigit then r.extend rest else none
    else
      match digitValue? c with
      | none => none
      | some digit =>
        let next := 10 * r.coefficient + digit
        if next < limit then
          { r with
            coefficient := next
            scale := if r.afterPoint then r.scale + 1 else r.scale
            hasDigit := true }.extend rest
        -- A whole part that is too long is a fault, a fraction is rounded where it ends.
        else if r.afterPoint then r.close c rest
        else none

/-- Reads unsigned positional text as a number of a sign. -/
def readUnsigned? (negative : Bool) (text : List Char) : Option Decimal :=
  match Reading.extend ⟨0, 0, false, false⟩ text with
  | none => none
  | some r => ofParts? (if negative then -(r.coefficient : Int) else r.coefficient) r.scale

def readPositional? : List Char → Option Decimal
  | '-' :: rest => readUnsigned? true rest
  | '+' :: rest => readUnsigned? false rest
  | text => readUnsigned? false text

/-! ## Scientific text -/

/-- Multiplies by `10 ^ power`. -/
def scaleUp? (x : Decimal) (power : Nat) : Option Decimal :=
  -- The scale is lowered if it is large enough, else the coefficient grows.
  if power ≤ x.scale then ofSigned? x.negative x.magnitude (x.scale - power)
  else
    match ofParts? (Nat.pow 10 power) 0 with
    | none => none
    | some factor => (x.mul? factor).map normalize

/-- Divides by `10 ^ power`. -/
def scaleDown? (x : Decimal) (power : Nat) : Option Decimal :=
  -- The scale is raised to 28 at most, and digits beyond that are rounded off, a half upwards.
  let dropped := x.scale + power - maxScale
  ofSigned? x.negative (roundHalfUp x.magnitude (Nat.pow 10 dropped)) (x.scale + power - dropped)

/-- The greatest power of ten in an exponent. -/
def maxPower : Int := 28

/-- Reads a number with an exponent of at most 28 in absolute value. -/
def readScientific? (text : List Char) : Option Decimal :=
  let isMark (c : Char) := c = 'e' ∨ c = 'E'
  match text.dropWhile fun c => !isMark c with
  | [] => none
  | _ :: exponent =>
    match readPositional? (text.takeWhile fun c => !isMark c) with
    | none => none
    | some base =>
      -- The minus sign is taken off first; a plus sign is left to the reader of the integer.
      let (negative, digits) := match exponent with
        | '-' :: rest => (true, rest)
        | rest => (false, rest)
      match IntegerRange.unsigned32.read digits with
      | .error _ => none
      | .ok power =>
        if maxPower < power then none
        else if negative then base.scaleDown? power.toNat
        else base.scaleUp? power.toNat

def read? (text : List Char) : Option Decimal :=
  match readPositional? text with
  | some x => some x
  | none => readScientific? text

end RecordStore.Decimal
