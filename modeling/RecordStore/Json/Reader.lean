import RecordStore.Json.Basic

/-!
# Reading JSON

A reader of the bytes of a text that knows its place, so that every fault names a line and a column;
columns count bytes.  `readDocument` reads a whole text as one value.

Containers nest at most 127 deep.  Readers carry a budget of steps, at least as large as the number
of bytes left, which every step spends one of; `Reader.run` supplies it.
-/

namespace RecordStore.Json

/-! ## Places and faults -/

/-- The part of a text that has not been read, and its place. -/
structure Cursor where
  rest : List UInt8
  line : Nat
  column : Nat

/-- What is wrong with the form of a JSON text. -/
inductive SyntaxFault where
  | endInList
  | endInObject
  | endInString
  | endInValue
  | expectedColon
  | expectedListCommaOrEnd
  | expectedObjectCommaOrEnd
  | expectedIdent
  | expectedValue
  | invalidEscape
  | invalidNumber
  | numberOutOfRange
  | controlCharacter
  | keyMustBeString
  | loneSurrogate
  | trailingComma
  | trailingCharacters
  | endOfHexEscape
  | recursionLimit
deriving DecidableEq

def SyntaxFault.message : SyntaxFault → String
  | .endInList => "EOF while parsing a list"
  | .endInObject => "EOF while parsing an object"
  | .endInString => "EOF while parsing a string"
  | .endInValue => "EOF while parsing a value"
  | .expectedColon => "expected `:`"
  | .expectedListCommaOrEnd => "expected `,` or `]`"
  | .expectedObjectCommaOrEnd => "expected `,` or `\x7d`"
  | .expectedIdent => "expected ident"
  | .expectedValue => "expected value"
  | .invalidEscape => "invalid escape"
  | .invalidNumber => "invalid number"
  | .numberOutOfRange => "number out of range"
  | .controlCharacter => "control character (\\u0000-\\u001F) found while parsing a string"
  | .keyMustBeString => "key must be a string"
  | .loneSurrogate => "lone leading surrogate in hex escape"
  | .trailingComma => "trailing comma"
  | .trailingCharacters => "trailing characters"
  | .endOfHexEscape => "unexpected end of hex escape"
  | .recursionLimit => "recursion limit exceeded"

/-- A fault of a text, and where it was found. -/
structure Fault where
  reason : String
  line : Nat
  column : Nat
deriving DecidableEq

def Fault.message (f : Fault) : String :=
  f.reason ++ " at line " ++ toString f.line ++ " column " ++ toString f.column

abbrev Reader := StateT Cursor (Except Fault)

namespace Cursor

/-- The place behind one byte. -/
def past (c : Cursor) (byte : UInt8) : Nat × Nat :=
  if byte = 10 then (c.line + 1, 0) else (c.line, c.column + 1)

/-- The cursor behind the next byte. -/
def advance (c : Cursor) : Cursor :=
  match c.rest with
  | [] => c
  | byte :: rest => ⟨rest, (c.past byte).1, (c.past byte).2⟩

end Cursor

namespace Reader

def fault {α : Type} (reason : String) : Reader α := fun c =>
  .error ⟨reason, c.line, c.column⟩

/-- Fails at the next byte. -/
def faultAtNext {α : Type} (reason : String) : Reader α := fun c =>
  let next := c.advance
  .error ⟨reason, next.line, next.column⟩

def here {α : Type} (f : SyntaxFault) : Reader α := fault f.message

def atNext {α : Type} (f : SyntaxFault) : Reader α := faultAtNext f.message

/-- The next byte, if there is one, left where it is. -/
def peek : Reader (Option UInt8) := fun c => .ok (c.rest.head?, c)

/-- Passes over the next byte. -/
def skip : Reader Unit := fun c => .ok ((), c.advance)

/-- Takes the next byte, if there is one. -/
def next : Reader (Option UInt8) := fun c => .ok (c.rest.head?, c.advance)

def isSpace (byte : UInt8) : Bool := byte = 32 || byte = 10 || byte = 9 || byte = 13

def isDigit (byte : UInt8) : Bool := 48 ≤ byte && byte ≤ 57

/-- Whether the next byte passes a test. -/
def nextIs (test : UInt8 → Bool) : Reader Bool := fun c => .ok (c.rest.head?.any test, c)

def skipSpaces (c : Cursor) : List UInt8 → Cursor
  | [] => c
  | byte :: rest => if isSpace byte then skipSpaces c.advance rest else c

/-- Passes over white space and peeks at the byte behind it. -/
def peekToken : Reader (Option UInt8) := fun c =>
  let c := skipSpaces c c.rest
  .ok (c.rest.head?, c)

def word : List Char → Reader Unit
  | [] => pure ()
  | expected :: rest => do
    match ← next with
    | none => here .endInValue
    | some byte => if byte.toNat = expected.toNat then word rest else here .expectedIdent

/-! ## Strings -/

def hexValue? (byte : UInt8) : Option Nat :=
  if 48 ≤ byte && byte ≤ 57 then some (byte.toNat - 48)
  else if 97 ≤ byte && byte ≤ 102 then some (byte.toNat - 87)
  else if 65 ≤ byte && byte ≤ 70 then some (byte.toNat - 55)
  else none

/-- Passes over bytes until the end of the text. -/
def skipAll (c : Cursor) : List UInt8 → Cursor
  | [] => c
  | _ :: rest => skipAll c.advance rest

def hexEscape : Reader Nat := do
  match (← get).rest with
  | a :: b :: c :: d :: _ =>
    -- The four bytes are passed before they are looked at, so a fault is behind them.
    skip; skip; skip; skip
    match hexValue? a, hexValue? b, hexValue? c, hexValue? d with
    | some a, some b, some c, some d => pure (((a * 16 + b) * 16 + c) * 16 + d)
    | _, _, _, _ => here .invalidEscape
  | rest =>
    modify fun c => skipAll c rest
    here .endInString

/-- Reads the rest of a Unicode escape; two surrogates in a row make one character. -/
def unicodeEscape : Reader Char := do
  let n ← hexEscape
  if 0xDC00 ≤ n ∧ n ≤ 0xDFFF then here .loneSurrogate
  else if n < 0xD800 ∨ 0xDBFF < n then pure (Char.ofNat n)
  else
    -- A leading surrogate stands for nothing without the escape of a trailing one.
    expectEscape '\\'
    expectEscape 'u'
    let low ← hexEscape
    if low < 0xDC00 ∨ 0xDFFF < low then here .loneSurrogate
    else pure (Char.ofNat ((n - 0xD800) * 1024 + (low - 0xDC00) + 0x10000))
where
  expectEscape (expected : Char) : Reader Unit := do
    match ← peek with
    | none => here .endInString
    | some byte =>
      skip
      if byte.toNat = expected.toNat then pure () else here .endOfHexEscape

/-- The character that a one-letter escape stands for. -/
def simpleEscape? (byte : UInt8) : Option Char :=
  match Char.ofNat byte.toNat with
  | '"' => some '"'
  | '\\' => some '\\'
  | '/' => some '/'
  | 'b' => some '\x08'
  | 'f' => some '\x0c'
  | 'n' => some '\n'
  | 'r' => some '\r'
  | 't' => some '\t'
  | _ => none

/-- Reads the character that an escape stands for, behind its backslash. -/
def escape : Reader Char := do
  match ← next with
  | none => here .endInString
  | some byte =>
    if byte = 117 then unicodeEscape
    else
      match simpleEscape? byte with
      | some c => pure c
      | none => here .invalidEscape

/-- Reads a string behind its opening quote; `bytes` holds the bytes read so far, last first. -/
def stringBytes : Nat → List UInt8 → Reader (List UInt8)
  | 0, _ => here .endInString
  | budget + 1, bytes => do
    match ← next with
    | none => here .endInString
    | some byte =>
      if byte = 34 then pure bytes.reverse
      else if byte = 92 then
        let c ← escape
        stringBytes budget (c.toString.toUTF8.toList.reverse ++ bytes)
      else if byte < 32 then here .controlCharacter
      else stringBytes budget (byte :: bytes)

/-- Reads a string behind its opening quote. -/
def string (budget : Nat) : Reader String := do
  let bytes ← stringBytes budget []
  pure ((String.fromUTF8? ⟨bytes.toArray⟩).getD "")

/-! ## Numbers -/

/-- Reads digits, counting them; `overflowed` tells that a digit found no room in 64 bits. -/
structure DigitRun where
  significand : Nat
  count : Nat
  overflowed : Bool

/-- Reads digits into a significand below `2 ^ 64`, and stops before the first that does not fit. -/
def digits : Nat → Nat → Nat → Reader DigitRun
  | 0, significand, count => pure ⟨significand, count, false⟩
  | budget + 1, significand, count => do
    match ← peek with
    | some byte =>
      if isDigit byte then
        let grown := 10 * significand + (byte.toNat - 48)
        -- The digit that does not fit is left where it is.
        if Nat.pow 2 64 ≤ grown then pure ⟨significand, count, true⟩
        else
          skip
          digits budget grown (count + 1)
      else pure ⟨significand, count, false⟩
    | none => pure ⟨significand, count, false⟩

def skipDigits : Nat → Nat → Reader Nat
  | 0, count => pure count
  | budget + 1, count => do
    if ← nextIs isDigit then
      skip
      skipDigits budget (count + 1)
    else pure count

/-- The double of `significand · 10 ^ exponent`: one multiplication or division by a power of ten,
after divisions by `10 ^ 308` where the exponent is below that. -/
def scaleByPower (x : Double) (exponent : Int) : Nat → Option Double
  | 0 => some x
  | steps + 1 =>
    if exponent.natAbs ≤ 308 then
      let power := Double.ofNat (Nat.pow 10 exponent.natAbs)
      if 0 ≤ exponent then
        let product := x * power
        if product.isFinite then some product else none
      else some (x / power)
    else if x.isZero then some x
    else if 0 ≤ exponent then none
    else scaleByPower (x / Double.ofNat (Nat.pow 10 308)) (exponent + 308) steps

/-- The number of a sign, a significand and a power of ten. -/
def fromParts (negative : Bool) (significand : Nat) (exponent : Int) : Reader Json := do
  match scaleByPower (Double.ofNat significand) exponent 4 with
  | none => here .numberOutOfRange
  | some x => pure (.float (if negative then -x else x))

/-- The greatest exponent that is read digit by digit. -/
def maxExponent : Nat := Nat.pow 2 31 - 1

/-- Reads the digits of an exponent; none when they leave 31 bits. -/
def exponentDigits : Nat → Nat → Reader (Option Nat)
  | 0, acc => pure (some acc)
  | budget + 1, acc => do
    match ← peek with
    | some byte =>
      if isDigit byte then
        skip
        let grown := 10 * acc + (byte.toNat - 48)
        if maxExponent < grown then pure none else exponentDigits budget grown
      else pure (some acc)
    | none => pure (some acc)

/-- Reads an exponent from its letter on and closes the number. -/
def exponentPart (budget : Nat) (negative : Bool) (significand : Nat) (start : Int) :
    Reader Json := do
  skip
  let sign ← peek
  if sign = some 43 ∨ sign = some 45 then skip
  let negativeExponent := sign = some 45
  match ← next with
  | none => here .endInValue
  | some byte =>
    if !isDigit byte then here .invalidNumber
    else
      match ← exponentDigits budget (byte.toNat - 48) with
      | some exponent =>
        fromParts negative significand
          (if negativeExponent then start - exponent else start + exponent)
      | none =>
        -- A number of a huge negative exponent is a zero, and so is a zero of any exponent.
        if significand ≠ 0 ∧ !negativeExponent then here .numberOutOfRange
        else
          let _ ← skipDigits budget 0
          pure (.float (if negative then -Double.zero else Double.zero))

/-- Reads a fraction from its point on and closes the number. -/
def fractionPart (budget : Nat) (negative : Bool) (significand : Nat) (start : Int) :
    Reader Json := do
  skip
  let run ← digits budget significand 0
  -- Digits for which the significand has no room carry no weight.
  if run.overflowed then
    let _ ← skipDigits budget 0
  else if run.count = 0 then
    match ← peek with
    | some _ => atNext .invalidNumber
    | none => here .endInValue
  let exponent := start - run.count
  if ← nextIs fun byte => byte = 101 || byte = 69 then
    exponentPart budget negative run.significand exponent
  else fromParts negative run.significand exponent

/-- Reads what may follow the whole part of a number. -/
def numberTail (budget : Nat) (negative : Bool) (significand : Nat) (exponent : Int)
    (plain : Reader Json) : Reader Json := do
  -- A point, or an `e` of either case.
  match ← peek with
  | some 46 => fractionPart budget negative significand exponent
  | some 101 => exponentPart budget negative significand exponent
  | some 69 => exponentPart budget negative significand exponent
  | _ => plain

/-- The number of a whole part alone: a double where 64 bits do not hold it, and for `-0`. -/
def wholeNumber (negative : Bool) (significand : Nat) : Json :=
  if !negative then .int significand
  else if significand = 0 ∨ Nat.pow 2 63 < significand then .float (-(Double.ofNat significand))
  else .int (-(significand : Int))

/-- Reads a number behind its sign. -/
def number (budget : Nat) (negative : Bool) : Reader Json := do
  match ← next with
  | none => here .endInValue
  | some byte =>
    -- No digit may follow a zero at the front.
    if byte = 48 then
      if ← nextIs isDigit then atNext .invalidNumber
      else numberTail budget negative 0 0 (pure (wholeNumber negative 0))
    else if isDigit byte then
      let run ← digits budget (byte.toNat - 48) 0
      -- Each digit that is passed over makes the number ten times as large.
      if run.overflowed then
        let extra ← skipDigits budget 0
        numberTail budget negative run.significand extra
          (fromParts negative run.significand extra)
      else
        numberTail budget negative run.significand 0
          (pure (wholeNumber negative run.significand))
    else here .invalidNumber

/-! ## Values -/

/-- The number of containers that may be open at once. -/
def maxDepth : Nat := 127

/-- Reads the key of an object's field and its colon; `first` tells whether it is the first one.
None at the end of the object, which is left where it is. -/
def fieldName (budget : Nat) (first : Bool) : Reader (Option String) := do
  match ← peekToken with
  | none => atNext .endInObject
  | some 125 => pure none
  | some byte =>
    if first then
      if byte = 34 then name else atNext .keyMustBeString
    else if byte = 44 then
      skip
      match ← peekToken with
      | some 34 => name
      | some 125 => atNext .trailingComma
      | some _ => atNext .keyMustBeString
      | none => atNext .endInValue
    else atNext .expectedObjectCommaOrEnd
where
  name : Reader (Option String) := do
    skip
    let key ← string budget
    pure (some key)

def colon : Reader Unit := do
  match ← peekToken with
  | some 58 => skip
  | some _ => atNext .expectedColon
  | none => atNext .endInObject

/-- Whether another item of a list follows; `first` tells whether it would be the first one. -/
def moreItems (first : Bool) : Reader Bool := do
  match ← peekToken with
  | none => atNext .endInList
  | some 93 => pure false
  | some byte =>
    if first then pure true
    else if byte = 44 then
      skip
      match ← peekToken with
      | some 93 => atNext .trailingComma
      | some _ => pure true
      | none => atNext .endInValue
    else atNext .expectedListCommaOrEnd

def closeList : Reader Unit := do
  match ← peekToken with
  | some 93 => skip
  | some 44 =>
    skip
    match ← peekToken with
    | some 93 => atNext .trailingComma
    | _ => atNext .trailingCharacters
  | some _ => atNext .trailingCharacters
  | none => atNext .endInList

def closeObject : Reader Unit := do
  match ← peekToken with
  | some 125 => skip
  | some 44 => atNext .trailingComma
  | some _ => atNext .trailingCharacters
  | none => atNext .endInObject

mutual

/-- Reads a value, with room for `depth` more containers. -/
def value (depth : Nat) : Nat → Reader Json
  | 0 => here .endInValue
  | budget + 1 => do
    -- The bytes are those of `n`, `t`, `f`, a minus sign, a quote, and the opening brackets.
    match ← peekToken with
    | none => atNext .endInValue
    | some 110 => skip; word ['u', 'l', 'l']; pure .null
    | some 116 => skip; word ['r', 'u', 'e']; pure (.bool true)
    | some 102 => skip; word ['a', 'l', 's', 'e']; pure (.bool false)
    | some 45 => skip; number budget true
    | some 34 => do
      skip
      let s ← string budget
      pure (.str s)
    | some 91 => do
      if depth = 0 then atNext .recursionLimit
      skip
      let items ← items (depth - 1) true budget
      closeList
      pure (.arr items)
    | some 123 => do
      if depth = 0 then atNext .recursionLimit
      skip
      let fields ← fields (depth - 1) true budget
      closeObject
      pure (.object fields)
    | some byte => if isDigit byte then number budget false else atNext .expectedValue

def items (depth : Nat) (first : Bool) : Nat → Reader (List Json)
  | 0 => pure []
  | budget + 1 => do
    if ← moreItems first then
      let item ← value depth budget
      let rest ← items depth false budget
      pure (item :: rest)
    else pure []

def fields (depth : Nat) (first : Bool) : Nat → Reader (List (String × Json))
  | 0 => pure []
  | budget + 1 => do
    match ← fieldName budget first with
    | none => pure []
    | some name =>
      colon
      let item ← value depth budget
      let rest ← fields depth false budget
      pure ((name, item) :: rest)

end

def run {α : Type} (reader : Nat → Reader α) (text : String) : Except Fault α := do
  let bytes := text.toUTF8.toList
  -- The budget bounds the depth of every recursion, and a text of this length needs no more.
  let whole : Reader α := do
    let result ← reader (2 * bytes.length + 2)
    match ← peekToken with
    | none => pure result
    | some _ => atNext .trailingCharacters
  let (result, _) ← whole ⟨bytes, 1, 0⟩
  pure result

end Reader

def readDocument (text : String) : Except Fault Json := Reader.run (Reader.value Reader.maxDepth) text

end RecordStore.Json
