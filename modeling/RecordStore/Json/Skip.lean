import RecordStore.Json.Reader

/-!
# Passing over JSON

A reader that passes over a value that nobody asked for.  It checks the form of the value and keeps
nothing of it: escapes of surrogates may stand alone, a number may be too large for a double, and
containers may nest as deep as they like.
-/

namespace RecordStore.Json.Reader

/-- Passes over an escape behind its backslash. -/
def skipEscape : Reader Unit := do
  match ← next with
  | none => here .endInString
  | some byte =>
    if byte = 117 then
      let _ ← hexEscape
    else if (simpleEscape? byte).isNone then here .invalidEscape

/-- Passes over a string behind its opening quote. -/
def skipString : Nat → Reader Unit
  | 0 => here .endInString
  | budget + 1 => do
    match ← peek with
    | none => here .endInString
    | some byte =>
      if byte = 34 then skip
      else if byte = 92 then
        skip
        skipEscape
        skipString budget
      else if byte < 32 then here .controlCharacter
      else
        skip
        skipString budget

/-- Passes over an exponent from its letter on. -/
def skipExponent (budget : Nat) : Reader Unit := do
  skip
  if ← nextIs fun byte => byte = 43 || byte = 45 then skip
  if !(← nextIs isDigit) then
    skip
    here .invalidNumber
  let _ ← skipDigits budget 0

/-- Passes over what may follow the digits of a number. -/
def skipFraction (budget : Nat) : Reader Unit := do
  if ← nextIs (· = 46) then
    skip
    let count ← skipDigits budget 0
    if count = 0 then atNext .invalidNumber
  if ← nextIs fun byte => byte = 101 || byte = 69 then skipExponent budget

/-- Passes over a number behind its sign. -/
def skipNumber (budget : Nat) : Reader Unit := do
  match ← next with
  | none => here .invalidNumber
  | some byte =>
    if byte = 48 then
      if ← nextIs isDigit then atNext .invalidNumber
      skipFraction budget
    else if isDigit byte then
      let _ ← skipDigits budget 0
      skipFraction budget
    else here .invalidNumber

mutual

def skipValue : Nat → Reader Unit
  | 0 => here .endInValue
  | budget + 1 => do
    match ← peekToken with
    | none => atNext .endInValue
    | some 110 => skip; word ['u', 'l', 'l']
    | some 116 => skip; word ['r', 'u', 'e']
    | some 102 => skip; word ['a', 'l', 's', 'e']
    | some 45 => skip; skipNumber budget
    | some 34 => skip; skipString budget
    | some 91 => skip; skipItems true budget
    | some 123 => skip; skipFields true budget
    | some byte => if isDigit byte then skipNumber budget else atNext .expectedValue

def skipItems (first : Bool) : Nat → Reader Unit
  | 0 => here .endInList
  | budget + 1 => do
    match ← peekToken with
    | none => atNext .endInList
    | some 93 => skip
    | some byte =>
      if !first then
        if byte = 44 then skip else atNext .expectedListCommaOrEnd
      skipValue budget
      skipItems false budget

def skipFields (first : Bool) : Nat → Reader Unit
  | 0 => here .endInObject
  | budget + 1 => do
    match ← peekToken with
    | none => atNext .endInObject
    | some 125 => skip
    | some byte =>
      if !first then
        if byte = 44 then skip else atNext .expectedObjectCommaOrEnd
      match ← peekToken with
      | some 34 =>
        skip
        skipString budget
        colon
        skipValue budget
        skipFields false budget
      | some _ => atNext .keyMustBeString
      | none => atNext .endInObject

end

end RecordStore.Json.Reader
