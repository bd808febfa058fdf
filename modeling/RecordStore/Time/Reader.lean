import RecordStore.Number.Integer
import RecordStore.Text.Blank
import RecordStore.Time.Timestamp

/-!
# Reading timestamps

Three forms are read, the first that fits counts:

* a strict internet timestamp, with fixed widths and an offset from UTC (`readInternet?`);
* a lenient date and time, taken as UTC, with a space or a `T` between them (`readLenient?`);
* a bare date, taken as its midnight.

Digits of a fraction beyond the sixth are dropped.  A lenient number may have fewer digits than its
width and white space in front; a lenient year may be signed, and then be longer than four digits.
-/

namespace RecordStore

namespace Scan

/-- Reads up to `most` digits after the number read so far. -/
def digitsFrom (acc : Nat) : Nat → List Char → Nat × List Char
  | 0, text => (acc, text)
  | _ + 1, [] => (acc, [])
  | most + 1, c :: rest =>
    match digitValue? c with
    | none => (acc, c :: rest)
    | some d => digitsFrom (10 * acc + d) most rest

/-- Reads a number of one to `most` digits. -/
def number (most : Nat) : List Char → Option (Nat × List Char)
  | [] => none
  | c :: rest =>
    match digitValue? c with
    | none => none
    | some d => some (digitsFrom d (most - 1) rest)

/-- Reads a number of exactly `width` digits. -/
def fixed (width : Nat) (text : List Char) : Option (Nat × List Char) :=
  if (text.take width).length = width ∧ (text.take width).all fun c => (digitValue? c).isSome then
    number width text
  else none

def char (expected : Char) : List Char → Option (List Char)
  | [] => none
  | c :: rest => if c = expected then some rest else none

/-- Reads the digits of a fraction as microseconds; digits beyond the sixth have no weight. -/
def micros (text : List Char) : Option (Nat × List Char) :=
  match number 9 text with
  | none => none
  | some (n, rest) =>
    let consumed := text.length - rest.length
    some (n * Nat.pow 10 (9 - consumed) / 1000, rest.dropWhile fun c => (digitValue? c).isSome)

/-- Reads a fraction behind a point, if there is a point. -/
def fraction : List Char → Option (Nat × List Char)
  | '.' :: rest => micros rest
  | text => some (0, text)

end Scan

namespace Timestamp

open Scan

/-- The years that a timestamp is read with. -/
def yearInRange (year : Int) : Bool := -262143 ≤ year && year ≤ 262142

/-! ## Internet timestamps -/

/-- Reads an offset from UTC in minutes: `Z`, or a sign, two digits, a colon and two digits.  The
minus sign of typography counts as a minus. -/
def readOffset : List Char → Option (Int × List Char)
  | [] => none
  | c :: rest =>
    if c = 'Z' ∨ c = 'z' then some (0, rest)
    else if c = '+' ∨ c = '-' ∨ c = '\u2212' then do
      let (hours, rest) ← fixed 2 rest
      let rest ← char ':' rest
      let (minutes, rest) ← fixed 2 rest
      if hours ≤ 23 ∧ minutes ≤ 59 then
        let offset : Int := hours * 60 + minutes
        some (if c = '+' then offset else -offset, rest)
      else none
    else none

def readInternet? (text : List Char) : Option Timestamp := do
  let (year, rest) ← fixed 4 text
  let rest ← char '-' rest
  let (month, rest) ← fixed 2 rest
  let rest ← char '-' rest
  let (day, rest) ← fixed 2 rest
  let rest ← (char 'T' rest).or ((char 't' rest).or (char ' ' rest))
  let (hour, rest) ← fixed 2 rest
  let rest ← char ':' rest
  let (minute, rest) ← fixed 2 rest
  let rest ← char ':' rest
  let (second, rest) ← fixed 2 rest
  let (micro, rest) ← fraction rest
  let (offset, rest) ← readOffset rest
  let date ← Day.ofFields? year month day
  let local_ ← ofFields? date hour minute second micro
  if rest.isEmpty then some (local_.shiftMinutes (-offset)) else none

/-! ## Lenient forms -/

/-- Reads a number of up to `most` digits behind any white space. -/
def readField (most : Nat) (text : List Char) : Option (Nat × List Char) := number most (trimFront text)

/-- Reads a year, which may be signed. -/
def readYear (text : List Char) : Option (Int × List Char) :=
  match trimFront text with
  | '-' :: rest => (number rest.length rest).map fun (n, rest) => (-(n : Int), rest)
  | '+' :: rest => (number rest.length rest).map fun (n, rest) => ((n : Int), rest)
  | text => (number 4 text).map fun (n, rest) => ((n : Int), rest)

/-- Reads a year, a month and a day with hyphens between them. -/
def readDate (text : List Char) : Option (Day × List Char) := do
  let (year, rest) ← readYear text
  let rest ← char '-' rest
  let (month, rest) ← readField 2 rest
  let rest ← char '-' rest
  let (day, rest) ← readField 2 rest
  let date ← Day.ofFields? year month day
  if yearInRange year then some (date, rest) else none

/-- Reads hours, minutes and seconds with colons between them, and an optional fraction, at the end
of a text. -/
def readTime? (date : Day) (text : List Char) : Option Timestamp := do
  let (hour, rest) ← readField 2 text
  let rest ← char ':' rest
  let (minute, rest) ← readField 2 rest
  let rest ← char ':' rest
  let (second, rest) ← readField 2 rest
  let (micro, rest) ← fraction rest
  if rest.isEmpty then ofFields? date hour minute second micro else none

/-- Reads a date and a time with any white space, or with a `T`, between them. -/
def readLenient? (text : List Char) : Option Timestamp := do
  let (date, rest) ← readDate text
  (readTime? date (trimFront rest)).or ((char 'T' rest).bind (readTime? date))

/-- Reads a bare date as its midnight. -/
def readBareDate? (text : List Char) : Option Timestamp := do
  let (date, rest) ← readDate text
  if rest.isEmpty then some (midnight date) else none

/-- Reads a timestamp in any of the forms, with white space around it. -/
def read? (text : String) : Option Timestamp :=
  let text := trimText text.toList
  (readInternet? text).or ((readLenient? text).or (readBareDate? text))

end Timestamp

end RecordStore
