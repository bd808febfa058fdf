/-!
# Timestamps

A `Timestamp` is a date and a time of day in UTC with microseconds, held as its calendar fields.  A
second of 60 is a leap second, which comes after second 59 and before the next minute.

* `compare` orders timestamps field by field, which is the order of time.
* `render` writes the fixed form `YYYY-MM-DDTHH:MM:SS.ffffffZ`; years of other than four digits get
  a sign.
* `shiftMinutes` moves a timestamp by an offset of less than a day.
-/

namespace RecordStore

/-! ## The calendar -/

def isLeapYear (year : Int) : Bool := year % 4 = 0 ∧ (year % 100 ≠ 0 ∨ year % 400 = 0)

/-- The number of days of a month, in `1 … 12`. -/
def daysInMonth (year : Int) (month : Nat) : Nat :=
  if month = 2 then (if isLeapYear year then 29 else 28)
  else if month = 4 ∨ month = 6 ∨ month = 9 ∨ month = 11 then 30
  else 31

/-- A day of the proleptic Gregorian calendar. -/
structure Day where
  year : Int
  month : Nat
  day : Nat
  valid : 1 ≤ month ∧ month ≤ 12 ∧ 1 ≤ day ∧ day ≤ daysInMonth year month
deriving DecidableEq

def Day.ofFields? (year : Int) (month day : Nat) : Option Day :=
  if h : 1 ≤ month ∧ month ≤ 12 ∧ 1 ≤ day ∧ day ≤ daysInMonth year month then
    some ⟨year, month, day, h⟩
  else none

theorem one_le_daysInMonth (year : Int) (month : Nat) : 1 ≤ daysInMonth year month := by
  unfold daysInMonth
  repeat' split
  all_goals omega

theorem daysInMonth_december (year : Int) : daysInMonth year 12 = 31 := rfl

/-- The day after. -/
def Day.next (d : Day) : Day :=
  if h : d.day < daysInMonth d.year d.month then
    ⟨d.year, d.month, d.day + 1, by have := d.valid; omega⟩
  else if hm : d.month < 12 then
    ⟨d.year, d.month + 1, 1, by
      have := d.valid; have := one_le_daysInMonth d.year (d.month + 1); omega⟩
  else ⟨d.year + 1, 1, 1, by have := one_le_daysInMonth (d.year + 1) 1; omega⟩

/-- The day before. -/
def Day.previous (d : Day) : Day :=
  if h : 1 < d.day then ⟨d.year, d.month, d.day - 1, by have := d.valid; omega⟩
  else if hm : 1 < d.month then
    ⟨d.year, d.month - 1, daysInMonth d.year (d.month - 1), by
      have := d.valid; have := one_le_daysInMonth d.year (d.month - 1); omega⟩
  else ⟨d.year - 1, 12, 31, by have := daysInMonth_december (d.year - 1); omega⟩

/-- The day a number of days after 1970-01-01. -/
def Day.ofEpochDays (days : Int) : Option Day :=
  -- The first day of March of the year 0 lies 719468 days before the start of 1970.
  let shifted := days + 719468
  -- Four hundred years have 146097 days; in a year that begins in March the leap day comes last, so
  -- that the rest is even division.
  let era := shifted / 146097
  let dayOfEra := (shifted % 146097).toNat
  let yearOfEra := (dayOfEra - dayOfEra / 1460 + dayOfEra / 36524 - dayOfEra / 146096) / 365
  let dayOfYear := dayOfEra - (365 * yearOfEra + yearOfEra / 4 - yearOfEra / 100)
  -- From March on, every five months have 153 days.
  let marchMonth := (5 * dayOfYear + 2) / 153
  let month := if marchMonth < 10 then marchMonth + 3 else marchMonth - 9
  let year := (yearOfEra : Int) + era * 400 + (if month ≤ 2 then 1 else 0)
  Day.ofFields? year month (dayOfYear - (153 * marchMonth + 2) / 5 + 1)

/-! ## Timestamps -/

/-- A moment in UTC, to the microsecond. -/
structure Timestamp where
  date : Day
  hour : Nat
  minute : Nat
  second : Nat
  micro : Nat
  valid : hour ≤ 23 ∧ minute ≤ 59 ∧ second ≤ 60 ∧ micro ≤ 999999
deriving DecidableEq

namespace Timestamp

/-- The timestamp of a day and the fields of a time of day. -/
def ofFields? (date : Day) (hour minute second micro : Nat) : Option Timestamp :=
  if h : hour ≤ 23 ∧ minute ≤ 59 ∧ second ≤ 60 ∧ micro ≤ 999999 then
    some ⟨date, hour, minute, second, micro, h⟩
  else none

/-- The fields, from the year down. -/
def fields (t : Timestamp) : List Int :=
  [t.date.year, t.date.month, t.date.day, t.hour, t.minute, t.second, t.micro]

/-- The order of time. -/
def compare (s t : Timestamp) : Ordering := Ord.compare s.fields t.fields

/-- The timestamp a number of minutes later, for less than a day in either direction. -/
def shiftMinutes (t : Timestamp) (minutes : Int) : Timestamp :=
  let total := (t.hour * 60 + t.minute : Nat) + minutes
  let ofDay := (total % 1440).toNat
  let date :=
    if total < 0 then t.date.previous else if 1440 ≤ total then t.date.next else t.date
  ⟨date, ofDay / 60, ofDay % 60, t.second, t.micro, by
    have := t.valid
    have hlt : ofDay < 1440 := by omega
    omega⟩

def midnight (date : Day) : Timestamp := ⟨date, 0, 0, 0, 0, by decide⟩

instance : Inhabited Timestamp := ⟨midnight ⟨1970, 1, 1, by decide⟩⟩

/-- The timestamp a number of microseconds after the start of 1970. -/
def ofEpochMicros (micros : Int) : Timestamp :=
  match Day.ofEpochDays (micros / 86400000000) with
  | none => default
  | some date =>
    let rest := (micros % 86400000000).toNat
    ⟨date, rest / 3600000000, rest / 60000000 % 60, rest / 1000000 % 60, rest % 1000000, by
      have hlt : rest < 86400000000 := by omega
      omega⟩

/-! ## Text -/

/-- The digits of a number, with zeros in front up to a width. -/
def padded (width n : Nat) : List Char :=
  let digits := Nat.toDigits 10 n
  List.replicate (width - digits.length) '0' ++ digits

/-- A year of four digits as it is; any other one with its sign and at least four digits. -/
def renderYear (year : Int) : List Char :=
  if 0 ≤ year ∧ year ≤ 9999 then padded 4 year.toNat
  else (if year < 0 then '-' else '+') :: padded 4 year.natAbs

/-- The fixed form `YYYY-MM-DDTHH:MM:SS.ffffffZ`. -/
def render (t : Timestamp) : List Char :=
  renderYear t.date.year ++ '-' :: padded 2 t.date.month ++ '-' :: padded 2 t.date.day ++
    'T' :: padded 2 t.hour ++ ':' :: padded 2 t.minute ++ ':' :: padded 2 t.second ++
    '.' :: padded 6 t.micro ++ ['Z']

def text (t : Timestamp) : String := String.ofList t.render

end Timestamp

end RecordStore
