import ZonalBucket.Decimal

/-!
# Time stamps

A date of the years 1 to 9999, a time of day to the microsecond, and, unless the
time stamp is a local one, the offset from universal time, less than a day either
way.  The ranges are part of the types, so every value has a written form.

`Timestamp.ofMicros` counts from the first moment of 1970 in universal time.  Such
counts reach from the year 0 to the year 9999, but no time stamp lies in the year 0,
and `TimeFault` tells the two ways of missing a time stamp apart.
-/

namespace ZonalBucket

/-- Whether a year has a twenty-ninth of February. -/
def isLeap (year : Nat) : Bool :=
  year % 4 == 0 && (year % 100 != 0 || year % 400 == 0)

/-- The length of a month. -/
def daysIn (year month : Nat) : Nat :=
  if month = 2 then if isLeap year then 29 else 28
  else if month = 4 ∨ month = 6 ∨ month = 9 ∨ month = 11 then 30
  else 31

/-- A day of the calendar. -/
structure Date where
  year : Nat
  month : Nat
  day : Nat
  valid : (1 ≤ year ∧ year ≤ 9999) ∧ (1 ≤ month ∧ month ≤ 12) ∧
    1 ≤ day ∧ day ≤ daysIn year month
deriving DecidableEq

/-- A time of day. -/
structure Clock where
  hour : Nat
  minute : Nat
  second : Nat
  micro : Nat
  valid : hour < 24 ∧ minute < 60 ∧ second < 60 ∧ micro < 1000000
deriving DecidableEq

/-- A distance from universal time in microseconds, positive to the east. -/
structure Offset where
  micros : Int
  valid : -86400000000 < micros ∧ micros < 86400000000
deriving DecidableEq

/-- A date and time, local when it has no offset. -/
structure Timestamp where
  date : Date
  clock : Clock
  offset : Option Offset
deriving DecidableEq

/-- Why a value stands for no time stamp. -/
inductive TimeFault where
  /-- It tells of no time at all. -/
  | unreadable
  /-- It lies before the year 0 or after the year 9999. -/
  | outOfRange
  /-- It lies in the year 0. -/
  | yearZero
deriving DecidableEq, Repr

/-- The day with these numbers, if the calendar has it. -/
def Date.of? (year month day : Nat) : Option Date :=
  if h : (1 ≤ year ∧ year ≤ 9999) ∧ (1 ≤ month ∧ month ≤ 12) ∧
      1 ≤ day ∧ day ≤ daysIn year month then
    some ⟨year, month, day, h⟩
  else none

/-- The time of day with these numbers, if there is one. -/
def Clock.of? (hour minute second micro : Nat) : Option Clock :=
  if h : hour < 24 ∧ minute < 60 ∧ second < 60 ∧ micro < 1000000 then
    some ⟨hour, minute, second, micro, h⟩
  else none

/-- The offset of so many microseconds, if it is less than a day. -/
def Offset.of? (micros : Int) : Option Offset :=
  if h : -86400000000 < micros ∧ micros < 86400000000 then some ⟨micros, h⟩ else none

/-- Midnight. -/
def Clock.midnight : Clock := ⟨0, 0, 0, 0, by decide⟩

/-- Universal time. -/
def Offset.universal : Offset := ⟨0, by decide⟩

/-- The day that lies so many days after the first of January 1970.  The count is
made from the first of March of the year 0, in eras of four hundred years, so that
a leap day ends its year. -/
def Date.ofDays? (days : Int) : Option Date :=
  let shifted := days + 719468
  let era := shifted / 146097
  let dayOfEra := shifted - era * 146097
  let yearOfEra := (dayOfEra - dayOfEra / 1460 + dayOfEra / 36524 - dayOfEra / 146096) / 365
  let dayOfYear := dayOfEra - (365 * yearOfEra + yearOfEra / 4 - yearOfEra / 100)
  let monthFromMarch := (5 * dayOfYear + 2) / 153
  let day := dayOfYear - (153 * monthFromMarch + 2) / 5 + 1
  let month := if monthFromMarch < 10 then monthFromMarch + 3 else monthFromMarch - 9
  let year := yearOfEra + era * 400 + (if month ≤ 2 then 1 else 0)
  Date.of? year.toNat month.toNat day.toNat

/-- The first of January of the year 0, in microseconds from the start of 1970. -/
def firstMicro : Int := -62167219200000000

/-- The end of the year 9999, in microseconds from the start of 1970. -/
def endMicro : Int := 253402300800000000

/-- The time stamp of a day and a time. -/
def Timestamp.dated (date : Option Date) (clock : Clock) (offset : Option Offset) :
    Except TimeFault Timestamp :=
  match date with
  | some date => .ok ⟨date, clock, offset⟩
  | none => .error .yearZero

/-- The time of day so many microseconds after midnight; a whole day is midnight again. -/
def Clock.ofMicros (micros : Int) : Clock :=
  let rest := (micros % 86400000000).toNat
  ⟨rest / 3600000000, rest / 60000000 % 60, rest / 1000000 % 60, rest % 1000000, by omega⟩

/-- The moment so many microseconds after the start of 1970, in universal time. -/
def Timestamp.ofMicros (micros : Int) : Except TimeFault Timestamp :=
  if firstMicro ≤ micros ∧ micros < endMicro then
    Timestamp.dated (Date.ofDays? (micros / 86400000000)) (Clock.ofMicros micros)
      (some Offset.universal)
  else .error .outOfRange

/-- The largest count of seconds; a larger one counts milliseconds, on both sides of the
start of 1970. -/
def mostSeconds : Nat := 20000000000

/-- The moment that a whole count since the start of 1970 stands for. -/
def Timestamp.ofCount (n : Int) : Except TimeFault Timestamp :=
  Timestamp.ofMicros (n * if n.natAbs ≤ mostSeconds then 1000000 else 1000)

/-- The moment that a count with a fraction stands for.  The fraction is what the whole
count below leaves, and is rounded to microseconds. -/
def Timestamp.ofBinary (x : Binary) : Except TimeFault Timestamp :=
  let unit := if x.within mostSeconds then 1000000 else 1000
  Timestamp.ofMicros (x.floor * unit + (x.fraction.scale unit).round)

end ZonalBucket
