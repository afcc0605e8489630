import ZonalBucket.Text.Quoted
import ZonalBucket.Timestamp.Printer
import ZonalBucket.Timestamp.Reader

/-!
# Standard time stamps

`Timestamp.ofIso` reads the standard form in which time stamps are handed over.

The date is a day of a month or a day of a week, with hyphens or without: without a
day, a week stands for its Monday.  Any character may separate date and time.  The
time may stop after the hour or the minute, its parts have colons between them or
nothing, and a fraction of the last part counts as microseconds.  The offset is `Z`,
or a sign and another time, and a byte before it that belongs to no part of the
time is passed over.  Behind a null character nothing counts.

A text in this form may still stand for no time stamp, `IsoFault`: of several faults
that of the offset counts first, then that of the date.
-/

namespace ZonalBucket

open Text (asciiDigit? ofDigits)

/-- How many days the years before a year have, from the year 1 on. -/
def daysBefore (year : Nat) : Int :=
  let full : Int := year - 1
  365 * full + full / 4 - full / 100 + full / 400

/-- The first of January 1970 as a day counted from the start of the year 1. -/
def epochDay : Int := 719162

/-- How many weeks a year has: fifty-three if it begins on a Thursday, or on a Wednesday
with a leap day to come. -/
def weeksIn (year : Nat) : Nat :=
  let first := daysBefore year % 7
  if first = 3 ∨ (first = 2 ∧ isLeap year) then 53 else 52

/-- The first day of the first week of a year, which is the week of its first Thursday. -/
def firstMonday (year : Nat) : Int :=
  let days := daysBefore year
  let first := days % 7
  if 3 < first then days - first + 7 else days - first

/-- Why a text is no standard time stamp. -/
inductive IsoFault where
  /-- It does not have the form of one. -/
  | unreadable (text : String)
  /-- The offset, in microseconds, is a day or more. -/
  | offset (micros : Int)
  | year (n : Nat)
  | month
  | day
  | hour
  | minute
  | second
deriving DecidableEq, Repr

/-- The message of a fault. -/
def IsoFault.message : IsoFault → String
  | unreadable text => "Invalid isoformat string: " ++ Text.quoted text
  | offset micros =>
    "offset must be a timedelta strictly between -timedelta(hours=24) and " ++
      "timedelta(hours=24), not " ++ spanWords micros ++ "."
  | year n => s!"year {n} is out of range"
  | month => "month must be in 1..12"
  | day => "day is out of range for month"
  | hour => "hour must be in 0..23"
  | minute => "minute must be in 0..59"
  | second => "second must be in 0..59"

/-- The day with these numbers, or the first of them that is wrong. -/
def Date.checked (year month day : Nat) : Except IsoFault Date :=
  match Date.of? year month day with
  | some date => .ok date
  | none =>
    if year = 0 then .error (.year year)
    else if month = 0 ∨ 12 < month then .error .month
    else .error .day

/-- The time of day of these parts, or the first of them that is wrong. -/
def Clock.checked (hour minute second micro : Nat) : Except IsoFault Clock :=
  match Clock.of? hour minute second micro with
  | some clock => .ok clock
  | none =>
    if 24 ≤ hour then .error .hour
    else if 60 ≤ minute then .error .minute
    else .error .second

/-- The offset of so many microseconds, unless there are too many. -/
def Offset.checked (micros : Int) : Except IsoFault Offset :=
  match Offset.of? micros with
  | some offset => .ok offset
  | none => .error (.offset micros)

/-- The day of a week with these numbers, if they can be those of a day.  The last week of
the year 9999 goes on after it, and no week of the year 0 has a month. -/
def Date.ofWeek? (year week day : Nat) : Option (Except IsoFault Date) :=
  if (1 ≤ week ∧ week ≤ weeksIn year) ∧ 1 ≤ day ∧ day ≤ 7 then
    let days := firstMonday year + 7 * ((week : Int) - 1) + ((day : Int) - 1) - epochDay
    some (if year = 0 then .error .month
      else match Date.ofDays? days with
        | some date => .ok date
        | none => .error (.year (year + 1)))
  else none

/-- Splits off a hyphen if parts are separated. -/
def hyphen? (separated : Bool) (cs : List Char) : Option (List Char) :=
  if separated then expect? '-' cs else some cs

/-- Reads week and day of a year. -/
def Date.readWeek? (separated : Bool) (year : Nat) (cs : List Char) :
    Option (Except IsoFault Date) := do
  let (week, cs) ← takeDigits? 2 cs
  if cs = [] then Date.ofWeek? year week 1
  else
    let cs ← hyphen? separated cs
    let (day, cs) ← takeDigits? 1 cs
    if cs = [] then Date.ofWeek? year week day else none

/-- Reads month and day of a year. -/
def Date.readMonth? (separated : Bool) (year : Nat) (cs : List Char) :
    Option (Except IsoFault Date) := do
  let (month, cs) ← takeDigits? 2 cs
  let cs ← hyphen? separated cs
  let (day, cs) ← takeDigits? 2 cs
  if cs = [] then some (Date.checked year month day) else none

/-- Reads a standard date. -/
def Date.readIso? (cs : List Char) : Option (Except IsoFault Date) := do
  let (year, cs) ← takeDigits? 4 cs
  let separated := cs.head? = some '-'
  match ← hyphen? separated cs with
  | 'W' :: cs => Date.readWeek? separated year cs
  | cs => Date.readMonth? separated year cs

/-- The length of the date in the standard form.  A week without hyphens takes in its day
if an odd number of digits shows that there is one. -/
def dateLength (cs : List Char) : Nat :=
  if cs.length = 7 then 7
  else match cs.drop 4 with
    | '-' :: 'W' :: rest => match rest.drop 2 with
      | '-' :: _ :: c :: _ => if c.isDigit then 8 else 10
      | '-' :: _ => 10
      | _ => 8
    | '-' :: _ => 10
    | 'W' :: rest =>
      let digits := ((rest.drop 2).takeWhile Char.isDigit).length
      if digits < 2 then 7 + digits else if digits % 2 = 1 then 7 else 8
    | _ => 8

/-- The parts of a time, and whether anything was left behind them. -/
structure ClockParts where
  hour : Nat
  minute : Nat := 0
  second : Nat := 0
  micro : Nat := 0
  left : Bool := false

/-- Whether a text goes on; it ends at a null character. -/
def goesOn : List Char → Bool
  | [] => false
  | c :: _ => c != '\x00'

/-- Reads the fraction of a time: up to six digits, and any number of digits after them. -/
def readMicros? (cs : List Char) : Option (Nat × Bool) :=
  ((cs.take 6).mapM asciiDigit?).map fun digits =>
    (fractionMicros digits, goesOn ((cs.drop 6).dropWhile Char.isDigit))

/-- What follows a part of a time. -/
inductive PartEnd where
  /-- Nothing, or one byte that is left. -/
  | stop (left : Bool)
  /-- Another part. -/
  | part (rest : List Char)
  /-- A fraction. -/
  | fraction (rest : List Char)

/-- Looks at what follows a part of a time, given whether there are colons. -/
def partEnd? (colons : Bool) : List Char → Option PartEnd
  | [] => some (.stop false)
  | [c] => some (.stop (goesOn [c]))
  | c :: rest =>
    if colons ∧ c = ':' then some (.part rest)
    else if isFractionMark c then some (.fraction rest)
    else if colons then none
    else some (.part (c :: rest))

/-- Reads the seconds of a time.  A fraction may follow them without a mark. -/
def readSecond? (colons : Bool) (hour minute : Nat) (cs : List Char) : Option ClockParts := do
  let (second, cs) ← takeDigits? 2 cs
  match ← partEnd? colons cs with
  | .stop left => return { hour := hour, minute := minute, second := second, left := left }
  | .part rest =>
    (readMicros? rest).map fun (micro, left) => ⟨hour, minute, second, micro, left⟩
  | .fraction rest =>
    (readMicros? rest).map fun (micro, left) => ⟨hour, minute, second, micro, left⟩

/-- Reads the minutes of a time and what follows them. -/
def readMinute? (colons : Bool) (hour : Nat) (cs : List Char) : Option ClockParts := do
  let (minute, cs) ← takeDigits? 2 cs
  match ← partEnd? colons cs with
  | .stop left => return { hour := hour, minute := minute, left := left }
  | .part rest => readSecond? colons hour minute rest
  | .fraction rest => (readMicros? rest).map fun (micro, left) => ⟨hour, minute, 0, micro, left⟩

/-- Reads the parts of a time.  Whether a colon follows the hour decides for all parts. -/
def ClockParts.read? (cs : List Char) : Option ClockParts := do
  let (hour, cs) ← takeDigits? 2 cs
  let colons := cs.head? = some ':'
  match ← partEnd? colons cs with
  | .stop left => return { hour := hour, left := left }
  | .part rest => readMinute? colons hour rest
  | .fraction rest => (readMicros? rest).map fun (micro, left) => ⟨hour, 0, 0, micro, left⟩

/-- The microseconds that the parts of a time make up; less than a second is none. -/
def ClockParts.distance (parts : ClockParts) : Int :=
  let seconds := parts.hour * 3600 + parts.minute * 60 + parts.second
  if seconds = 0 then 0 else seconds * 1000000 + parts.micro

/-- Reads a standard offset after its sign. -/
def Offset.readIso? (negative : Bool) (cs : List Char) : Option (Except IsoFault Offset) := do
  let parts ← ClockParts.read? cs
  if parts.left then none
  else some (Offset.checked (if negative then -parts.distance else parts.distance))

/-- Whether an offset begins with this character. -/
def isOffsetSign (c : Char) : Bool := c == '+' || c == '-' || c == 'Z'

/-- A standard time and its offset, as far as they could be read. -/
structure IsoTime where
  clock : Except IsoFault Clock
  offset : Except IsoFault (Option Offset)

/-- Reads a standard time and its offset. -/
def IsoTime.read? (cs : List Char) : Option IsoTime := do
  let parts ← ClockParts.read? (cs.takeWhile fun c => !isOffsetSign c)
  let clock := Clock.checked parts.hour parts.minute parts.second parts.micro
  match cs.dropWhile fun c => !isOffsetSign c with
  | [] => if parts.left then none else some ⟨clock, .ok none⟩
  | 'Z' :: rest => if goesOn rest then none else some ⟨clock, .ok (some Offset.universal)⟩
  | sign :: rest =>
    (Offset.readIso? (sign == '-') rest).map fun offset => ⟨clock, offset.map some⟩

/-- The bytes of a text, as characters. -/
def bytesOf (cs : List Char) : List Char :=
  (String.ofList cs).toUTF8.toList.map fun byte => Char.ofNat byte.toNat

/-- Reads date, time and offset. -/
def readIso? (cs : List Char) : Option (Except IsoFault Date × IsoTime) := do
  let length := dateLength (bytesOf cs)
  let date ← Date.readIso? (cs.take length)
  let time ← match cs.drop length with
    | [] => some ⟨.ok Clock.midnight, .ok none⟩
    | _ :: rest => IsoTime.read? (bytesOf rest)
  return (date, time)

/-- Reads a time stamp in standard form. -/
def Timestamp.ofIso (s : String) : Except IsoFault Timestamp :=
  match readIso? s.toList with
  | none => .error (.unreadable s)
  | some (date, time) => do
    let offset ← time.offset
    let date ← date
    let clock ← time.clock
    return ⟨date, clock, offset⟩

end ZonalBucket
