import ZonalBucket.Text.Numeral
import ZonalBucket.Timestamp.Basic

/-!
# Reading time stamps

`Timestamp.read` accepts what a field may hold: a number of seconds or milliseconds
since the start of 1970, a date alone, which is its midnight, or a date and a time
with one of four marks between them.  The time may lack its seconds and may have a
fraction, of which six digits count; the offset is `Z`, or a sign with hours and
minutes.  Nothing may stand before or behind.

A number is whole, or it has a point, and then it may have an exponent too and is
taken for the nearest binary number.
-/

namespace ZonalBucket

open Text (asciiDigit? ofDigits)

/-- Splits off exactly `width` decimal digits and gives their value. -/
def takeDigits? : Nat → List Char → Option (Nat × List Char)
  | width, cs =>
    ((cs.take width).mapM asciiDigit?).bind fun digits =>
      if digits.length = width then some (ofDigits digits, cs.drop width) else none

/-- Splits off one given character. -/
def expect? (mark : Char) : List Char → Option (List Char)
  | [] => none
  | c :: rest => if c = mark then some rest else none

/-- Splits off year, month and day.  The year may be 0, and a leap year then. -/
def splitDay? (cs : List Char) : Option ((Nat × Nat × Nat) × List Char) := do
  let (year, cs) ← takeDigits? 4 cs
  let cs ← expect? '-' cs
  let (month, cs) ← takeDigits? 2 cs
  let cs ← expect? '-' cs
  let (day, cs) ← takeDigits? 2 cs
  if 1 ≤ month ∧ month ≤ 12 ∧ 1 ≤ day ∧ day ≤ daysIn year month then
    some ((year, month, day), cs)
  else none

/-- The microseconds that the digits of a fraction stand for; those after the sixth
do not count. -/
def fractionMicros (digits : List Nat) : Nat :=
  ofDigits ((digits ++ List.replicate 6 0).take 6)

/-- Whether a character separates seconds from their fraction. -/
def isFractionMark (c : Char) : Bool := c == '.' || c == ','

/-- Splits off a fraction, which is a mark and at least one digit; without a mark there
is none. -/
def splitFraction? : List Char → Option (Nat × List Char)
  | [] => some (0, [])
  | c :: rest =>
    if isFractionMark c then
      let digits := (rest.takeWhile Char.isDigit).filterMap asciiDigit?
      if digits = [] then none else some (fractionMicros digits, rest.dropWhile Char.isDigit)
    else some (0, c :: rest)

/-- Splits off the seconds of a time, with their fraction; they may be missing. -/
def splitSeconds? : List Char → Option ((Nat × Nat) × List Char)
  | ':' :: rest => do
    let (second, rest) ← takeDigits? 2 rest
    let (micro, rest) ← splitFraction? rest
    return ((second, micro), rest)
  | cs => some ((0, 0), cs)

/-- Splits off a time of day. -/
def Clock.split? (cs : List Char) : Option (Clock × List Char) := do
  let (hour, cs) ← takeDigits? 2 cs
  let cs ← expect? ':' cs
  let (minute, cs) ← takeDigits? 2 cs
  let ((second, micro), cs) ← splitSeconds? cs
  let clock ← Clock.of? hour minute second micro
  return (clock, cs)

/-- Reads hours and minutes, with or without a colon between them, as microseconds. -/
def hoursMinutes? (cs : List Char) : Option Int := do
  let (hours, cs) ← takeDigits? 2 cs
  let (minutes, cs) ← takeDigits? 2 (match cs with | ':' :: rest => rest | rest => rest)
  if cs = [] ∧ minutes < 60 then some ((hours * 60 + minutes) * 60000000) else none

/-- Reads what follows the time: nothing, a `Z` of either case, or an offset, whose minus
sign may be a hyphen or the sign of its own. -/
def Offset.read? : List Char → Option (Option Offset)
  | [] => some none
  | ['Z'] => some (some Offset.universal)
  | ['z'] => some (some Offset.universal)
  | '+' :: rest => (hoursMinutes? rest).bind fun m => (Offset.of? m).map some
  | '-' :: rest => (hoursMinutes? rest).bind fun m => (Offset.of? (-m)).map some
  | '\u2212' :: rest => (hoursMinutes? rest).bind fun m => (Offset.of? (-m)).map some
  | _ => none

/-- Whether a character may stand between date and time. -/
def isDateMark (c : Char) : Bool :=
  c == 'T' || c == 't' || c == ' ' || c == '_'

/-- Reads what follows a date: nothing, or a mark, a time and an offset. -/
def readTime? : List Char → Option (Clock × Option Offset)
  | [] => some (Clock.midnight, none)
  | mark :: rest => do
    let (clock, rest) ← if isDateMark mark then Clock.split? rest else none
    let offset ← Offset.read? rest
    return (clock, offset)

/-- Reads a date, or a date and a time. -/
def Timestamp.ofCalendar (cs : List Char) : Except TimeFault Timestamp :=
  match splitDay? cs with
  | none => .error .unreadable
  | some ((year, month, day), rest) => match readTime? rest with
    | none => .error .unreadable
    | some (clock, offset) => Timestamp.dated (Date.of? year month day) clock offset

/-- Reads an exponent, which is a letter, an optional sign and digits; it may be missing. -/
def exponent? : List Char → Option Int
  | [] => some 0
  | mark :: rest =>
    let negative := rest.head? = some '-'
    let digits := if negative ∨ rest.head? = some '+' then rest.drop 1 else rest
    if (mark = 'e' ∨ mark = 'E') ∧ digits ≠ [] ∧ digits.all Char.isDigit then
      let size : Int := ofDigits (digits.filterMap asciiDigit?)
      some (if negative then -size else size)
    else none

/-- The largest whole part that a number with a point may have. -/
def mostWhole : Nat := 9223372036854775807

/-- Reads the moment that a count with a point stands for, given its digits before the
point and what follows the point.  One side of the point needs a digit. -/
def Timestamp.ofPointed (negative : Bool) (whole rest : List Char) :
    Except TimeFault Timestamp :=
  let places := rest.takeWhile Char.isDigit
  match exponent? (rest.dropWhile Char.isDigit) with
  | none => .error .unreadable
  | some e =>
    let digits := (whole ++ places).filterMap asciiDigit?
    if digits = [] ∨ mostWhole < ofDigits (whole.filterMap asciiDigit?) then .error .unreadable
    else match Decimal.toBinary? ⟨negative, ofDigits digits, e - places.length⟩ with
      | none => .error .outOfRange
      | some x => Timestamp.ofBinary x

/-- Reads the moment that a count stands for, after its sign. -/
def Timestamp.ofUnsigned (negative : Bool) (cs : List Char) : Except TimeFault Timestamp :=
  let whole := cs.takeWhile Char.isDigit
  match cs.dropWhile Char.isDigit with
  | [] =>
    if whole = [] then .error .unreadable
    else
      let size : Int := ofDigits (whole.filterMap asciiDigit?)
      Timestamp.ofCount (if negative then -size else size)
  | '.' :: rest => Timestamp.ofPointed negative whole rest
  | _ => .error .unreadable

/-- Reads the moment that a count stands for. -/
def Timestamp.ofNumeral : List Char → Except TimeFault Timestamp
  | '-' :: rest => Timestamp.ofUnsigned true rest
  | '+' :: rest => Timestamp.ofUnsigned false rest
  | cs => Timestamp.ofUnsigned false cs

/-- Reads the time stamps that a field may hold: what is no numeral must be a date. -/
def Timestamp.readChars (cs : List Char) : Except TimeFault Timestamp :=
  match Timestamp.ofNumeral cs with
  | .error .unreadable => Timestamp.ofCalendar cs
  | outcome => outcome

/-- Reads the time stamps that a field may hold. -/
def Timestamp.read (s : String) : Except TimeFault Timestamp := Timestamp.readChars s.toList

end ZonalBucket
