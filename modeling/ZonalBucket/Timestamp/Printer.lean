import ZonalBucket.Timestamp.Basic

/-!
# Written time stamps

Two forms, which differ in the mark between date and time and in the offset.
`Timestamp.iso` is the form in documents: a `T` between date and time, `Z` for
universal time, and offsets in hours and minutes; an offset is taken to the nearest
second first.  `Timestamp.text` is the form in messages: a space, universal time as
`+00:00`, and the seconds and microseconds of an offset that has some.  Microseconds
stand in six digits when there are any, and a local time stamp has no offset.
-/

namespace ZonalBucket

/-- The last `width` decimal digits of a number. -/
def paddedDigits : Nat → Nat → List Char
  | 0, _ => []
  | width + 1, n => paddedDigits width (n / 10) ++ [Nat.digitChar (n % 10)]

/-- Year, month and day. -/
def Date.chars (d : Date) : List Char :=
  paddedDigits 4 d.year ++ '-' :: (paddedDigits 2 d.month ++ '-' :: paddedDigits 2 d.day)

/-- Microseconds behind a point, when there are any. -/
def microChars (micros : Nat) : List Char :=
  if micros = 0 then [] else '.' :: paddedDigits 6 micros

/-- Hour, minute, second and, when there are any, microseconds. -/
def Clock.chars (c : Clock) : List Char :=
  paddedDigits 2 c.hour ++ ':' :: (paddedDigits 2 c.minute ++ ':' ::
    (paddedDigits 2 c.second ++ microChars c.micro))

/-- The sign of a distance. -/
def signChar (distance : Int) : Char := if distance < 0 then '-' else '+'

/-- Hours and minutes of a number of minutes. -/
def hourChars (minutes : Nat) : List Char :=
  paddedDigits 2 (minutes / 60) ++ ':' :: paddedDigits 2 (minutes % 60)

/-- An offset in whole seconds, a half away from zero. -/
def Offset.nearestSeconds (o : Offset) : Int :=
  let size : Int := (o.micros.natAbs + 500000) / 1000000
  if o.micros < 0 then -size else size

/-- An offset in a document: `Z` for none, otherwise hours and minutes. -/
def Offset.isoChars (o : Offset) : List Char :=
  let seconds := o.nearestSeconds
  if seconds = 0 then ['Z'] else signChar seconds :: hourChars (seconds.natAbs / 60)

/-- An offset in a message, with its seconds and microseconds if it has some. -/
def Offset.textChars (o : Offset) : List Char :=
  let size := o.micros.natAbs
  let rest := size % 60000000
  signChar o.micros :: (hourChars (size / 60000000) ++ if rest = 0 then []
    else ':' :: (paddedDigits 2 (rest / 1000000) ++ microChars (rest % 1000000)))

/-- A span of time as it is shown by its parts: days, seconds and microseconds, each unless
it is zero, of which only the days may be negative. -/
def spanWords (micros : Int) : String :=
  let part (name : String) (n : Int) : List String := if n = 0 then [] else [s!"{name}={n}"]
  "datetime.timedelta(" ++
    ", ".intercalate (part "days" (micros / 86400000000) ++
      part "seconds" (micros % 86400000000 / 1000000) ++
      part "microseconds" (micros % 1000000)) ++ ")"

/-- The form of a time stamp in a document. -/
def Timestamp.isoChars (t : Timestamp) : List Char :=
  t.date.chars ++ 'T' :: (t.clock.chars ++ (t.offset.map Offset.isoChars).getD [])

/-- The form of a time stamp in a message. -/
def Timestamp.textChars (t : Timestamp) : List Char :=
  t.date.chars ++ ' ' :: (t.clock.chars ++ (t.offset.map Offset.textChars).getD [])

/-- The text of a time stamp in a document. -/
def Timestamp.iso (t : Timestamp) : String := String.ofList t.isoChars

/-- The text of a time stamp in a message. -/
def Timestamp.text (t : Timestamp) : String := String.ofList t.textChars

end ZonalBucket
