import ZonalBucket.Document
import ZonalBucket.Timestamp.Reader

/-!
# Fields of a model

A model is read from the fields of an object.  Each field is read on its own and
all issues are collected, in the order in which the model declares its fields;
an issue tells where it was found and what is wrong there.

Reading is lenient where the meaning is plain: a number may come as a text, a
truth value as a word or as zero or one, a time stamp as a number or as a text.
A text is never made from anything else.  A number with a fraction or an exponent is
taken for the nearest binary number, and becomes a whole number only while that fits
into sixty-four bits, `Field.narrow?`.
-/

namespace ZonalBucket

/-- What can be wrong with the value of a field. -/
inductive IssueKind where
  | missing
  | textType
  | intType
  | intParsing
  | intSize
  | intFromFloat
  | notFinite
  | boolType
  | boolParsing
  | modelType
  | timeType
  | timeRange
  | timeParsing
deriving DecidableEq, Repr

/-- The name under which an issue is reported. -/
def IssueKind.name : IssueKind → String
  | missing => "missing"
  | textType => "string_type"
  | intType => "int_type"
  | intParsing => "int_parsing"
  | intSize => "int_parsing_size"
  | intFromFloat => "int_from_float"
  | notFinite => "finite_number"
  | boolType => "bool_type"
  | boolParsing => "bool_parsing"
  | modelType => "model_type"
  | timeType => "datetime_type"
  | timeRange => "datetime_parsing"
  | timeParsing => "datetime_from_date_parsing"

/-- An issue and the names that lead to the field that has it. -/
structure Issue where
  path : List String
  kind : IssueKind
deriving DecidableEq, Repr

/-- A value that was read, or all issues found on the way. -/
abbrev Checked (α : Type) := Except (List Issue) α

namespace Checked

variable {α β : Type}

/-- One issue with the value at hand. -/
def fail (kind : IssueKind) : Checked α := .error [⟨[], kind⟩]

/-- The same reading as part of the field `name`. -/
def inside (name : String) : Checked α → Checked α
  | .ok a => .ok a
  | .error issues => .error (issues.map fun i => { i with path := name :: i.path })

/-- Reads one more field; the issues of both sides are kept. -/
def andField : Checked (α → β) → Checked α → Checked β
  | .ok f, .ok a => .ok (f a)
  | .ok _, .error later => .error later
  | .error earlier, .ok _ => .error earlier
  | .error earlier, .error later => .error (earlier ++ later)

end Checked

namespace Field

variable {α : Type}

/-- A text. -/
def text : Document → Checked String
  | .text s => .ok s
  | _ => .fail .textType

/-- A whole number in binary, if it lies strictly between the bounds of sixty-four bits. -/
def narrow? (x : Binary) : Option Int :=
  let n := x.trunc
  if -9223372036854775808 < n ∧ n < 9223372036854775808 then some n else none

/-- A whole number from one in binary. -/
def intOfBinary (x : Binary) : Checked Int :=
  if x.isWhole then
    match narrow? x with
    | some n => .ok n
    | none => .fail .intSize
  else .fail .intFromFloat

/-- A whole number from one with a fraction or an exponent. -/
def intOfFloat (x : Decimal) : Checked Int :=
  match x.toBinary? with
  | some x => intOfBinary x
  | none => .fail .notFinite

/-- A whole number from a text. -/
def intOfText (s : String) : Checked Int :=
  match Text.readField s with
  | .ok n => .ok n
  | .error .unreadable => .fail .intParsing
  | .error (.tooLong _) => .fail .intSize

/-- A whole number. -/
def int : Document → Checked Int
  | .int n => .ok n
  | .bool b => .ok (if b then 1 else 0)
  | .float x => intOfFloat x
  | .text s => intOfText s
  | _ => .fail .intType

/-- The words for a truth value, in any case. -/
def boolOfWord? (s : String) : Option Bool :=
  let word := s.toList.map Char.toLower
  if word ∈ ["true", "t", "yes", "y", "on", "1"].map String.toList then some true
  else if word ∈ ["false", "f", "no", "n", "off", "0"].map String.toList then some false
  else none

/-- A truth value from a number: zero or one. -/
def boolOfInt (n : Int) : Checked Bool :=
  if n = 0 then .ok false else if n = 1 then .ok true else .fail .boolParsing

/-- A truth value from a number with a fraction or an exponent. -/
def boolOfFloat (x : Decimal) : Checked Bool :=
  match x.toBinary? with
  | some x => match (if x.isWhole then narrow? x else none) with
    | some n => boolOfInt n
    | none => .fail .boolType
  | none => .fail .boolType

/-- A truth value. -/
def bool : Document → Checked Bool
  | .bool b => .ok b
  | .int n =>
    if -9223372036854775808 ≤ n ∧ n < 9223372036854775808 then boolOfInt n
    else .fail .boolType
  | .float x => boolOfFloat x
  | .text s => match boolOfWord? s with
    | some b => .ok b
    | none => .fail .boolParsing
  | _ => .fail .boolType

/-- A time stamp from a number, or the one issue that numbers have. -/
def timeOfNumber : Except TimeFault Timestamp → Checked Timestamp
  | .ok t => .ok t
  | .error _ => .fail .timeRange

/-- A time stamp from a number in binary, unless that is too large. -/
def timeOfBinary : Option Binary → Checked Timestamp
  | some x => timeOfNumber (Timestamp.ofBinary x)
  | none => .fail .timeRange

/-- A time stamp from a number with a fraction or an exponent. -/
def timeOfFloat (x : Decimal) : Checked Timestamp := timeOfBinary x.toBinary?

/-- A time stamp from a whole number; one that is too large for a binary number is none. -/
def timeOfInt (n : Int) : Checked Timestamp :=
  if (Binary.ofInt n).isFinite then timeOfNumber (Timestamp.ofCount n) else .fail .timeType

/-- A time stamp from a text.  A day in the year 0 is read like any other before it turns
out not to exist. -/
def timeOfText (s : String) : Checked Timestamp :=
  match Timestamp.read s with
  | .ok t => .ok t
  | .error .yearZero => .fail .timeRange
  | .error _ => .fail .timeParsing

/-- A time stamp. -/
def time : Document → Checked Timestamp
  | .time t => .ok t
  | .int n => timeOfInt n
  | .float x => timeOfFloat x
  | .text s => timeOfText s
  | _ => .fail .timeType

/-- An object, read by its fields. -/
def nested (read : Fields → Checked α) : Document → Checked α
  | .object fields => read fields
  | _ => .fail .modelType

/-- A field that must be there. -/
def required (name : String) (read : Document → Checked α) (fields : Fields) : Checked α :=
  match fields.lookup name with
  | some d => (read d).inside name
  | none => .error [⟨[name], .missing⟩]

/-- A field that may be missing, or be there without a value. -/
def optional (name : String) (read : Document → Checked α) (fields : Fields) :
    Checked (Option α) :=
  match fields.lookup name with
  | none => .ok none
  | some .null => .ok none
  | some d => Checked.inside name ((read d).map some)

/-- A field that has a value of its own when it is missing. -/
def withDefault (name : String) (value : α) (read : Document → Checked α) (fields : Fields) :
    Checked α :=
  match fields.lookup name with
  | some d => (read d).inside name
  | none => .ok value

end Field

end ZonalBucket
