import ZonalBucket.Log.Level
import ZonalBucket.Text.Figure

/-!
# Forms of fields

How the value of a field is written at its place in a log line.  A text can be written
as it is, or in quotes, and cut off after a number of characters.  A number can be
written in one of several bases or as a measured quantity, with a sign and a mark for
its base.  Either way there is a least width, and what is missing is filled up with
spaces before it or behind it, or with zeros between the sign and the digits.

A value that cannot be written in a form, such as a text as a number, has no text in
it, `Form.write`.  Of some values only the beginning is known; they can be written when
no more than that is wanted.
-/

namespace ZonalBucket.Log

/-- What a value is written as. -/
inductive Conversion where
  | text
  | quoted
  | ascii
  | decimal
  | octal
  | hex (upper : Bool)
  | fixed (upper : Bool)
  | exponential (upper : Bool)
  | general (upper : Bool)
  | character
deriving DecidableEq, Repr

/-- The letters of the conversions. -/
def Conversion.letters : List (Char × Conversion) := [
  ('s', .text), ('r', .quoted), ('a', .ascii), ('d', .decimal), ('i', .decimal),
  ('u', .decimal), ('o', .octal), ('x', .hex false), ('X', .hex true), ('f', .fixed false),
  ('F', .fixed true), ('e', .exponential false), ('E', .exponential true), ('g', .general false),
  ('G', .general true), ('c', .character)]

/-- The value of a field. -/
inductive FieldValue where
  | text (s : String)
  /-- A word that needs no quotes. -/
  | word (s : String)
  /-- A whole number, and how it is shown as a text. -/
  | number (n : Int) (shown : String)
  /-- A number with a fraction or an exponent. -/
  | quantity (x : Decimal)
  /-- A text or a word of which only the beginning is known. -/
  | opening (s : String)
deriving DecidableEq, Repr

/-- A document as the value of a field. -/
def FieldValue.ofDocument : Document → FieldValue
  | .text s => text s
  | .int n => number n (toString n)
  | .bool b => number (if b then 1 else 0) (Document.boolText b)
  | .float x => quantity x
  | d => word d.shownInside

/-- A level as the value of a field. -/
def FieldValue.ofLevel (level : Level) : FieldValue := number level.rank level.toDocument.shown

/-- How a value is written. -/
structure Form where
  /-- Fill up behind the value. -/
  leftAligned : Bool := false
  /-- Fill up numbers with zeros. -/
  zeroFilled : Bool := false
  /-- Write a plus sign. -/
  signed : Bool := false
  /-- Leave room for a plus sign. -/
  spaced : Bool := false
  /-- Write the base of a number, or all of its digits. -/
  marked : Bool := false
  width : Nat := 0
  precision : Option Nat := none
  conversion : Conversion := .text
deriving DecidableEq, Repr

/-- A value that is ready to be filled up. -/
structure Piece where
  sign : List Char := []
  mark : List Char := []
  body : List Char
  isNumber : Bool := false
deriving DecidableEq, Repr

namespace Form

/-- A value as a text of its own. -/
def plain : Form := {}

/-- A text as far as it is wanted. -/
def cut (form : Form) (s : String) : Piece where
  body := match form.precision with
    | some n => s.toList.take n
    | none => s.toList

/-- The sign of a number. -/
def signOf (form : Form) (n : Int) : List Char :=
  if n < 0 then ['-'] else if form.signed then ['+'] else if form.spaced then [' '] else []

/-- A number in digits of some base, of which there are at least as many as wanted. -/
def inBase (form : Form) (base : Nat) (mark : String) (n : Int) : Piece where
  sign := form.signOf n
  mark := if form.marked then mark.toList else []
  body := Text.filled (form.precision.getD 1) (Nat.toDigits base n.natAbs)
  isNumber := true

/-- How many places a measured quantity has when none are asked for. -/
def usualPlaces : Nat := 6

/-- The digits of a measured quantity, if the form is one for them. -/
def digitsOf? (form : Form) : Option (Nat → Nat × Nat → List Char) :=
  match form.conversion with
  | .fixed _ => some (Text.Figure.fixed form.marked)
  | .exponential upper => some (Text.Figure.exponential upper form.marked)
  | .general upper => some (Text.Figure.general upper form.marked)
  | _ => none

/-- Whether the letters of a measured quantity are capitals. -/
def isUpper (form : Form) : Bool :=
  match form.conversion with
  | .fixed upper => upper
  | .exponential upper => upper
  | .general upper => upper
  | _ => false

/-- The sign of a measured quantity. -/
def measuredSign (form : Form) (negative : Bool) : List Char :=
  form.signOf (if negative then -1 else 0)

/-- A measured quantity by its sign and its size. -/
def measured (form : Form) (negative : Bool) (ratio : Nat × Nat) : Option Piece :=
  form.digitsOf?.map fun digits => {
    sign := form.measuredSign negative
    body := digits (form.precision.getD usualPlaces) ratio
    isNumber := true }

/-- A measured quantity beyond all bounds. -/
def unbounded (form : Form) (negative : Bool) : Option Piece :=
  form.digitsOf?.map fun _ => {
    sign := form.measuredSign negative
    body := (if form.isUpper then "INF" else "inf").toList
    isNumber := true }

/-- The character with a number. -/
def character (n : Int) : Option Piece :=
  if 0 ≤ n ∧ n.toNat.isValidChar then some { body := [Char.ofNat n.toNat] } else none

/-- A whole number in digits. -/
def decimal (form : Form) (n : Int) : Piece := { form.inBase 10 "" n with mark := [] }

/-- A whole number in a form for numbers; one that is too large cannot be measured. -/
def whole (form : Form) (n : Int) : Option Piece :=
  match form.conversion with
  | .decimal => some (form.decimal n)
  | .octal => some (form.inBase 8 "0o" n)
  | .hex false => some (form.inBase 16 "0x" n)
  | .hex true =>
    let piece := form.inBase 16 "0X" n
    some { piece with body := piece.body.map Char.toUpper }
  | .character => character n
  | _ =>
    let nearest := Binary.ofInt n
    if nearest.isFinite then form.measured (n < 0) nearest.ratio else none

/-- A number with a fraction in a form for numbers. -/
def fractional (form : Form) (x : Decimal) : Option Piece :=
  match form.conversion, x.toBinary? with
  | .decimal, some size => some (form.decimal size.trunc)
  | _, some size => form.measured x.negative size.ratio
  | _, none => form.unbounded x.negative

/-- What is done with a value to make a text of it, if the form is one for texts: first
with a text, then with anything else. -/
def textual? (form : Form) : Option ((String → String) × (String → String)) :=
  match form.conversion with
  | .text => some (id, id)
  | .quoted => some (Text.quoted, id)
  | .ascii => some (fun s => Text.asciiOnly (Text.quoted s), Text.asciiOnly)
  | _ => none

/-- A text of which only the beginning is known, if that is all that is wanted. -/
def cutOpening (form : Form) (s : String) : Option Piece :=
  match form.precision with
  | some n => if n ≤ s.length then some (form.cut s) else none
  | none => none

/-- A value in a form for texts, before it is filled up. -/
def textPiece (form : Form) (ofText ofOther : String → String) : FieldValue → Option Piece
  | .text s => some (form.cut (ofText s))
  | .word s => some (form.cut (ofOther s))
  | .number _ shown => some (form.cut shown)
  | .quantity x => some (form.cut x.text)
  | .opening s => form.cutOpening (ofOther s)

/-- A value in a form for numbers or characters, before it is filled up. -/
def numberPiece (form : Form) : FieldValue → Option Piece
  | .number n _ => form.whole n
  | .quantity x => form.fractional x
  | .text s =>
    if form.conversion = .character ∧ s.length = 1 then some { body := s.toList } else none
  | _ => none

/-- A value in a form, before it is filled up. -/
def piece (form : Form) (value : FieldValue) : Option Piece :=
  match form.textual? with
  | some (ofText, ofOther) => form.textPiece ofText ofOther value
  | none => form.numberPiece value

/-- A value filled up to the least width. -/
def fill (form : Form) (p : Piece) : List Char :=
  let missing := form.width - (p.sign.length + p.mark.length + p.body.length)
  if form.leftAligned then p.sign ++ p.mark ++ p.body ++ List.replicate missing ' '
  else if form.zeroFilled ∧ p.isNumber then
    p.sign ++ p.mark ++ List.replicate missing '0' ++ p.body
  else List.replicate missing ' ' ++ p.sign ++ p.mark ++ p.body

/-- A value as it is written in a form. -/
def write (form : Form) (value : FieldValue) : Option String :=
  (form.piece value).map fun p => String.ofList (form.fill p)

/-- A text of its own is written as it is. -/
theorem write_plain (s : String) : plain.write (.text s) = some s := by
  simp [write, plain, piece, textual?, textPiece, cut, fill]

end Form

end ZonalBucket.Log
