import ZonalBucket.Log.Record
import ZonalBucket.Text.Numeral
import ZonalBucket.Text.Word

/-!
# Layouts of log lines

A layout says how a record is written: characters that stand as they are, and
places for the fields of the record.  It is written with a directive for each place,
such as `%(message)s`: the name of a field in parentheses, flags, a width, a precision
after a point, and the letter of a conversion.  Two percent signs stand for one.

A text without any directive is no layout, `Layout.hasDirective`.  A directive that names
no field or cannot be read leaves a place that cannot be filled, and then there is no
line at all.  The first directive may name nothing, and stands for the whole record.

`Layout.plain` is the message alone, and `Layout.standard` puts the name of the
level in front of it.
-/

namespace ZonalBucket

open Log

/-- The fields of a record. -/
inductive RecordField where
  | levelName
  | levelNumber
  | sourceName
  | message
  /-- The message before arguments are put into it, of which there are none. -/
  | template
  | arguments
  /-- What goes with a record of a failure; it is not kept in a line. -/
  | failure
  | failureText
  | stack
  | threadName
  | processName
  /-- A field whose value is not known. -/
  | unknown (name : String)
deriving DecidableEq, Repr

namespace RecordField

/-- The name of a field in a directive. -/
def name : RecordField → String
  | levelName => "levelname"
  | levelNumber => "levelno"
  | sourceName => "name"
  | message => "message"
  | template => "msg"
  | arguments => "args"
  | failure => "exc_info"
  | failureText => "exc_text"
  | stack => "stack_info"
  | threadName => "threadName"
  | processName => "processName"
  | unknown name => name

/-- The names of the fields that tell of the machine and the moment. -/
def unknownNames : List String :=
  ["pathname", "filename", "module", "lineno", "funcName", "created", "msecs", "relativeCreated",
    "thread", "process", "asctime"]

/-- All fields. -/
def all : List RecordField :=
  [levelName, levelNumber, sourceName, message, template, arguments, failure, failureText, stack,
    threadName, processName] ++ unknownNames.map unknown

/-- The field with this name. -/
def ofName? (name : String) : Option RecordField := all.find? fun field => field.name == name

/-- The value of a field of a record. -/
def value (record : Record) : RecordField → FieldValue
  | levelName => .text record.level.name
  | levelNumber => .ofLevel record.level
  | sourceName => .text record.source.name
  | message => .text record.message
  | template => record.given.getD (.text record.message)
  | arguments => .word "()"
  | failure => .word "None"
  | failureText => .word "None"
  | stack => .word "None"
  | threadName => .text "MainThread"
  | processName => .text "MainProcess"
  | unknown _ => .opening ""

/-- A value among others. -/
def shownInside : FieldValue → String
  | .text s => Text.quoted s
  | .word s => s
  | .number _ shown => shown
  | .quantity x => x.text
  | .opening s => s

/-- The record as a whole, up to its first field that is not known. -/
def whole (record : Record) : FieldValue :=
  let part (field : RecordField) : String :=
    Text.quoted field.name ++ ": " ++ shownInside (field.value record)
  .opening ("\x7b" ++ ", ".intercalate ([sourceName, template, arguments, levelName,
    levelNumber].map part) ++ ", 'pathname': '")

end RecordField

/-- One part of a layout. -/
inductive LayoutPart where
  | char (c : Char)
  | field (field : RecordField) (form : Form)
  /-- The whole record. -/
  | whole (form : Form)
  /-- A place that cannot be filled. -/
  | broken
deriving DecidableEq, Repr

/-- The parts of a line. -/
abbrev Layout := List LayoutPart

/-- A part filled in from a record. -/
def LayoutPart.fill (record : Record) : LayoutPart → Option String
  | char c => some (String.singleton c)
  | field f form => form.write (f.value record)
  | whole form => form.write (RecordField.whole record)
  | broken => none

/-- Why a value is no layout. -/
inductive LayoutFault where
  /-- There is no directive in a text. -/
  | noDirective (text : String)
  /-- A value of this kind is no text. -/
  | noText (kind : String)
deriving DecidableEq, Repr

/-- The message of a fault. -/
def LayoutFault.message : LayoutFault → String
  | noDirective text => "Invalid format '" ++ text ++ "' for '%' style"
  | noText kind => s!"expected string or bytes-like object, got '{kind}'"

namespace Layout

/-- Whether a character is a flag. -/
def isFlag (c : Char) : Bool := "#0+ -".toList.contains c

/-- Text without a number in the digits of any script, or without a star in its place. -/
def skipNumber : List Char → List Char
  | '*' :: cs => cs
  | cs => cs.dropWhile fun c => (Text.anyDigit? c).isSome

/-- Text without a point and the number that must follow it. -/
def skipPrecision : List Char → List Char
  | '.' :: cs => if skipNumber cs = cs then '.' :: cs else skipNumber cs
  | cs => cs

/-- Letters of other scripts that count as another case of `i` or `s`. -/
def otherCases : List Char := ['\u0130', '\u0131', '\u017F']

/-- Whether a text begins with the letter of a conversion, in any case. -/
def beginsWithLetter : List Char → Bool
  | [] => false
  | c :: _ => "diouxefgcrsa%".toList.contains c.toLower || otherCases.contains c

/-- Whether a text goes on like a directive behind the name of its field. -/
def endsDirective (cs : List Char) : Bool :=
  beginsWithLetter (skipPrecision (skipNumber (cs.dropWhile isFlag)))

/-- Whether a text begins with a directive. -/
def beginsDirective : List Char → Bool
  | '%' :: '(' :: cs =>
    let named := cs.takeWhile Text.isWordPart ≠ []
    match cs.dropWhile Text.isWordPart with
    | ')' :: rest => named && endsDirective rest
    | _ => false
  | _ => false

/-- Whether there is a directive in a text. -/
def hasDirective : List Char → Bool
  | [] => false
  | c :: cs => beginsDirective (c :: cs) || hasDirective cs

/-- The name up to the parenthesis that closes it, and the text behind it. -/
def splitName : Nat → List Char → Option (List Char × List Char)
  | _, [] => none
  | 0, ')' :: cs => some ([], cs)
  | depth + 1, ')' :: cs => (splitName depth cs).map fun (name, rest) => (')' :: name, rest)
  | depth, '(' :: cs => (splitName (depth + 1) cs).map fun (name, rest) => ('(' :: name, rest)
  | depth, c :: cs => (splitName depth cs).map fun (name, rest) => (c :: name, rest)

/-- Reads flags. -/
def readFlags (form : Form) : List Char → Form × List Char
  | '-' :: cs => readFlags { form with leftAligned := true } cs
  | '0' :: cs => readFlags { form with zeroFilled := true } cs
  | '+' :: cs => readFlags { form with signed := true } cs
  | ' ' :: cs => readFlags { form with spaced := true } cs
  | '#' :: cs => readFlags { form with marked := true } cs
  | cs => (form, cs)

/-- The number that a text begins with; without one it is zero. -/
def readNumber (cs : List Char) : Nat × List Char :=
  (Nat.ofDigitChars 10 (cs.takeWhile Char.isDigit) 0, cs.dropWhile Char.isDigit)

/-- Reads a precision. -/
def readPrecision : List Char → Option Nat × List Char
  | '.' :: cs =>
    let (n, rest) := readNumber cs
    (some n, rest)
  | cs => (none, cs)

/-- Text without a letter for the size of a number, which means nothing. -/
def skipSize : List Char → List Char
  | 'h' :: cs => cs
  | 'l' :: cs => cs
  | 'L' :: cs => cs
  | cs => cs

/-- The largest width or precision. -/
def largest : Nat := 2147483647

/-- Reads a form up to its letter. -/
def readForm (cs : List Char) : Option (Form × Char × List Char) :=
  let (form, cs) := readFlags {} cs
  let (width, cs) := readNumber cs
  let (precision, cs) := readPrecision cs
  if largest < width ∨ largest < precision.getD 0 then none
  else match skipSize cs with
    | [] => none
    | c :: rest => some ({ form with width := width, precision := precision }, c, rest)

/-- A place to be filled in a form with this letter. -/
def placeWith (form : Form) (letter : Char) (place : Form → LayoutPart) : LayoutPart :=
  match Conversion.letters.lookup letter with
  | some conversion => place { form with conversion := conversion }
  | none => .broken

/-- A place for the field with a name. -/
def placeFor (name : List Char) (form : Form) (letter : Char) : LayoutPart :=
  match RecordField.ofName? (String.ofList name) with
  | some field => placeWith form letter (.field field)
  | none => .broken

/-- Reads a directive from behind its percent sign on. -/
def readDirective : List Char → Option (LayoutPart × List Char)
  | '%' :: cs => some (.char '%', cs)
  | '(' :: cs => do
    let (name, rest) ← splitName 0 cs
    let (form, letter, rest) ← readForm rest
    return (placeFor name form letter, rest)
  | cs => do
    let (form, letter, rest) ← readForm cs
    return (placeWith form letter .whole, rest)

/-- What a directive stands for: the whole record only when it is the first one. -/
def admitted (first : Bool) : LayoutPart → LayoutPart
  | .whole form => if first then .whole form else .broken
  | part => part

/-- Whether a part is a character. -/
def isChar : LayoutPart → Bool
  | .char _ => true
  | _ => false

/-- Reads at most `count` parts; `first` tells whether there was no directive so far. -/
def readParts (first : Bool) : Nat → List Char → Layout
  | 0, _ => []
  | _, [] => []
  | count + 1, '%' :: cs => match readDirective cs with
    | some (part, rest) => admitted first part :: readParts (first && isChar part) count rest
    | none => [.broken]
  | count + 1, c :: cs => .char c :: readParts first count cs

/-- The message alone. -/
def plain : Layout := [.field .message .plain]

/-- The name of the level, a colon, and the message. -/
def standard : Layout :=
  [.field .levelName .plain, .char ':', .char ' ', .field .message .plain]

/-- Reads a layout; of a value that counts as nothing the message stands alone. -/
def ofDocument (d : Document) : Except LayoutFault Layout :=
  if d.isTruthy then
    match d with
    | .text s =>
      if hasDirective s.toList then .ok (readParts true s.length s.toList)
      else .error (.noDirective s)
    | found => .error (.noText found.kindName)
  else .ok plain

/-- The flags of a form. -/
def flagsText (form : Form) : String :=
  (if form.leftAligned then "-" else "") ++ (if form.zeroFilled then "0" else "") ++
    (if form.signed then "+" else "") ++ (if form.spaced then " " else "") ++
    (if form.marked then "#" else "")

/-- The letter of a conversion. -/
def letterOf (conversion : Conversion) : String :=
  ((Conversion.letters.find? fun entry => entry.2 == conversion).map fun entry =>
    String.singleton entry.1).getD ""

/-- A form as it is written in a directive. -/
def formText (form : Form) : String :=
  flagsText form ++ (if form.width = 0 then "" else toString form.width) ++
    (form.precision.map fun n => "." ++ toString n).getD "" ++ letterOf form.conversion

/-- A part as it is written in a layout. -/
def partText : LayoutPart → String
  | .char c => if c = '%' then "%%" else String.singleton c
  | .field f form => "%(" ++ f.name ++ ")" ++ formText form
  | .whole form => "%" ++ formText form
  | .broken => "%"

/-- A layout as it is written. -/
def text (layout : Layout) : String := String.join (layout.map partText)

/-- The line for a record, with its end, if all places can be filled. -/
def line (layout : Layout) (record : Record) : Option String :=
  (layout.mapM (LayoutPart.fill record)).map fun texts => String.join texts ++ "\n"

/-- A field of the standard layout, filled in with the name of the level.  It never
fails, since every level has a name. -/
theorem fill_levelName (record : Record) :
    LayoutPart.fill record (.field .levelName .plain) = some record.level.name :=
  Form.write_plain _

theorem fill_message (record : Record) :
    LayoutPart.fill record (.field .message .plain) = some record.message :=
  Form.write_plain _

/-- The line of a message alone, which is what a handler writes that was given no
layout. -/
theorem line_plain (record : Record) : line plain record = some (record.message ++ "\n") := by
  simp [line, plain, fill_message, String.join]

/-- The line in the standard layout: the level by its name, and then the message.  It
is what every handler writes once the log is set up. -/
theorem line_standard (record : Record) :
    line standard record = some (record.level.name ++ ": " ++ record.message ++ "\n") := by
  have hc (c : Char) : LayoutPart.fill record (.char c) = some (String.singleton c) := rfl
  simp only [line, standard, List.mapM_cons, List.mapM_nil, fill_levelName, fill_message, hc]
  refine congrArg some (String.toList_inj.1 ?_)
  simp [String.join]

end Layout

end ZonalBucket
