import ZonalBucket.Text.Quoted
import ZonalBucket.Timestamp.Printer

/-!
# Documents

The values that the store's answers, scripted answers and models are made of:
nothing, truth values, whole and decimal numbers, texts, time stamps, lists and
objects.  An object keeps its fields in order and is looked up by name.

`Document.shown` is how a value appears inside a message: a text stands as it is,
and in quotes only when it is part of a list or an object.  `Document.isTruthy`
is what the program means by a value being given: neither nothing nor false nor
zero nor empty.
-/

namespace ZonalBucket

/-- A value of the document format. -/
inductive Document where
  | null
  | bool (b : Bool)
  | int (n : Int)
  | float (x : Decimal)
  | text (s : String)
  | time (t : Timestamp)
  | list (items : List Document)
  | object (fields : List (String × Document))
deriving Inhabited

/-- The fields of an object, in order. -/
abbrev Fields := List (String × Document)

namespace Document

/-- The name of a value's kind in messages about values of the wrong kind. -/
def kindName : Document → String
  | null => "NoneType"
  | bool _ => "bool"
  | int _ => "int"
  | float _ => "float"
  | text _ => "str"
  | time _ => "datetime.datetime"
  | list _ => "list"
  | object _ => "dict"

/-- Whether a value counts as given. -/
def isTruthy : Document → Bool
  | null => false
  | bool b => b
  | int n => n != 0
  | float x => !x.isZero
  | text s => s != ""
  | time _ => true
  | list items => !items.isEmpty
  | object fields => !fields.isEmpty

/-- Whether a value is this text. -/
def isText (word : String) : Document → Bool
  | text s => s == word
  | _ => false

/-- A truth value in a message. -/
def boolText (b : Bool) : String := if b then "True" else "False"

/-- The offset of a time stamp that stands inside a list or an object. -/
def offsetWords (o : Offset) : String :=
  if o.micros = 0 then "datetime.timezone.utc"
  else "datetime.timezone(" ++ spanWords o.micros ++ ")"

/-- A time stamp that stands inside a list or an object: its numbers, without the
seconds and microseconds that are zero, and its offset. -/
def timeWords (t : Timestamp) : String :=
  let tail :=
    if t.clock.micro ≠ 0 then [t.clock.second, t.clock.micro]
    else if t.clock.second ≠ 0 then [t.clock.second] else []
  let numbers := [t.date.year, t.date.month, t.date.day, t.clock.hour, t.clock.minute] ++ tail
  let offset := match t.offset with
    | none => []
    | some o => ["tzinfo=" ++ offsetWords o]
  "datetime.datetime(" ++ ", ".intercalate (numbers.map toString ++ offset) ++ ")"

mutual

/-- A value as part of a list or an object. -/
def shownInside : Document → String
  | null => "None"
  | bool b => boolText b
  | int n => toString n
  | float x => x.text
  | text s => Text.quoted s
  | time t => timeWords t
  | list items => "[" ++ ", ".intercalate (itemWords items) ++ "]"
  | object fields => "\x7b" ++ ", ".intercalate (fieldWords fields) ++ "\x7d"

/-- The items of a list. -/
def itemWords : List Document → List String
  | [] => []
  | d :: ds => shownInside d :: itemWords ds

/-- The fields of an object, each with its name. -/
def fieldWords : List (String × Document) → List String
  | [] => []
  | (name, d) :: ds => (Text.quoted name ++ ": " ++ shownInside d) :: fieldWords ds

end

/-- A value in a message. -/
def shown : Document → String
  | text s => s
  | time t => t.text
  | d => shownInside d

end Document

end ZonalBucket
