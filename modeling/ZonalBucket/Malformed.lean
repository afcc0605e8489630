import ZonalBucket.Document
import ZonalBucket.Text.Numeral

/-!
# Documents of the wrong shape

An answer of the store is taken apart by name and item by item.  When a value is
not of the kind that a step needs, the step ends with one of these causes, and
the message names the kind that was found.
-/

namespace ZonalBucket

/-- Why a document could not be taken apart. -/
inductive Malformed where
  /-- A field was asked for, but the value is no object. -/
  | noFields (found : Document)
  /-- Items were asked for, but the value has none. -/
  | noItems (found : Document)
  /-- A field was searched for, but the value holds nothing. -/
  | noContent (found : Document)
  /-- The field of an item was asked for, but the item is no object. -/
  | noEntries (found : Document)
  /-- An object lacks a field that is needed. -/
  | missingEntry (name : String)
  /-- The text of a page token is no whole number. -/
  | tokenText (token : String)
  /-- The text of a page token has too many digits. -/
  | tokenLength (digits : Nat)
  /-- A page token is no number at all. -/
  | tokenKind (found : Document)
  /-- A page token is too large for a number. -/
  | tokenInfinite
  /-- The next page token would have too many digits. -/
  | tokenGrowth
  /-- An argument of a fault has the name that stands for the fault itself. -/
  | reservedArgument (owner name : String)

/-- How much of a page token a message shows. -/
def shownLength : Nat := 200

/-- The message of a cause. -/
def Malformed.message : Malformed → String
  | noFields found => s!"'{found.kindName}' object has no attribute 'get'"
  | noItems found => s!"'{found.kindName}' object is not iterable"
  | noContent found => s!"argument of type '{found.kindName}' is not iterable"
  | noEntries (.list _) => "list indices must be integers or slices, not str"
  | noEntries (.text _) => "string indices must be integers, not 'str'"
  | noEntries found => s!"'{found.kindName}' object is not subscriptable"
  | missingEntry name => Text.quoted name
  | tokenText token => "invalid literal for int() with base 10: " ++
      String.ofList ((Text.quoted token).toList.take shownLength)
  | tokenLength digits =>
    s!"Exceeds the limit ({Text.longest} digits) for integer string conversion: value has " ++
      s!"{digits} digits; use sys.set_int_max_str_digits() to increase the limit"
  | tokenInfinite => "cannot convert float infinity to integer"
  | tokenGrowth =>
    s!"Exceeds the limit ({Text.longest} digits) for integer string conversion; " ++
      "use sys.set_int_max_str_digits() to increase the limit"
  | reservedArgument owner name =>
    s!"{owner}.__init__() got multiple values for argument '{name}'"
  | tokenKind found =>
    "int() argument must be a string, a bytes-like object or a real number, not " ++
      s!"'{found.kindName}'"

namespace Document

/-- The fields of an object. -/
def needFields (d : Document) : Except Malformed Fields :=
  match d with
  | object fields => .ok fields
  | found => .error (.noFields found)

/-- The items of a list; an object has its names as items and a text its characters. -/
def needItems (d : Document) : Except Malformed (List Document) :=
  match d with
  | list items => .ok items
  | object fields => .ok (fields.map fun field => .text field.1)
  | text s => .ok (s.toList.map fun c => .text (String.singleton c))
  | found => .error (.noItems found)

/-- One field of an item. -/
def needEntry (name : String) (d : Document) : Except Malformed Document :=
  match d with
  | object fields => match fields.lookup name with
    | some value => .ok value
    | none => .error (.missingEntry name)
  | found => .error (.noEntries found)

end Document

end ZonalBucket
