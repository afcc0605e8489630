import ZonalBucket.Text.Visible

/-!
# Quoted text

The form in which a text is shown inside a message: between single quotes, or
between double quotes when it holds a single quote and no double one.  The
quote in use and the backslash are preceded by a backslash, line feed, tab and
carriage return have letters, and characters without a visible form are shown
by their code point in two, four or eight hexadecimal digits.

`asciiOnly` also shows all other characters beyond ASCII by their code point.
-/

namespace ZonalBucket.Text

/-- The last `width` hexadecimal digits of a number, in lower case. -/
def hexDigits : Nat → Nat → List Char
  | 0, _ => []
  | width + 1, n => hexDigits width (n / 16) ++ [Nat.digitChar (n % 16)]

/-- A character by its code point. -/
def escape (c : Char) : List Char :=
  if c.toNat < 0x100 then '\\' :: 'x' :: hexDigits 2 c.toNat
  else if c.toNat < 0x10000 then '\\' :: 'u' :: hexDigits 4 c.toNat
  else '\\' :: 'U' :: hexDigits 8 c.toNat

/-- One character as it stands between the quotes `quote`. -/
def quotedChar (quote c : Char) : List Char :=
  if c = quote ∨ c = '\\' then ['\\', c]
  else if c = '\n' then ['\\', 'n']
  else if c = '\t' then ['\\', 't']
  else if c = '\r' then ['\\', 'r']
  else if isVisible c then [c]
  else escape c

/-- The quote that surrounds a text: the single one unless only the double one
spares an escape. -/
def quoteFor (cs : List Char) : Char :=
  if '\'' ∈ cs ∧ '"' ∉ cs then '"' else '\''

/-- A text in quotes. -/
def quoted (s : String) : String :=
  let cs := s.toList
  let quote := quoteFor cs
  String.ofList (quote :: (cs.flatMap (quotedChar quote) ++ [quote]))

/-- A text with all characters beyond ASCII by their code point. -/
def asciiOnly (s : String) : String :=
  String.ofList (s.toList.flatMap fun c => if c.toNat < 128 then [c] else escape c)

end ZonalBucket.Text
