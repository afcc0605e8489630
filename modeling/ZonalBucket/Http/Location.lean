/-!
# Locations

The address to which a client is sent when a path fits a route only without the
slashes at its end, or only with one more.  In an address every byte that is not
kept as it is becomes a percent sign and two hexadecimal digits.
-/

namespace ZonalBucket.Http.Location

/-- Where the library is reached. -/
def host : List Char := "http://testserver".toList

/-- The marks that a query keeps besides letters and digits. -/
def queryMarks : List Char := "_.-~:/%#?=@[]!$&'()*+,;".toList

/-- The marks that a path keeps: those of a query without the two that would end it. -/
def pathMarks : List Char := queryMarks.filter fun c => c != '#' && c != '?'

/-- Whether a character stands for itself. -/
def keeps (marks : List Char) (c : Char) : Bool := c.isAlphanum || marks.contains c

/-- A digit of a percent code. -/
def hexDigit (n : Nat) : Char := (Nat.digitChar n).toUpper

/-- A byte as a percent code. -/
def percentCode (b : UInt8) : List Char := ['%', hexDigit (b.toNat / 16), hexDigit (b.toNat % 16)]

/-- A character in an address. -/
def encodeChar (marks : List Char) (c : Char) : List Char :=
  if keeps marks c then [c] else (String.utf8EncodeChar c).flatMap percentCode

/-- A text in an address. -/
def encode (marks : List Char) (cs : List Char) : List Char := cs.flatMap (encodeChar marks)

/-- The address of a path, with a query unless that is empty. -/
def address (path : List Char) (query : String) : String :=
  String.ofList (host ++ encode pathMarks path ++
    if query = "" then [] else '?' :: encode queryMarks query.toList)

/-- A row without the slashes at its end. -/
def dropSlashes (cs : List Char) : List Char := (cs.reverse.dropWhile (· == '/')).reverse

/-- The path to try instead of one that fits no route. -/
def alternative (path : List Char) : List Char :=
  if path.getLast? = some '/' then dropSlashes path else path ++ ['/']

end ZonalBucket.Http.Location
