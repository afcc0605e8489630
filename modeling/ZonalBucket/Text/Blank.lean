/-!
# White space

Two classes of characters are removed around text.  `isSpace` is the Unicode
property White_Space, which surrounds numerals.  `isBlank` adds the four
information separators, and is what is removed around a setting.

`trim` drops the characters of a class from both ends and from nowhere else.
-/

namespace ZonalBucket.Text

/-- Characters with the Unicode property White_Space. -/
def isSpace (c : Char) : Bool :=
  let n := c.toNat
  (9 ≤ n && n ≤ 13) || n == 0x20 || n == 0x85 || n == 0xA0 || n == 0x1680 ||
    (0x2000 ≤ n && n ≤ 0x200A) || n == 0x2028 || n == 0x2029 || n == 0x202F ||
    n == 0x205F || n == 0x3000

/-- White space, and the separators of files, groups, records and units. -/
def isBlank (c : Char) : Bool :=
  isSpace c || (0x1C ≤ c.toNat && c.toNat ≤ 0x1F)

/-- Removes the characters of a class from both ends. -/
def trim (drop : Char → Bool) (cs : List Char) : List Char :=
  ((cs.dropWhile drop).reverse.dropWhile drop).reverse

/-- A text without the blanks around it. -/
def strip (s : String) : String :=
  String.ofList (trim isBlank s.toList)

end ZonalBucket.Text
