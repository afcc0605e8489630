import ZonalBucket.Text.Blank

/-!
# Numerals

Whole numbers are written as decimal digits, with a minus sign when negative.
They are read more freely, in two ways.

`readWhole` reads the offset in a page token: the digits of every script, single
underscores between them, a sign in front and white space around.

`readField` reads the field of a document: ASCII digits only, but leading zeros,
underscores and a decimal point that only zeros follow are taken away first, and
what is left must be a plain numeral, `plain?`.

Neither reads a numeral of too many digits: a field may have `longest` of them, and
how many an offset may have is for the caller to say.  The first reader inverts the
writer, `readWhole_toString`.
-/

namespace ZonalBucket.Text

/-- The value of an ASCII decimal digit. -/
def asciiDigit? (c : Char) : Option Nat :=
  if '0'.toNat ≤ c.toNat ∧ c.toNat ≤ '9'.toNat then some (c.toNat - '0'.toNat) else none

/-- The zeros of the decimal digits of every script, in Unicode 14; the nine
other digits follow each of them. -/
def digitZeros : List Nat := [
  0x30, 0x660, 0x6F0, 0x7C0, 0x966, 0x9E6, 0xA66, 0xAE6, 0xB66, 0xBE6, 0xC66, 0xCE6, 0xD66,
  0xDE6, 0xE50, 0xED0, 0xF20, 0x1040, 0x1090, 0x17E0, 0x1810, 0x1946, 0x19D0, 0x1A80, 0x1A90,
  0x1B50, 0x1BB0, 0x1C40, 0x1C50, 0xA620, 0xA8D0, 0xA900, 0xA9D0, 0xA9F0, 0xAA50, 0xABF0, 0xFF10,
  0x104A0, 0x10D30, 0x11066, 0x110F0, 0x11136, 0x111D0, 0x112F0, 0x11450, 0x114D0, 0x11650,
  0x116C0, 0x11730, 0x118E0, 0x11950, 0x11C50, 0x11D50, 0x11DA0, 0x16A60, 0x16AC0, 0x16B50,
  0x1D7CE, 0x1D7D8, 0x1D7E2, 0x1D7EC, 0x1D7F6, 0x1E140, 0x1E2F0, 0x1E950, 0x1FBF0]

/-- The value of a decimal digit of any script. -/
def anyDigit? (c : Char) : Option Nat :=
  (digitZeros.find? fun first => first ≤ c.toNat && c.toNat ≤ first + 9).map (c.toNat - ·)

/-- The digits of a numeral whose digits may be grouped by single underscores. -/
def groupedDigits? (digit? : Char → Option Nat) : List Char → Option (List Nat)
  | [] => none
  | [c] => (digit? c).map ([·])
  | c :: '_' :: rest =>
    (digit? c).bind fun d => (groupedDigits? digit? rest).map (d :: ·)
  | c :: rest =>
    (digit? c).bind fun d => (groupedDigits? digit? rest).map (d :: ·)

/-- The number that a row of decimal digits stands for. -/
def ofDigits (digits : List Nat) : Nat :=
  digits.foldl (fun value digit => 10 * value + digit) 0

/-- How many digits a numeral may have wherever it stands. -/
def longest : Nat := 4300

/-- Why a text is not read as a whole number. -/
inductive NumeralFault where
  /-- It is no numeral. -/
  | unreadable
  /-- It has more digits than are read. -/
  | tooLong (digits : Nat)
deriving DecidableEq, Repr

/-- A number after its sign: a minus sign, a plus sign or none. -/
def signed (read : List Char → Except NumeralFault Nat) : List Char → Except NumeralFault Int
  | '-' :: rest => (read rest).map fun (n : Nat) => -(n : Int)
  | '+' :: rest => (read rest).map fun (n : Nat) => (n : Int)
  | cs => (read cs).map fun (n : Nat) => (n : Int)

/-- Whether a character can be part of a numeral in the digits of any script. -/
def isNumeralPart (c : Char) : Bool := c == '_' || (anyDigit? c).isSome

/-- Reads at most so many digits of a numeral, with white space behind them.  That they
are too many shows before what stands behind them is looked at. -/
def unsignedWhole (most : Nat) (cs : List Char) : Except NumeralFault Nat :=
  match groupedDigits? anyDigit? (cs.takeWhile isNumeralPart) with
  | none => .error .unreadable
  | some digits =>
    if most < digits.length then .error (.tooLong digits.length)
    else if (cs.dropWhile isNumeralPart).all isSpace then .ok (ofDigits digits)
    else .error .unreadable

/-- Reads a whole number of at most so many digits of any script. -/
def readWhole (most : Nat) (s : String) : Except NumeralFault Int :=
  signed (unsignedWhole most) (s.toList.dropWhile isSpace)

/-- The digits that follow an optional minus sign. -/
def leadingDigits : List Char → List Char
  | '-' :: rest => rest.takeWhile Char.isDigit
  | cs => cs.takeWhile Char.isDigit

/-- Whether a numeral without leading zeros goes on beyond the longest one. -/
def isOverlong (cs : List Char) : Bool :=
  let digits := leadingDigits cs
  digits.head? != some '0' && longest < digits.length

/-- Reads digits of which the first is a zero only when it is alone. -/
def plainDigits? (cs : List Char) : Option Nat :=
  if cs ≠ [] ∧ cs.all Char.isDigit ∧ (cs.head? = some '0' → cs = ['0']) then
    some (ofDigits (cs.map fun c => c.toNat - '0'.toNat))
  else none

/-- Reads a plain numeral: an optional minus sign, and digits without leading zeros. -/
def plain? (cs : List Char) : Option Int :=
  if isOverlong cs then none
  else match cs with
    | '-' :: rest => (plainDigits? rest).map fun n => -(n : Int)
    | cs => (plainDigits? cs).map fun n => (n : Int)

/-- Whether a numeral can begin with this character once its leading zeros are gone. -/
def isNumeralStart (c : Char) : Bool := c == '-' || (c != '0' && c.isDigit)

/-- What remains behind a zero, or an underscore behind a zero, without the zeros and
underscores that follow it.  The last one of them stays when nothing or a point is next. -/
def afterZeros? (last : Char) : List Char → Option (List Char)
  | [] => some [last]
  | c :: rest =>
    if c = '0' ∨ c = '_' then afterZeros? c rest
    else if isNumeralStart c then some (c :: rest)
    else if c = '.' then some (last :: c :: rest)
    else none

/-- An unsigned numeral without its leading zeros. -/
def dropLeading? : List Char → Option (List Char)
  | [] => none
  | c :: rest =>
    if c = '0' then afterZeros? c rest
    else if isNumeralStart c then some (c :: rest) else none

/-- A numeral without its leading zeros, before or behind a minus sign. -/
def dropZeros? : List Char → Option (List Char)
  | '-' :: rest => (dropLeading? rest).map fun digits => '-' :: digits
  | cs => dropLeading? cs

/-- A numeral without the plus sign in front of it, which no minus sign may follow. -/
def dropPlus? : List Char → Option (List Char)
  | '+' :: '-' :: _ => none
  | '+' :: rest => some rest
  | cs => some cs

/-- A numeral without a decimal point that zeros, and only zeros, follow. -/
def dropFraction (cs : List Char) : List Char :=
  let fraction := (cs.dropWhile (· != '.')).drop 1
  if fraction ≠ [] ∧ fraction.all (· == '0') then cs.takeWhile (· != '.') else cs

/-- Whether underscores stand only between other characters, and one at a time. -/
def isGrouped : List Char → Bool
  | [] => true
  | ['_'] => false
  | '_' :: '_' :: _ => false
  | _ :: rest => isGrouped rest

/-- A numeral without the underscores that group its digits. -/
def dropGroups (cs : List Char) : List Char :=
  if isGrouped cs ∧ cs.head? ≠ some '_' then cs.filter (· != '_') else cs

/-- A numeral in plain form. -/
def plainForm? (cs : List Char) : Option (List Char) :=
  ((dropPlus? (trim isSpace cs)).bind dropZeros?).map fun rest => dropGroups (dropFraction rest)

/-- Reads a whole number in ASCII digits. -/
def readField (s : String) : Except NumeralFault Int :=
  if isOverlong s.toList then .error (.tooLong (leadingDigits s.toList).length)
  else match (plainForm? s.toList).bind plain? with
    | some n => .ok n
    | none => .error .unreadable

/-- The digits stand one behind the other in the table of characters. -/
theorem toNat_of_isDigit {c : Char} (h : c.isDigit = true) :
    48 ≤ c.toNat ∧ c.toNat ≤ 57 := by
  simp only [Char.isDigit, Bool.and_eq_true, decide_eq_true_eq] at h
  exact ⟨h.1, h.2⟩

/-- An ASCII digit is no white space.  So nothing is stripped from a number that has
just been written. -/
theorem isSpace_eq_false_of_isDigit {c : Char} (h : c.isDigit = true) : isSpace c = false := by
  have := toNat_of_isDigit h
  simp only [isSpace, Bool.or_eq_false_iff, Bool.and_eq_false_iff, decide_eq_false_iff_not,
    beq_eq_false_iff_ne]
  omega

/-- On ASCII digits the table of all scripts gives the usual value. -/
theorem anyDigit?_of_isDigit {c : Char} (h : c.isDigit = true) :
    anyDigit? c = some (c.toNat - 48) := by
  have h' := toNat_of_isDigit h
  have : digitZeros.find? (fun first => first ≤ c.toNat && c.toNat ≤ first + 9) = some 48 := by
    rw [digitZeros, List.find?_cons_of_pos]
    simpa using h'
  simp [anyDigit?, this]

theorem asciiDigit?_of_isDigit {c : Char} (h : c.isDigit = true) :
    asciiDigit? c = some (c.toNat - 48) := by
  have h' := toNat_of_isDigit h
  simp [asciiDigit?, h']

/-- A plain row of digits is a numeral without groups. -/
theorem groupedDigits?_of_isDigit {digit? : Char → Option Nat}
    (hd : ∀ c : Char, c.isDigit = true → digit? c = some (c.toNat - 48))
    {cs : List Char} (hne : cs ≠ []) (h : ∀ c ∈ cs, c.isDigit = true) :
    groupedDigits? digit? cs = some (cs.map (·.toNat - 48)) := by
  fun_induction groupedDigits? digit? cs with
  | case1 => simp at hne
  | case2 c => simp [hd c (h c (by simp))]
  | case3 c rest ih => exact absurd (h '_' (by simp)) (by decide)
  | case4 c rest hrest _ ih =>
    have hr : rest ≠ [] := by simpa using hrest
    rw [hd c (h c (by simp)), ih hr (fun d hd => h d (by simp [hd]))]
    rfl

/-- The value of a row of ASCII digits, digit by digit or as a whole. -/
theorem ofDigits_map (cs : List Char) :
    ofDigits (cs.map (·.toNat - 48)) = Nat.ofDigitChars 10 cs 0 := by
  simp [ofDigits, Nat.ofDigitChars, List.foldl_map]

/-- A row of digits is part of a numeral to its end. -/
theorem isNumeralPart_of_isDigit {c : Char} (h : c.isDigit = true) : isNumeralPart c = true := by
  simp [isNumeralPart, anyDigit?_of_isDigit h]

/-- What reading a written number gives: the number, unless it has too many digits. -/
def reread {α : Type} (most magnitude : Nat) (value : α) : Except NumeralFault α :=
  let length := (Nat.toDigits 10 magnitude).length
  if most < length then .error (.tooLong length) else .ok value

/-- A number that was written is read back from its digits, unless these are too many.
There is neither a group nor a blank in them. -/
theorem unsignedWhole_toDigits (most n : Nat) :
    unsignedWhole most (Nat.toDigits 10 n) = reread most n n := by
  have digits : ∀ c ∈ Nat.toDigits 10 n, c.isDigit = true := fun c hc =>
    Nat.isDigit_of_mem_toDigits (by decide) (by decide) hc
  have parts : ∀ c ∈ Nat.toDigits 10 n, isNumeralPart c = true := fun c hc =>
    isNumeralPart_of_isDigit (digits c hc)
  -- Behind the digits there is nothing, so that the numeral is the whole text.
  have htake := @List.takeWhile_append_of_pos _ _ _ [] parts
  have hdrop := @List.dropWhile_append_of_pos _ _ _ [] parts
  rw [List.append_nil, List.takeWhile_nil, List.append_nil] at htake
  rw [List.append_nil, List.dropWhile_nil] at hdrop
  rw [unsignedWhole, htake, hdrop, groupedDigits?_of_isDigit (fun c => anyDigit?_of_isDigit)
    Nat.toDigits_ne_nil digits]
  simp [reread, ofDigits_map]

/-- What is made of a number that was read back is read back in its stead. -/
theorem map_reread {α β : Type} (most magnitude : Nat) (value : α) (f : α → β) :
    (reread most magnitude value).map f = reread most magnitude (f value) := by
  simp only [reread]
  split <;> rfl

/-- Reading a written whole number gives it back, unless it is too long. -/
theorem readWhole_toString (most : Nat) (n : Int) :
    readWhole most (toString n) = reread most n.natAbs n := by
  have digits (m : Nat) : ∀ c ∈ Nat.toDigits 10 m, c.isDigit = true := fun c hc =>
    Nat.isDigit_of_mem_toDigits (by decide) (by decide) hc
  -- A sign is looked for first, so that the first digit must not be taken for one.
  have start (m : Nat) : ∃ c rest, Nat.toDigits 10 m = c :: rest ∧ c.isDigit = true := by
    cases hm : Nat.toDigits 10 m with
    | nil => exact absurd hm Nat.toDigits_ne_nil
    | cons c rest => exact ⟨c, rest, rfl, digits m c (by simp [hm])⟩
  cases n with
  | ofNat m =>
    obtain ⟨c, rest, hm, hc⟩ := start m
    have hread : unsignedWhole most (c :: rest) = reread most m m :=
      hm ▸ unsignedWhole_toDigits most m
    have hspace : isSpace c = false := isSpace_eq_false_of_isDigit hc
    have hs : signed (unsignedWhole most) (c :: rest) = reread most m (m : Int) := by
      rw [signed.eq_def]
      split
      · rename_i heq
        cases heq
        exact absurd hc (by decide)
      · rename_i heq
        cases heq
        exact absurd hc (by decide)
      · rw [hread, map_reread]
    simp only [readWhole, Int.toString_eq_repr, Int.repr, Nat.toList_repr, hm,
      List.dropWhile_cons, hspace, Bool.false_eq_true, if_false, hs]
    rfl
  | negSucc m =>
    have hl : ("-" ++ Nat.repr (m + 1)).toList = '-' :: Nat.toDigits 10 (m + 1) := by
      simp [String.toList_append]
    have hspace : isSpace '-' = false := by decide
    simp only [readWhole, Int.toString_eq_repr, Int.repr, Nat.succ_eq_add_one, hl,
      List.dropWhile_cons, hspace, Bool.false_eq_true, if_false, signed,
      unsignedWhole_toDigits, map_reread]
    rfl

end ZonalBucket.Text
