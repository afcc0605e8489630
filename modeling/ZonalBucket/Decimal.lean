import ZonalBucket.Binary

/-!
# Decimal numbers

The numbers of a document that are written with a point or an exponent.  What is done
with such a number is done with the binary number nearest to it, `Decimal.toBinary?`.

`Decimal.text` is the shortest number that has the same nearest one: positional while
the leading digit stands between four places after the point and sixteen before it,
and with an exponent of at least two digits otherwise.
-/

namespace ZonalBucket

/-- The number `digits * 10 ^ exponent`, or its negative; zero keeps its sign. -/
structure Decimal where
  negative : Bool
  digits : Nat
  exponent : Int
deriving DecidableEq, Repr, Inhabited

namespace Decimal

/-- The same number with its trailing zeros moved into the exponent. -/
def dropZeros (digits : Nat) (exponent : Int) : Nat × Int :=
  if 0 < digits ∧ digits % 10 = 0 then dropZeros (digits / 10) (exponent + 1)
  else (digits, exponent)
termination_by digits
decreasing_by omega

/-- Digits with a point after the first `point` of them, filled up with zeros. -/
def positional (digits : List Char) (point : Int) : List Char :=
  if point ≤ 0 then '0' :: '.' :: (List.replicate (-point).toNat '0' ++ digits)
  else
    let whole := point.toNat
    if digits.length ≤ whole then
      digits ++ List.replicate (whole - digits.length) '0' ++ ['.', '0']
    else digits.take whole ++ '.' :: digits.drop whole

/-- An exponent with its sign and at least two digits. -/
def exponentText (e : Int) : List Char :=
  let digits := Nat.toDigits 10 e.natAbs
  (if e < 0 then '-' else '+') :: (if digits.length < 2 then '0' :: digits else digits)

/-- One digit before the point, then the exponent. -/
def scientific (digits : List Char) (point : Int) : List Char :=
  let rest := digits.drop 1
  digits.take 1 ++ (if rest = [] then [] else '.' :: rest) ++ 'e' :: exponentText (point - 1)

/-- A power of ten. -/
def tenTo (n : Nat) : Nat := Nat.pow 10 n

/-- A number of at most so many digits lies below that power of ten. -/
theorem lt_tenTo {n count : Nat} (hcount : 0 < count)
    (h : (Nat.toDigits 10 n).length ≤ count) : n < tenTo count :=
  (Nat.length_toDigits_le_iff (by decide) hcount).1 h

/-- The place of the leading digit, counted from the point to the left. -/
def leading (x : Decimal) : Int := (Nat.toDigits 10 x.digits).length + x.exponent

/-- The size of the number as a quotient.  The exponent is cut off where it makes the
number vanish or exceed every bound anyway. -/
def ratio (x : Decimal) : Nat × Nat :=
  if x.digits = 0 ∨ x.leading < -400 then (0, 1)
  else if 400 < x.leading then (tenTo 400, 1)
  else (x.digits * tenTo x.exponent.toNat, tenTo (-x.exponent).toNat)

/-- The binary number nearest to the number, unless it is too large. -/
def toBinary? (x : Decimal) : Option Binary :=
  let size := Binary.ofRatio x.ratio.1 x.ratio.2
  if size.isFinite then some (if x.negative then size.neg else size) else none

/-- Whether the number counts as zero, of either sign. -/
def isZero (x : Decimal) : Bool := x.toBinary?.any fun size => size.mantissa == 0

/-- A quotient times a power of ten. -/
def shifted (ratio : Nat × Nat) (e : Int) : Nat × Nat :=
  (ratio.1 * tenTo e.toNat, ratio.2 * tenTo (-e).toNat)

/-- How many digits a quotient has before the point; below one tenth there are fewer than
none. -/
def pointOf (ratio : Nat × Nat) : Int :=
  (Nat.toDigits 10 (ratio.1 * tenTo 400 / ratio.2)).length - 400

/-- The nearer one of two whole numbers that follow each other and that a quotient lies
between; halfway it is the even one. -/
def nearer (ratio : Nat × Nat) (below : Nat) : Nat :=
  let twice := 2 * ratio.1
  let middle := (2 * below + 1) * ratio.2
  if twice < middle ∨ (twice = middle ∧ below % 2 = 0) then below else below + 1

/-- The number of `count` digits that stands for a binary number, if there is one, as
digits and an exponent. -/
def ofLength? (x : Binary) (count : Nat) : Option (Nat × Int) :=
  let places : Int := count - pointOf x.ratio
  let scaled := shifted x.ratio places
  let below := scaled.1 / scaled.2
  let standsFor (n : Nat) : Bool :=
    let ratio := shifted (n, 1) (-places)
    (Binary.ofRatio ratio.1 ratio.2).equals x
  let candidates := [below, below + 1].filter standsFor
  match candidates with
  | [] => none
  | [n] => some (n, -places)
  | _ => some (nearer scaled below, -places)

/-- The most digits that are needed to tell binary numbers apart. -/
def mostDigits : Nat := 17

/-- The shortest number that stands for a binary number above zero. -/
def shortest (x : Binary) : Nat × Int :=
  ((List.range mostDigits).findSome? fun n => ofLength? x (n + 1)).getD (0, 0)

/-- The text of a number of digits. -/
def chars (digits : Nat) (exponent : Int) : List Char :=
  let (digits, exponent) := dropZeros digits exponent
  let shown := Nat.toDigits 10 digits
  let point := shown.length + exponent
  if digits = 0 then ['0', '.', '0']
  else if -3 ≤ point ∧ point ≤ 16 then positional shown point
  else scientific shown point

/-- The text of a binary number without its sign. -/
def binaryChars (x : Binary) : List Char :=
  if x.mantissa = 0 then chars 0 0
  else
    let (digits, exponent) := shortest x
    chars digits exponent

/-- The text of a number. -/
def text (x : Decimal) : String :=
  let body := (x.toBinary?.map binaryChars).getD ['i', 'n', 'f']
  String.ofList (if x.negative then '-' :: body else body)

end Decimal

end ZonalBucket
