import ZonalBucket.Decimal

/-!
# Figures

How the size of a number is written in decimal digits, of which only some are wanted.
The size is a quotient; `significant` gives its first digits, rounded to the nearest,
and a half to the even digit.

`Figure.fixed` writes all digits before the point and some behind it,
`Figure.exponential` one digit before the point and an exponent, and `Figure.general`
takes whichever of both fits the number of digits that are wanted, without zeros at
the end.
-/

namespace ZonalBucket.Text

/-- The first `count` digits of a quotient and the exponent of the first of them. -/
def significant (count : Nat) (ratio : Nat × Nat) : List Char × Int :=
  if ratio.1 = 0 then (List.replicate count '0', 0)
  else
    let point := Decimal.pointOf ratio
    let scaled := Decimal.shifted ratio (count - point)
    let digits := Nat.toDigits 10 (divNearest scaled.1 scaled.2)
    (digits.take count, point - 1 + (digits.length - count))

/-- Digits with at least `least` of them. -/
def filled (least : Nat) (digits : List Char) : List Char :=
  List.replicate (least - digits.length) '0' ++ digits

namespace Figure

/-- Digits with a point between them, which is left out when nothing follows it unless it
is asked for. -/
def pointed (keepPoint : Bool) (whole fraction : List Char) : List Char :=
  if fraction = [] ∧ !keepPoint then whole else whole ++ '.' :: fraction

/-- All digits before the point, and `places` of them behind it. -/
def fixed (keepPoint : Bool) (places : Nat) (ratio : Nat × Nat) : List Char :=
  let digits := filled (places + 1)
    (Nat.toDigits 10 (divNearest (ratio.1 * Decimal.tenTo places) ratio.2))
  let before := digits.length - places
  pointed keepPoint (digits.take before) (digits.drop before)

/-- An exponent behind its letter. -/
def exponent (upper : Bool) (e : Int) : List Char :=
  (if upper then 'E' else 'e') :: Decimal.exponentText e

/-- One digit before the point, then the exponent. -/
def exponential (upper keepPoint : Bool) (places : Nat) (ratio : Nat × Nat) : List Char :=
  let (digits, e) := significant (places + 1) ratio
  pointed keepPoint (digits.take 1) (digits.drop 1) ++ exponent upper e

/-- Digits without the zeros at their end. -/
def dropZeros (digits : List Char) : List Char :=
  (digits.reverse.dropWhile (· == '0')).reverse

/-- The first digits of a number; with an exponent if the number has more of them before
the point, or four zeros behind it.  Zeros at the end stay only if all digits are asked
for. -/
def general (upper allDigits : Bool) (count : Nat) (ratio : Nat × Nat) : List Char :=
  let wanted := if count = 0 then 1 else count
  let (digits, e) := significant wanted ratio
  let short := -4 ≤ e ∧ e < wanted
  let (whole, fraction) :=
    if short ∧ e < 0 then (['0'], List.replicate (-e - 1).toNat '0' ++ digits)
    else
      let before := if short then e.toNat + 1 else 1
      (digits.take before, digits.drop before)
  pointed allDigits whole (if allDigits then fraction else dropZeros fraction) ++
    (if short then [] else exponent upper e)

end Figure

end ZonalBucket.Text
