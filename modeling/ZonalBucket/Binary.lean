/-!
# Binary numbers

Arithmetic on measured quantities is done on numbers of fifty-three binary digits.
`Binary.ofRatio` is the one of them that lies nearest to a quotient; between two
that are equally near it takes the one with the even mantissa.  Small numbers lose
digits, as no number is finer than `finest` allows, and numbers from `2 ^ 1024` on
are too large, `Binary.isFinite`.
-/

namespace ZonalBucket

/-- The number `mantissa * 2 ^ exponent`. -/
structure Binary where
  mantissa : Int
  exponent : Int
deriving DecidableEq, Repr, Inhabited

/-- A power of two. -/
def twoTo (n : Nat) : Nat := Nat.pow 2 n

/-- A quotient rounded to the nearest whole number, a half to the even one. -/
def divNearest (n d : Nat) : Nat :=
  let below := n / d
  let rest := n % d
  if 2 * rest < d then below
  else if d < 2 * rest then below + 1
  else below + below % 2

namespace Binary

/-- The number of binary digits of a mantissa. -/
def precision : Int := 53

/-- The exponent of the finest numbers. -/
def finest : Int := -1074

/-- Whether `n / d` is below `2 ^ k`. -/
def isBelow (n d : Nat) (k : Int) : Bool :=
  n * twoTo (-k).toNat < d * twoTo k.toNat

/-- The largest `k` for which `2 ^ k` is at most `n / d`. -/
def magnitude (n d : Nat) : Int :=
  let guess : Int := n.log2 - d.log2
  if isBelow n d guess then guess - 1 else guess

/-- The exponent of the number nearest to `n / d`. -/
def exponentFor (n d : Nat) : Int := max (magnitude n d - precision + 1) finest

/-- The number nearest to `n / d`. -/
def ofRatio (n d : Nat) : Binary :=
  let e := exponentFor n d
  ⟨divNearest (n * twoTo (-e).toNat) (d * twoTo e.toNat), e⟩

/-- The same number with the other sign. -/
def neg (x : Binary) : Binary := ⟨-x.mantissa, x.exponent⟩

/-- The number nearest to a whole number. -/
def ofInt (n : Int) : Binary :=
  if n < 0 then (ofRatio n.natAbs 1).neg else ofRatio n.natAbs 1

/-- What a mantissa is divided by. -/
def denominator (x : Binary) : Nat := twoTo (-x.exponent).toNat

/-- What a mantissa is multiplied by. -/
def factor (x : Binary) : Nat := twoTo x.exponent.toNat

/-- The size of a number as a quotient. -/
def ratio (x : Binary) : Nat × Nat := (x.mantissa.natAbs * x.factor, x.denominator)

/-- Whether two numbers have the same size. -/
def equals (x y : Binary) : Bool := x.ratio.1 * y.ratio.2 == y.ratio.1 * x.ratio.2

/-- Whether a number lies below `2 ^ 1024`, on both sides of zero. -/
def isFinite (x : Binary) : Bool :=
  isBelow (x.mantissa.natAbs * x.factor) x.denominator 1024

/-- Whether a number has no fraction. -/
def isWhole (x : Binary) : Bool := x.mantissa % x.denominator == 0

/-- The largest whole number that is not above a number. -/
def floor (x : Binary) : Int := x.mantissa * x.factor / x.denominator

/-- The whole number that is next toward zero. -/
def trunc (x : Binary) : Int :=
  if x.mantissa < 0 then -x.neg.floor else x.floor

/-- Whether a number lies between `-bound` and `bound`, or is one of them. -/
def within (x : Binary) (bound : Nat) : Bool :=
  x.mantissa.natAbs * x.factor ≤ bound * x.denominator

/-- The part of a number that its floor leaves, rounded. -/
def fraction (x : Binary) : Binary :=
  ofRatio (x.mantissa % x.denominator).toNat x.denominator

/-- A number that is not negative times a whole one, rounded. -/
def scale (x : Binary) (n : Nat) : Binary :=
  ofRatio (x.mantissa.toNat * n * x.factor) x.denominator

/-- The nearest whole number, a half upward. -/
def round (x : Binary) : Int :=
  (2 * x.mantissa * x.factor + x.denominator) / (2 * x.denominator)

end Binary

end ZonalBucket
