import ZonalBucket.Document

/-!
# Sameness of documents

Two values are the same when they are of one kind and have the same content; the
order of an object's fields does not count.  Numbers are compared by what they stand
for, whether they are truth values, whole or decimal, `Quantity`.
-/

namespace ZonalBucket

/-- What a number stands for. -/
inductive Quantity where
  /-- A quotient. -/
  | quotient (numerator : Int) (denominator : Nat)
  /-- A number that is too large, on one of the two sides of zero. -/
  | beyond (negative : Bool)

namespace Quantity

/-- Whether two numbers stand for the same. -/
def same : Quantity → Quantity → Bool
  | quotient n d, quotient m e => n * e == m * d
  | beyond b, beyond c => b == c
  | _, _ => false

/-- What a decimal number stands for. -/
def ofDecimal (x : Decimal) : Quantity :=
  match x.toBinary? with
  | some size => quotient (size.mantissa * size.factor) size.denominator
  | none => beyond x.negative

end Quantity

namespace Document

/-- What a value stands for as a number. -/
def quantity? : Document → Option Quantity
  | bool b => some (.quotient (if b then 1 else 0) 1)
  | int n => some (.quotient n 1)
  | float x => some (.ofDecimal x)
  | _ => none

/-- Whether two values without parts are the same. -/
def samePlain : Document → Document → Bool
  | null, null => true
  | text s, text t => s == t
  | time t, time u => decide (t = u)
  | d, e => match d.quantity?, e.quantity? with
    | some n, some m => n.same m
    | _, _ => false

mutual

/-- Whether two values are the same. -/
def same : Document → Document → Bool
  | list items, other => match other with
    | list others => sameItems items others
    | _ => false
  | object fields, other => match other with
    | object others => fields.length == others.length && sameFields fields others
    | _ => false
  | d, other => samePlain d other

/-- Whether two lists have the same items. -/
def sameItems : List Document → List Document → Bool
  | [], others => others.isEmpty
  | d :: ds, others => match others with
    | [] => false
    | e :: es => same d e && sameItems ds es

/-- Whether fields are found with the same values among others. -/
def sameFields : List (String × Document) → Fields → Bool
  | [], _ => true
  | (name, d) :: ds, others => match others.lookup name with
    | some e => same d e && sameFields ds others
    | none => false

end

end Document

end ZonalBucket
