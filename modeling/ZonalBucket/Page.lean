import ZonalBucket.Lookup
import ZonalBucket.Malformed
import ZonalBucket.Text.Numeral

/-!
# Pages of a listing

The keys of a bucket are listed page by page.  A page token is the offset at which
the next page starts; an answer carries one exactly when keys are left, and marks
itself as cut off.  A caller that was given other tokens gets what they ask for:
an offset below zero counts from the end.  A token of too many digits is neither
written nor read, but those of the offsets into the keys never are too long,
`isLongOffset_eq_false`.

`Page.ofReply` is what a caller reads from an answer: its keys, and the token to go
on with if the answer is marked as cut off and has one.
-/

namespace ZonalBucket

/-- The place that an index stands for in a row of `length` items; below zero it counts
from the end. -/
def place (length : Nat) (index : Int) : Nat :=
  if index < 0 then (length + index).toNat else min index.toNat length

/-- The items from one index to another. -/
def slice {α : Type} (xs : List α) (start stop : Int) : List α :=
  (xs.take (place xs.length stop)).drop (place xs.length start)

namespace Page

/-- How many digits the token for an offset into a row of keys may have: as many as any
numeral may, and as many as the number of the keys has if that should be more. -/
def mostDigits (count : Nat) : Nat := max Text.longest (Nat.toDigits 10 count).length

/-- The offset that the text of a page token stands for. -/
def offsetOfText (count : Nat) (s : String) : Except Malformed Int :=
  match Text.readWhole (mostDigits count) s with
  | .ok n => .ok n
  | .error .unreadable => .error (.tokenText s)
  | .error (.tooLong digits) => .error (.tokenLength digits)

/-- The offset that a page token with a fraction or an exponent stands for. -/
def offsetOfFloat (x : Decimal) : Except Malformed Int :=
  match x.toBinary? with
  | some x => .ok x.trunc
  | none => .error .tokenInfinite

/-- The offset into a row of `count` keys that a page token stands for; without a token,
or with one that does not count as given, it is zero. -/
def offset (count : Nat) : Option Document → Except Malformed Int
  | none => .ok 0
  | some token =>
    if token.isTruthy then
      match token with
      | .int n => .ok n
      | .bool b => .ok (if b then 1 else 0)
      | .float x => offsetOfFloat x
      | .text s => offsetOfText count s
      | found => .error (.tokenKind found)
    else .ok 0

/-- The token for an offset. -/
def tokenFor (offset : Int) : Document := .text (toString offset)

/-- Whether the token for an offset into a row of `count` keys would have too many
digits. -/
def isLongOffset (count : Nat) (offset : Int) : Bool :=
  mostDigits count < (Nat.toDigits 10 offset.natAbs).length

/-- An answer with a page of keys, and the token to go on with if there is one. -/
def answer (page : List String) (next : Option Document) : Document :=
  .object ([("KeyCount", .int page.length), ("IsTruncated", .bool next.isSome)] ++
    (if page = [] then []
      else [("Contents", .list (page.map fun key => .object [("Key", .text key)]))]) ++
    (match next with
      | some token => [("NextContinuationToken", token)]
      | none => []))

/-- The token of the page after the one of `size` keys that starts at an offset, if keys
are left. -/
def nextToken (keys : List String) (size start : Int) : Option Document :=
  if start + size < keys.length then some (tokenFor (start + size)) else none

/-- The store's answer with the page of `size` keys that starts at an offset. -/
def reply (keys : List String) (size start : Int) : Except Malformed Document :=
  if start + size < keys.length ∧ isLongOffset keys.length (start + size) then
    .error .tokenGrowth
  else .ok (answer (slice keys start (start + size)) (nextToken keys size start))

end Page

/-- What a caller reads from an answer. -/
structure Page where
  keys : List String
  next : Option Document

namespace Page

/-- The key of an entry, as a text. -/
def keyOf (entry : Document) : Except Malformed String :=
  (entry.needEntry "Key").map Document.shown

/-- The value of a field as it is, or nothing. -/
def fieldOr (fields : Fields) (name : String) (missing : Document) : Document :=
  (fields.lookup name).getD missing

/-- Reads an answer. -/
def ofReply (answer : Document) : Except Malformed Page := do
  let fields ← answer.needFields
  let entries ← (fieldOr fields "Contents" (.list [])).needItems
  let keys ← entries.mapM keyOf
  let token := fieldOr fields "NextContinuationToken" .null
  let more := (fieldOr fields "IsTruncated" .null).isTruthy && token.isTruthy
  return ⟨keys, if more then some token else none⟩

/-- The keys of a page that the store wrote are read back from it, in the same order.
An entry of the store always has its key, so that reading cannot fail here. -/
theorem mapM_keyOf (keys : List String) :
    (keys.map fun key => Document.object [("Key", .text key)]).mapM keyOf =
      (.ok keys : Except Malformed (List String)) := by
  induction keys with
  | nil => rfl
  | cons key keys ih =>
    rw [List.map_cons, List.mapM_cons, ih]
    simp [keyOf, Document.needEntry, Document.shown, Except.map, bind, Except.bind,
      pure, Except.pure]

/-- A written number has a digit at least, so that a token is never taken for none. -/
theorem toString_ne_empty (n : Int) : toString n ≠ "" := by
  intro h
  have hlist : (toString n).toList = [] := by rw [h]; rfl
  cases n with
  | ofNat m =>
    simp only [Int.toString_eq_repr, Int.repr, Nat.toList_repr] at hlist
    exact Nat.toDigits_ne_nil hlist
  | negSucc m =>
    simp only [Int.toString_eq_repr, Int.repr, String.toList_append] at hlist
    simp at hlist

/-- A written offset counts as given, zero included: it is a text that is not empty.
A listing with such a token goes on. -/
theorem isTruthy_tokenFor (n : Int) : (tokenFor n).isTruthy = true := by
  simpa [tokenFor, Document.isTruthy] using toString_ne_empty n

/-- A written offset is read back, unless it is too long. -/
theorem offset_tokenFor {count : Nat} {n : Int} (h : isLongOffset count n = false) :
    offset count (some (tokenFor n)) = .ok n := by
  have htruthy : (Document.text (toString n)).isTruthy = true := isTruthy_tokenFor n
  have hlength : ¬mostDigits count < (Nat.toDigits 10 n.natAbs).length := by
    simpa [isLongOffset] using h
  simp only [tokenFor, offset, htruthy, if_true, offsetOfText, Text.readWhole_toString,
    Text.reread, if_neg hlength]

/-- An offset of one digit is never too long. -/
theorem mostDigits_pos (count : Nat) : 0 < mostDigits count := by
  have : 0 < Text.longest := by decide
  exact Nat.lt_of_lt_of_le this (Nat.le_max_left _ _)

/-- An offset that is not too long has a bound. -/
theorem natAbs_lt_of_isLongOffset {count : Nat} {n : Int} (h : isLongOffset count n = false) :
    n.natAbs < Decimal.tenTo (mostDigits count) := by
  refine Decimal.lt_tenTo (mostDigits_pos count) ?_
  simpa [isLongOffset] using h

/-- The token for an offset into the keys is never too long. -/
theorem isLongOffset_eq_false {count start : Nat} (h : start ≤ count) :
    isLongOffset count start = false := by
  have hdigits : (Nat.toDigits 10 start).length ≤ (Nat.toDigits 10 count).length := by
    have hcount : 0 < (Nat.toDigits 10 count).length :=
      List.length_pos_iff.2 Nat.toDigits_ne_nil
    rw [Nat.length_toDigits_le_iff (by decide) hcount]
    exact Nat.lt_of_le_of_lt h ((Nat.length_toDigits_le_iff (by decide) hcount).1 (Nat.le_refl _))
  have hmost : (Nat.toDigits 10 start).length ≤ mostDigits count :=
    Nat.le_trans hdigits (Nat.le_max_right _ _)
  simpa [isLongOffset] using hmost

/-- A caller reads from an answer the keys of the page and the token. -/
theorem ofReply_answer (page : List String) {next : Option Document}
    (h : ∀ token, next = some token → token.isTruthy = true) :
    ofReply (answer page next) = .ok ⟨page, next⟩ := by
  have hk := mapM_keyOf page
  have hb (b : Bool) : (Document.bool b).isTruthy = b := rfl
  have hn : Document.null.isTruthy = false := rfl
  cases next with
  | none =>
    by_cases hp : page = [] <;>
      simp [ofReply, answer, hp, hk, Document.needFields, Document.needItems, fieldOr,
        lookup_cons_if, bind, Except.bind, pure, Except.pure, hb, hn]
  | some token =>
    have ht := h token rfl
    by_cases hp : page = [] <;>
      simp [ofReply, answer, hp, hk, Document.needFields, Document.needItems, fieldOr,
        lookup_cons_if, bind, Except.bind, pure, Except.pure, hb, ht]

/-- A caller reads from the store's answer the keys of the page, and the token of the
next page if keys are left. -/
theorem ofReply_of_reply {keys : List String} {size start : Int} {found : Document}
    (h : reply keys size start = .ok found) :
    ofReply found = .ok ⟨slice keys start (start + size), nextToken keys size start⟩ := by
  rw [reply] at h
  split at h
  · simp at h
  · simp only [Except.ok.injEq] at h
    subst h
    refine ofReply_answer _ fun token ht => ?_
    rw [nextToken] at ht
    split at ht
    · simp only [Option.some.injEq] at ht
      exact ht ▸ isTruthy_tokenFor _
    · simp at ht

/-- The token in an answer is not too long.  The answer would have failed if the
offset had more digits than may be written. -/
theorem isLongOffset_of_reply {keys : List String} {size start : Int} {found : Document}
    (h : reply keys size start = .ok found) (hmore : start + size < keys.length) :
    isLongOffset keys.length (start + size) = false := by
  rw [reply] at h
  split at h
  · simp at h
  · rename_i hlong
    simpa [hmore] using hlong

end Page

end ZonalBucket
