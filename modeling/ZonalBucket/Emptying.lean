import ZonalBucket.Chunks
import ZonalBucket.Listing

/-!
# Emptying a bucket

All keys are listed first and then deleted in batches.  The store may answer that
it could not delete some keys of a batch: each of them is reported and does not
count as deleted, and the batches after it are deleted all the same.
-/

namespace ZonalBucket.Emptying

/-- Reports a key that could not be deleted. -/
def reportItem (source : Source) (item : Document) : Action Unit := do
  let fields ← Action.ofOutcome (Failure.ofMalformed item.needFields)
  let key := (Page.fieldOr fields "Key" .null).shown
  let message := (Page.fieldOr fields "Message" .null).shown
  let code := (Page.fieldOr fields "Code" .null).shown
  Action.error source s!"Failed to delete object {key}: {message} - Error code: {code}"

/-- Reports keys that could not be deleted, and counts them. -/
def reportItems (source : Source) : List Document → Action Nat
  | [] => pure 0
  | item :: rest => do
    reportItem source item
    let count ← reportItems source rest
    pure (count + 1)

/-- The items for keys that could not be deleted, in the answer to a deletion. -/
def itemsOf (answer : Document) : Except Malformed (List Document) := do
  let fields ← answer.needFields
  (Page.fieldOr fields "Errors" (.list [])).needItems

/-- Deletes a batch of keys and counts those that could not be deleted. -/
def deleteBatch (source : Source) (bucket : String) (batch : List String) : Action Nat := do
  let answer ← Client.invoke (.deleteObjects bucket batch)
  let items ← Action.ofOutcome (Failure.ofMalformed (itemsOf answer))
  reportItems source items

/-- Deletes batches of keys and counts those that could not be deleted. -/
def deleteBatches (source : Source) (bucket : String) : List (List String) → Action Nat
  | [] => pure 0
  | batch :: rest => do
    let here ← deleteBatch source bucket batch
    let later ← deleteBatches source bucket rest
    pure (here + later)

/-- Lists the keys of a bucket and deletes them; gives the number of keys, and how many
of them could not be deleted.  Batches of no keys cannot be made, and of a size below
zero there are none. -/
def deleteListed (source : Source) (bucket : String) : Action (Nat × Nat) := do
  let keys ← Listing.keys bucket
  let size ← Action.look fun w => w.limits.batchSize
  if keys ≠ [] ∧ size = 0 then Action.fail .emptyBatch
  else
    let failed ← deleteBatches source bucket (chunks size.toNat keys)
    pure (keys.length, failed)

/-- Reports how many keys were deleted. -/
def conclude (source : Source) (bucket : String) (listed failed : Nat) : Action Int :=
  if listed = 0 then do
    Action.info source s!"No objects found in bucket: {bucket}"
    pure 0
  else do
    let deleted : Int := listed - failed
    Action.info source s!"Deleted {deleted} objects from bucket: {bucket}"
    pure deleted

/-- Empties a bucket, and gives the number of keys that were deleted. -/
def emptyBucket (source : Source) (bucket : String) : Action Int := do
  let (listed, failed) ← (deleteListed source bucket).onRefusal
    (Action.failRefused source "Failed to delete objects in bucket")
  conclude source bucket listed failed

end ZonalBucket.Emptying
