import ZonalBucket.Emptying
import ZonalBucket.Proofs.CallsMade
import ZonalBucket.Proofs.ListingRounds

/-!
# The phases of emptying a bucket

Emptying is a listing, and then the deletion of what was listed.  A listing that fails ends
it, with nothing deleted, `emptyBucket_of_keys_error`; otherwise it goes on with the keys,
`emptyBucket_of_keys`.  A deletion that fails ends it as well, `deleteFound_of_error`, and
when the batches have gone through, what is left to do is one report,
`deleteFound_of_batches`.

So the calls are those of the listing, and behind them only deletions,
`emptyBucket_of_rounds`.
-/

namespace ZonalBucket.Emptying

open ZonalBucket.Action (Makes)

variable {w v : World} {source : Source} {name : String} {keys : List String}

/-- Deletes keys that were listed, and counts them and those that could not be deleted. -/
def deleteKeys (source : Source) (bucket : String) (keys : List String) : Action (Nat × Nat) := do
  let size ← Action.look fun w => w.limits.batchSize
  if keys ≠ [] ∧ size = 0 then Action.fail .emptyBatch
  else
    let failed ← deleteBatches source bucket (chunks size.toNat keys)
    pure (keys.length, failed)

/-- What emptying does with the keys that were listed. -/
def deleteFound (source : Source) (bucket : String) (keys : List String) : Action Int := do
  let (listed, failed) ← (deleteKeys source bucket keys).onRefusal
    (Action.failRefused source "Failed to delete objects in bucket")
  conclude source bucket listed failed

/-- A call that deletes keys from a bucket. -/
def Deletes (bucket : String) (e : Exchange) : Prop :=
  ∃ batch, e.call = .deleteObjects bucket batch

/-- What is reported in the end. -/
def conclusion (source : Source) (bucket : String) (listed : Nat) (deleted : Int) : Record where
  level := Level.info
  source := source
  message :=
    if listed = 0 then s!"No objects found in bucket: {bucket}"
    else s!"Deleted {deleted} objects from bucket: {bucket}"

/-- After a listing, emptying goes on with the keys in the world that the listing
left.  The handler around the listing has nothing to do then. -/
theorem emptyBucket_of_keys (h : Listing.keys name w = (.ok keys, v)) :
    emptyBucket source name w = deleteFound source name keys v := by
  have hlisted : deleteListed source name w = deleteKeys source name keys v :=
    Action.bind_of_ok _ h
  have hpassed : (deleteListed source name).onRefusal
      (Action.failRefused source "Failed to delete objects in bucket") w =
      (deleteKeys source name keys).onRefusal
        (Action.failRefused source "Failed to delete objects in bucket") v := by
    simp only [Action.onRefusal, hlisted]
  rw [emptyBucket, deleteFound, Action.bind_apply, Action.bind_apply, Action.andThen,
    Action.andThen, hpassed]

/-- A listing that fails ends it, and nothing is deleted. -/
theorem emptyBucket_of_keys_error (source : Source) {failure : Failure}
    (h : Listing.keys name w = (.error failure, v)) :
    ∃ records, emptyBucket source name w = (.error failure, v.tell { records := records }) := by
  have hlisted : deleteListed source name w = (.error failure, v) := Action.bind_of_error _ h
  have hpassed := Action.passRefusal_eq_tell (deleteListed source name) source
    "Failed to delete objects in bucket" w
  rw [hlisted] at hpassed
  exact ⟨_, Action.bind_of_error _ hpassed⟩

/-- The number of keys that were deleted; there are none when none were listed. -/
def deletedOf (listed failed : Nat) : Int := if listed = 0 then 0 else listed - failed

/-- The report in the end only adds to the trace. -/
theorem conclude_eq_tell (source : Source) (name : String) (listed failed : Nat) (w : World) :
    conclude source name listed failed w = (.ok (deletedOf listed failed),
      w.tell { records := [conclusion source name listed (deletedOf listed failed)] }) := by
  rw [← World.noteRecord_eq_tell, conclude, conclusion, deletedOf]
  by_cases hzero : listed = 0
  · rw [if_pos hzero, if_pos hzero, if_pos hzero]
    rfl
  · rw [if_neg hzero, if_neg hzero, if_neg hzero]
    rfl

/-- The number that is reported is that of the keys without those that failed.  Where
nothing was listed it is zero by a branch of its own, and this is the same number as
long as no failures are counted then. -/
theorem conclude_apply {listed failed : Nat} (hnone : listed = 0 → failed = 0) (w : World) :
    conclude source name listed failed w = (.ok ((listed : Int) - failed),
      w.tell { records := [conclusion source name listed ((listed : Int) - failed)] }) := by
  have hdeleted : deletedOf listed failed = (listed : Int) - failed := by
    rw [deletedOf]
    split
    · rename_i hzero
      rw [hzero, hnone hzero]
      rfl
    · rfl
  rw [conclude_eq_tell, hdeleted]

/-- What was listed is only deleted; no more pages are asked for. -/
theorem deleteFound_makes (source : Source) (name : String) (keys : List String) :
    (deleteFound source name keys).Makes (Deletes name) (Deletes name) := by
  have hclosed : Action.Closed fun action => action.Makes (Deletes name) (Deletes name) :=
    Makes.closed fun _ he => he
  have hcall (batch : List String) :
      (Client.invoke (.deleteObjects name batch)).Makes (Deletes name) (Deletes name) :=
    Makes.invoke (fun _ => ⟨batch, rfl⟩) fun _ => ⟨batch, rfl⟩
  have hkeys : (deleteKeys source name keys).Makes (Deletes name) (Deletes name) := by
    refine hclosed.bind (hclosed.look _ fun w v _ hlimits _ => by rw [hlimits]) fun size => ?_
    split
    · exact hclosed.fail _
    · exact hclosed.bind (hclosed.deleteBatches hcall source _) fun _ => hclosed.pure _
  exact hclosed.bind (hclosed.passRefusal _ _ hkeys) fun counts => hclosed.conclude source _ _

/-- **The pages come first.**  Behind the calls of the listing there are only
deletions from the same bucket, and no page is asked for again. -/
theorem emptyBucket_of_rounds {made : List Exchange} {listed : Outcome (List String)}
    (source : Source) (hsize : w.limits.pageSize ≠ 0)
    (h : Listing.Rounds name none w made listed v) :
    ∃ (t : Trace) (deleted : List Exchange),
      (emptyBucket source name w).2.trace = w.trace.append t ∧
      t.exchanges = made ++ deleted ∧ ∀ e ∈ deleted, Deletes name e := by
  have hkeys : Listing.keys name w = (listed, v) := h.run (.inl hsize)
  have hv : v.trace = w.trace.append { exchanges := made } := by
    rw [h.world, World.tell_trace, World.visits_trace]
  cases listed with
  | error failure =>
    obtain ⟨records, hrun⟩ := emptyBucket_of_keys_error source hkeys
    rw [hrun, World.tell_trace, hv, Trace.append_assoc]
    exact ⟨_, [], rfl, rfl, fun e he => nomatch he⟩
  | ok keys =>
    obtain ⟨t, ht, hdeleted⟩ := deleteFound_makes source name keys v
    rw [emptyBucket_of_keys hkeys, ht, hv, Trace.append_assoc]
    refine ⟨_, t.exchanges, rfl, rfl, fun e he => ?_⟩
    have hcall := hdeleted e he
    cases hend : (deleteFound source name keys v).1 with
    | error failure =>
      rw [hend] at hcall
      exact hcall
    | ok count =>
      rw [hend] at hcall
      exact hcall

section Batches

variable {size : Nat} (hsize : w.limits.batchSize = size) (hpos : 0 < size)

include hsize hpos

/-- The keys are deleted in batches of the size that the limits tell. -/
theorem deleteKeys_apply : deleteKeys source name keys w =
    (deleteBatches source name (chunks size keys) >>= fun failed =>
      pure (keys.length, failed)) w := by
  have hlook : Action.look (fun w => w.limits.batchSize) w = (.ok (size : Int), w) := by
    rw [← hsize]
    rfl
  rw [deleteKeys, Action.bind_of_ok _ hlook, if_neg (by omega), Int.toNat_natCast]

/-- When all batches have gone through, emptying ends with a report. -/
theorem deleteFound_of_batches {failed : Nat}
    (hdeleted : deleteBatches source name (chunks size keys) w = (.ok failed, v))
    (hnone : keys.length = 0 → failed = 0) :
    deleteFound source name keys w = (.ok ((keys.length : Int) - failed), v.tell
      { records := [conclusion source name keys.length ((keys.length : Int) - failed)] }) := by
  have hkeys : deleteKeys source name keys w = (.ok (keys.length, failed), v) := by
    rw [deleteKeys_apply hsize hpos, Action.bind_of_ok _ hdeleted]
    rfl
  rw [deleteFound, Action.bind_of_ok _ (Action.onRefusal_of_ok _ hkeys)]
  exact conclude_apply hnone v

/-- A batch that fails ends it.  At most the refusal is reported, and the conclusion
with the number of keys is left out. -/
theorem deleteFound_of_error {failure : Failure}
    (hdeleted : deleteBatches source name (chunks size keys) w = (.error failure, v)) :
    ∃ records, deleteFound source name keys w =
      (.error failure, v.tell { records := records }) := by
  have hkeys : deleteKeys source name keys w = (.error failure, v) := by
    rw [deleteKeys_apply hsize hpos, Action.bind_of_error _ hdeleted]
  have hpassed := Action.passRefusal_eq_tell (deleteKeys source name keys) source
    "Failed to delete objects in bucket" w
  rw [hkeys] at hpassed
  exact ⟨_, Action.bind_of_error _ hpassed⟩

end Batches

end ZonalBucket.Emptying
