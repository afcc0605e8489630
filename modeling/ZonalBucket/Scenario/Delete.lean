import ZonalBucket.Inspection
import ZonalBucket.Provision
import ZonalBucket.Scenario.Basic

/-!
# The delete scenario

A bucket is created and deleted again.  The run tells whether both worked; every
failure on the way is reported and goes no further.
-/

namespace ZonalBucket.Scenario.Delete

/-- Creates the bucket and deletes it. -/
def createAndDelete (config : Config) (bucket : String) : Action Bool := do
  Provision.createBucket .provision bucket config.zone
  Inspection.deleteBucket .inspection bucket
  pure true

/-- Reports the failure that ends a run. -/
def reportFailure (own : Source) : Failure → Action Unit
  | .refused fault => reportEnd own fault
  | failure => Action.error own ("Unexpected error: " ++ failure.message)

/-- Runs the scenario on a bucket. -/
def runOn (own : Source) (config : Config) (bucket : String) : Action Bool :=
  (createAndDelete config bucket).recovering fun failure => do
    reportFailure own failure
    pure false

/-- Runs the scenario. -/
def run (own : Source) (config : Config) (bucket : Option String) : Action Bool := do
  let name ← bucketFor config bucket
  runOn own config name

end ZonalBucket.Scenario.Delete
