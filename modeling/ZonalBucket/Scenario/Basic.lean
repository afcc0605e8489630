import ZonalBucket.Action
import ZonalBucket.BucketName

/-!
# Scenarios

What the two scenarios share: the bucket that a run works on, and the report of a
refusal that ends a run.
-/

namespace ZonalBucket.Scenario

/-- The bucket that a run works on: the one that was asked for, unless that is empty,
or else a new name of the configured stem and zone. -/
def bucketFor (config : Config) (asked : Option String) : Action String :=
  match Config.nonEmpty? asked with
  | some bucket => pure bucket
  | none => do
    let named ← Action.look fun w => BucketName.make config.bucketPrefix config.zone none w.clock
    Action.ofOutcome named

/-- Reports a refusal that ends a run. -/
def reportEnd (own : Source) (fault : ServiceFault) : Action Unit :=
  Action.reportRefusal own "An error occurred during S3 operations" fault

end ZonalBucket.Scenario
