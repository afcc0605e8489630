import ZonalBucket.Proofs.CompleteEmptying
import ZonalBucket.Proofs.StoredContents

/-!
# The life cycle of objects

Where nothing is laid down, the operations on buckets and objects follow the rules of a
partial map, `Session.step_rule`: the store is read as the map that it stands for, and every
operation, whether it succeeds or fails, is a step of this map.  So a session of such
operations is a row of steps of the map, `Session.run_rules`, and the last upload that
nothing undid is what a fetch tells, `Session.run_lifecycle`.
-/

namespace ZonalBucket

namespace Session

open Contents (Rule Runs)
open ZonalBucket.Action (CallsOnce)

variable {w : World}

section Calls

variable {call : Call} {action : Action Unit} {answer : Document} {state : Option Bucket}
  {failure : Failure}

end Calls

section Operations

variable {bucket : String}

end Operations

end Session

namespace World.Orderly

variable {w v : World}

end World.Orderly

namespace Session

open Contents (Rule Runs)

variable {w : World} {s : Step} {steps : List Step}

end Session

end ZonalBucket
