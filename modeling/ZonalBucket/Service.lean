import ZonalBucket.Inspection

/-!
# The service

Inspection by callers who have no client of their own: each call opens one for the
configured region, and leaves it on every path.  Failures of both families are
reported as one, `ServiceError`, which names the operation and keeps what it came
from.

A fetch that the store refuses is not a failure but a result; only a call that does
not get through fails.  A deletion fails either way.
-/

namespace ZonalBucket

/-- A service: the configuration it works with, and the source of its records. -/
structure Service where
  config : Config
  source : Source := .service

namespace Service

/-- The name under which a failed fetch is reported. -/
def headOperation : String := "HeadObject"

/-- The name under which a failed deletion is reported. -/
def deleteOperation : String := "DeleteBucket"

/-- The service that the environment describes. -/
def ofEnvironment : Action Service := do
  let loaded ← Action.look fun w => Config.load w.environment
  let config ← Action.ofOutcome loaded
  pure { config := config }

/-- Reports a call that did not get through, and fails with it. -/
def failUnreached {α : Type} (s : Service) (what operation : String) (fault : TransportFault) :
    Action α := do
  Action.trace s.source what
  Action.fail (.reported (.ofTransport fault operation))

/-- Fetches the metadata of an object. -/
def headObject (s : Service) (bucket key : String) : Action HeadResult :=
  if bucket = "" then Action.fail (.emptyArgument .bucket)
  else if key = "" then Action.fail (.emptyArgument .key)
  else (Client.during s.config (Inspection.fetch s.source bucket key)).onTransport
    (s.failUnreached s!"S3 head_object failed (bucket={bucket}, key={key})" headOperation)

/-- Deletes a bucket, which must be empty. -/
def deleteBucket (s : Service) (bucket : String) : Action Unit :=
  if bucket = "" then Action.fail (.emptyArgument .bucket)
  else ((Client.during s.config (Inspection.deleteBucket s.source bucket)).onTransport
    (s.failUnreached s!"S3 delete_bucket failed (bucket={bucket})" deleteOperation)).onRefusal
    fun fault => Action.fail (.reported (.ofRefusal fault deleteOperation))

end Service

end ZonalBucket
