import ZonalBucket.Emptying
import ZonalBucket.Inspection
import ZonalBucket.Provision
import ZonalBucket.Scenario.Basic

/-!
# The head scenario

A bucket is created, a file is uploaded into it, and its metadata is fetched.  After
that the bucket is emptied and deleted, however far the run got and however it
ended.  The run tells whether the metadata was found; a refusal by the store counts
as not found, and any other failure of the first three steps passes through.

Nothing that goes wrong in the cleanup changes how the run ends.
-/

namespace ZonalBucket.Scenario.Head

/-- The key when none is asked for. -/
def defaultKey : String := "example-object-2"

/-- What a run of the scenario is asked to do. -/
structure Request where
  bucket : Option String := none
  key : String := defaultKey
  upload : Upload := .sample

/-- Reports whether the metadata was found. -/
def reportFound (own : Source) (found : Bool) : Action Unit :=
  if found then Action.info own "Object metadata retrieved successfully."
  else Action.error own "Failed to retrieve object metadata."

/-- Creates the bucket, uploads the file and fetches its metadata. -/
def explore (own : Source) (config : Config) (bucket key : String) (upload : Upload) :
    Action Bool := do
  Provision.createBucket .provision bucket config.zone
  Provision.putObject .provision bucket key upload none
  let found ← Inspection.head .inspection bucket key
  reportFound own found
  pure found

/-- Empties and deletes the bucket. -/
def clear (own : Source) (bucket : String) : Action Unit := do
  Action.info own s!"Deleting the objects in bucket: {bucket}"
  let _ ← Emptying.emptyBucket .provision bucket
  Action.info own s!"Attempting to delete bucket: {bucket}"
  Inspection.deleteBucket .inspection bucket

/-- Reports why a bucket could not be emptied and deleted. -/
def reportLeft (own : Source) : Failure → Action Unit
  | .refused fault => Action.reportRefusal own "Failed to delete bucket" fault
  | failure => Action.error own
      ("Failed to delete the bucket due to unexpected error: " ++ failure.message)

/-- Empties and deletes the bucket; a failure is only reported. -/
def cleanup (own : Source) (bucket : String) : Action Unit :=
  (clear own bucket).recovering (reportLeft own)

/-- Runs the scenario on a bucket. -/
def runOn (own : Source) (config : Config) (bucket key : String) (upload : Upload) :
    Action Bool :=
  ((explore own config bucket key upload).onRefusal fun fault => do
    reportEnd own fault
    pure false).ensuring (cleanup own bucket)

/-- Runs the scenario. -/
def run (own : Source) (config : Config) (request : Request) : Action Bool := do
  let bucket ← bucketFor config request.bucket
  runOn own config bucket request.key request.upload

end ZonalBucket.Scenario.Head
