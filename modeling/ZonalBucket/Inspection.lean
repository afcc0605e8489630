import ZonalBucket.Client

/-!
# Inspection

Fetching the metadata of an object, and deleting an empty bucket.  A fetch that the
store refuses ends in a result that says so; a deletion that the store refuses
fails.
-/

namespace ZonalBucket

/-- The store's answer to a metadata request, read by the names that the store uses. -/
def Metadata.ofReply (answer : Document) : Except Failure Metadata :=
  match answer.needFields with
  | .error cause => .error (.malformed cause)
  | .ok fields =>
    let value (name : String) := Page.fieldOr fields name .null
    Failure.ofChecked .metadata (Metadata.ofFields [
      ("etag", value "ETag"),
      ("content_type", value "ContentType"),
      ("content_length", value "ContentLength"),
      ("last_modified", value "LastModified")])

namespace Inspection

/-- A value that may be missing, in a message. -/
def shownOrNone {α : Type} (show? : α → String) : Option α → String
  | some a => show? a
  | none => "None"

/-- Reports metadata that was found. -/
def reportFound (source : Source) (bucket key : String) (m : Metadata) : Action Unit := do
  Action.info source
    (s!"Amazon S3 object: \"{key}\" found in bucket: \"{bucket}\" with ETag: " ++
      "\"" ++ shownOrNone id m.etag ++ "\"")
  Action.info source ("Content-Type: " ++ shownOrNone id m.contentType)
  Action.info source ("Content-Length: " ++ shownOrNone toString m.contentLength)
  Action.info source ("Last Modified: " ++ shownOrNone Timestamp.text m.lastModified)

/-- The result of a fetch that the store answered. -/
def foundResult (bucket key : String) (m : Metadata) : HeadResult where
  bucket := bucket
  key := key
  found := true
  metadata := some m

/-- The result of a fetch that the store refused. -/
def refusedResult (bucket key : String) (fault : ServiceFault) : HeadResult where
  bucket := bucket
  key := key
  found := false
  error := some fault.detail

/-- What a fetch makes of the store's answer. -/
def ofAnswer (source : Source) (bucket key : String) (answer : Document) :
    Action HeadResult := do
  let m ← Action.ofOutcome (Metadata.ofReply answer)
  reportFound source bucket key m
  pure (foundResult bucket key m)

/-- What a fetch makes of a refusal. -/
def ofRefusal (source : Source) (bucket key : String) (fault : ServiceFault) :
    Action HeadResult := do
  Action.reportRefusal source "Failed to retrieve object metadata" fault
  pure (refusedResult bucket key fault)

/-- Fetches the metadata of an object. -/
def fetch (source : Source) (bucket key : String) : Action HeadResult := do
  Action.info source s!"Retrieving metadata for object: {key} from bucket: {bucket}"
  match ← (Client.invoke (.headObject bucket key)).attempt with
  | .ok answer => ofAnswer source bucket key answer
  | .error fault => ofRefusal source bucket key fault

/-- A fetch that ends in a result has found the object exactly when it has metadata. -/
theorem fetch_found {source : Source} {bucket key : String} {w : World}
    {result : HeadResult} (h : (fetch source bucket key w).1 = .ok result) :
    result.isTruthy = result.metadata.isSome := by
  obtain ⟨_, v, -, h⟩ := Action.bind_eq_ok.1 h
  obtain ⟨ending, u, -, h⟩ := Action.bind_eq_ok.1 h
  cases ending with
  | ok answer =>
    obtain ⟨m, v, -, h⟩ := Action.bind_eq_ok.1 h
    obtain ⟨_, u, -, h⟩ := Action.bind_eq_ok.1 h
    cases h
    rfl
  | error fault =>
    obtain ⟨_, v, -, h⟩ := Action.bind_eq_ok.1 h
    cases h
    rfl

/-- Whether an object is there. -/
def head (source : Source) (bucket key : String) : Action Bool := do
  let result ← fetch source bucket key
  pure result.isTruthy

/-- Deletes a bucket, which must be empty. -/
def deleteBucket (source : Source) (bucket : String) : Action Unit := do
  Action.info source s!"Deleting bucket: {bucket}"
  let _ ← (Client.invoke (.deleteBucket bucket)).onRefusal
    (Action.failRefused source "Failed to delete bucket")
  Action.info source s!"Successfully deleted bucket: {bucket}"

end Inspection

end ZonalBucket
