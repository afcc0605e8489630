import ZonalBucket.Client
import ZonalBucket.MediaType.Guess

/-!
# Provisioning

Creating a bucket, uploading a file into it and deleting one object.  A refusal by
the store is reported and passed on; every other failure is passed on as it is.
-/

namespace ZonalBucket

/-- What can be uploaded: a local file, or the sample that comes with the library. -/
inductive Upload where
  | file (path : String)
  | sample
deriving DecidableEq, Repr

namespace Upload

/-- The content of the sample. -/
def sampleText : String := "This is a sample file for uploading to a directory bucket.\n"

/-- The bytes of an upload. -/
def bytes (files : Files) : Upload → Except Failure (List UInt8)
  | file path => files.read path
  | sample => .ok sampleText.toUTF8.toList

/-- The media type that the name of an upload suggests. -/
def guessedType : Upload → Option String
  | file path => MediaType.guess (FilePath.ofString path).text
  | sample => some "text/plain"

/-- The content type to store: the one asked for unless it is empty, and the suggested
one when none is asked for. -/
def contentType (upload : Upload) : Option String → Option String
  | none => upload.guessedType
  | some type => Config.nonEmpty? (some type)

end Upload

namespace Provision

/-- Creates a bucket in a zone. -/
def createBucket (source : Source) (bucket zone : String) : Action Unit := do
  Action.info source s!"Creating bucket: {bucket}"
  let _ ← (Client.invoke (.createBucket bucket zone)).onRefusal
    (Action.failRefused source "Failed to create bucket")
  Action.info source s!"Bucket created successfully with location: {zone}"

/-- Uploads a file under a key, which may not be empty. -/
def putObject (source : Source) (bucket key : String) (upload : Upload)
    (contentType : Option String) : Action Unit :=
  if key = "" then Action.fail (.emptyArgument .objectKey)
  else do
    let outcome ← Action.look fun w => upload.bytes w.files
    let body ← Action.ofOutcome outcome
    let call := Call.putObject bucket key body (upload.contentType contentType)
    let _ ← (Client.invoke call).onRefusal (Action.failRefused source "Failed to put object")
    Action.info source s!"Successfully placed {key} into bucket {bucket}"

/-- Deletes the object under a key. -/
def deleteObject (source : Source) (bucket key : String) : Action Unit := do
  let _ ← (Client.invoke (.deleteObject bucket key)).onRefusal
    (Action.failRefused source "Failed to delete object")
  Action.info source s!"Deleted object: {key} from bucket: {bucket}"

end Provision

end ZonalBucket
