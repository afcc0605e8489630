import ZonalBucket.Document

/-!
# Models

What the operations and the HTTP routes report: the metadata of an object, the
detail of a refusal, the outcome of a metadata fetch, and the bodies of the
answers.  Each model has a document form with all its fields, where a field
without a value is there as nothing.
-/

namespace ZonalBucket

/-- What the store tells about an object. -/
structure Metadata where
  etag : Option String := none
  contentType : Option String := none
  contentLength : Option Int := none
  lastModified : Option Timestamp := none
deriving DecidableEq

/-- Code and message of a refusal. -/
structure ErrorDetail where
  code : String := "Unknown"
  message : String := ""
deriving DecidableEq, Repr

/-- The outcome of a metadata fetch.  A refusal by the store is recorded here
and does not end the operation that met it. -/
structure HeadResult where
  bucket : String
  key : String
  found : Bool
  metadata : Option Metadata := none
  error : Option ErrorDetail := none
deriving DecidableEq

/-- The body of an answer with metadata. -/
structure HeadResponse where
  bucket : String
  key : String
  metadata : Metadata
deriving DecidableEq

/-- The body of an answer to a deletion. -/
structure DeleteResponse where
  bucket : String
  deleted : Bool
deriving DecidableEq, Repr

/-- The body of an answer that reports an error. -/
structure ErrorResponse where
  detail : String
  code : Option String := none
deriving DecidableEq, Repr

/-- A value that may be missing, in document form. -/
def optionDocument {α : Type} (form : α → Document) : Option α → Document
  | none => .null
  | some a => form a

/-- The document form of metadata. -/
def Metadata.toDocument (m : Metadata) : Document :=
  .object [
    ("etag", optionDocument .text m.etag),
    ("content_type", optionDocument .text m.contentType),
    ("content_length", optionDocument .int m.contentLength),
    ("last_modified", optionDocument (fun t => .text t.iso) m.lastModified)]

/-- The document form of an error detail. -/
def ErrorDetail.toDocument (d : ErrorDetail) : Document :=
  .object [("code", .text d.code), ("message", .text d.message)]

/-- The document form of the outcome of a metadata fetch. -/
def HeadResult.toDocument (r : HeadResult) : Document :=
  .object [
    ("bucket", .text r.bucket),
    ("key", .text r.key),
    ("found", .bool r.found),
    ("metadata", optionDocument Metadata.toDocument r.metadata),
    ("error", optionDocument ErrorDetail.toDocument r.error)]

/-- The document form of an answer with metadata. -/
def HeadResponse.toDocument (r : HeadResponse) : Document :=
  .object [
    ("bucket", .text r.bucket),
    ("key", .text r.key),
    ("metadata", r.metadata.toDocument)]

/-- The document form of an answer to a deletion. -/
def DeleteResponse.toDocument (r : DeleteResponse) : Document :=
  .object [("bucket", .text r.bucket), ("deleted", .bool r.deleted)]

/-- The document form of an answer that reports an error. -/
def ErrorResponse.toDocument (r : ErrorResponse) : Document :=
  .object [("detail", .text r.detail), ("code", optionDocument .text r.code)]

/-- The outcome of a fetch counts as true when the object was found. -/
def HeadResult.isTruthy (r : HeadResult) : Bool := r.found

end ZonalBucket
