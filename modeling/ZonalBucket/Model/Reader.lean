import ZonalBucket.Field
import ZonalBucket.Model.Basic

/-!
# Reading models

Each model is read from the fields of an object; fields that it does not have are
passed over.  `Model.read` collects what the single readers do under one name for
each model, and gives back the document form of what was read.
-/

namespace ZonalBucket

/-- Reads metadata from its own fields. -/
def Metadata.ofFields (fields : Fields) : Checked Metadata :=
  (((Checked.andField (.ok Metadata.mk) (Field.optional "etag" Field.text fields)).andField
    (Field.optional "content_type" Field.text fields)).andField
    (Field.optional "content_length" Field.int fields)).andField
    (Field.optional "last_modified" Field.time fields)

/-- Reads an error detail. -/
def ErrorDetail.ofFields (fields : Fields) : Checked ErrorDetail :=
  (Checked.andField (.ok ErrorDetail.mk)
    (Field.withDefault "code" "Unknown" Field.text fields)).andField
    (Field.withDefault "message" "" Field.text fields)

/-- Reads the outcome of a metadata fetch. -/
def HeadResult.ofFields (fields : Fields) : Checked HeadResult :=
  ((((Checked.andField (.ok HeadResult.mk) (Field.required "bucket" Field.text fields)).andField
    (Field.required "key" Field.text fields)).andField
    (Field.required "found" Field.bool fields)).andField
    (Field.optional "metadata" (Field.nested Metadata.ofFields) fields)).andField
    (Field.optional "error" (Field.nested ErrorDetail.ofFields) fields)

/-- Reads the body of an answer with metadata. -/
def HeadResponse.ofFields (fields : Fields) : Checked HeadResponse :=
  ((Checked.andField (.ok HeadResponse.mk) (Field.required "bucket" Field.text fields)).andField
    (Field.required "key" Field.text fields)).andField
    (Field.required "metadata" (Field.nested Metadata.ofFields) fields)

/-- Reads the body of an answer to a deletion. -/
def DeleteResponse.ofFields (fields : Fields) : Checked DeleteResponse :=
  (Checked.andField (.ok DeleteResponse.mk) (Field.required "bucket" Field.text fields)).andField
    (Field.required "deleted" Field.bool fields)

/-- Reads the body of an answer that reports an error. -/
def ErrorResponse.ofFields (fields : Fields) : Checked ErrorResponse :=
  (Checked.andField (.ok ErrorResponse.mk) (Field.required "detail" Field.text fields)).andField
    (Field.optional "code" Field.text fields)

/-- The models by name. -/
inductive Model where
  | metadata
  | errorDetail
  | headResult
  | headResponse
  | deleteResponse
  | errorResponse
deriving DecidableEq, Repr

/-- The name under which a model is reported. -/
def Model.name : Model → String
  | metadata => "ObjectMetadata"
  | errorDetail => "ServiceErrorDetail"
  | headResult => "HeadObjectResult"
  | headResponse => "HeadObjectResponse"
  | deleteResponse => "DeleteBucketResponse"
  | errorResponse => "ErrorResponse"

/-- All models. -/
def Model.all : List Model :=
  [metadata, errorDetail, headResult, headResponse, deleteResponse, errorResponse]

/-- The model with this name. -/
def Model.ofName? (name : String) : Option Model :=
  Model.all.find? fun m => m.name == name

/-- A value of any model. -/
inductive ModelValue where
  | metadata (m : Metadata)
  | errorDetail (d : ErrorDetail)
  | headResult (r : HeadResult)
  | headResponse (r : HeadResponse)
  | deleteResponse (r : DeleteResponse)
  | errorResponse (r : ErrorResponse)

/-- Reads a value of a model from the fields of an object. -/
def Model.read (model : Model) (fields : Fields) : Checked ModelValue :=
  match model with
  | metadata => (Metadata.ofFields fields).map .metadata
  | errorDetail => (ErrorDetail.ofFields fields).map .errorDetail
  | headResult => (HeadResult.ofFields fields).map .headResult
  | headResponse => (HeadResponse.ofFields fields).map .headResponse
  | deleteResponse => (DeleteResponse.ofFields fields).map .deleteResponse
  | errorResponse => (ErrorResponse.ofFields fields).map .errorResponse

/-- The document form of a value. -/
def ModelValue.toDocument : ModelValue → Document
  | metadata m => m.toDocument
  | errorDetail d => d.toDocument
  | headResult r => r.toDocument
  | headResponse r => r.toDocument
  | deleteResponse r => r.toDocument
  | errorResponse r => r.toDocument

/-- The truth value of a value that has one of its own. -/
def ModelValue.isTruthy? : ModelValue → Option Bool
  | headResult r => some r.isTruthy
  | _ => none

/-- The issues found in the fields of a model. -/
structure Invalid where
  model : Model
  issues : List Issue
deriving DecidableEq, Repr

/-- How many issues were found, and in which model. -/
def Invalid.message (report : Invalid) : String :=
  s!"{report.issues.length} for {report.model.name}"

end ZonalBucket
