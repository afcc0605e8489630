import ZonalBucket.Http.Location
import ZonalBucket.Http.Route
import ZonalBucket.Service

/-!
# The application

Requests are answered along the routes.  A service is made for each request that
needs one.  A failure that the service reports becomes an answer with its message
and its code: not found if the bucket or the object was missing, and a bad gateway
otherwise.  Any other failure is an internal error, and is kept with the answer.
-/

namespace ZonalBucket.Http

/-- A request.  The path is decoded already. -/
structure Request where
  method : String
  path : String
  query : String := ""

/-- The body of an answer. -/
inductive Body where
  | json (document : Document)
  | text (words : String)
  /-- No content at all, and so no type of it either. -/
  | none

/-- An answer. -/
structure Response where
  status : Nat
  body : Body
  location : Option String := Option.none
  allow : Option String := Option.none
  /-- The failure behind an internal error. -/
  failure : Option Failure := Option.none

/-- The type of the content of a body. -/
def Body.contentType : Body → Option String
  | json _ => some "application/json"
  | text _ => some "text/plain; charset=utf-8"
  | none => Option.none

namespace Response

/-- A successful answer. -/
def success (document : Document) : Response where
  status := 200
  body := .json document

/-- The answer to a request that failed on the store's side. -/
def ofError (e : ServiceError) : Response where
  status := if e.isNotFound then 404 else 502
  body := .json (ErrorResponse.toDocument ⟨e.message, some e.code⟩)

/-- The answer to a request that failed in any other way. -/
def crash (failure : Failure) : Response where
  status := 500
  body := .text "Internal Server Error"
  failure := some failure

/-- The answer to a request that failed. -/
def ofFailure : Failure → Response
  | .reported e => ofError e
  | failure => crash failure

/-- An answer that only says what went wrong. -/
def detail (words : String) : Body := .json (.object [("detail", .text words)])

/-- The answer to a request with the wrong method. -/
def wrongMethod (route : Route) : Response where
  status := 405
  body := detail "Method Not Allowed"
  allow := some route.method.name

/-- The answer to a request for nothing. -/
def notFound : Response where
  status := 404
  body := detail "Not Found"

/-- The answer that sends the client elsewhere. -/
def redirect (location : String) : Response where
  status := 307
  body := .none
  location := some location

end Response

/-- What the routes need of a service. -/
structure Backend where
  headObject : String → String → Action HeadResult
  deleteBucket : String → Action Unit

namespace Backend

/-- A service behind the routes. -/
def ofService (s : Service) : Backend where
  headObject := s.headObject
  deleteBucket := s.deleteBucket

/-- The service that the environment describes. -/
def ofEnvironment : Action Backend := do
  let s ← Service.ofEnvironment
  pure (ofService s)

/-- A stand-in that answers every fetch with the same result, and knows no deletion. -/
def ofResult (result : HeadResult) : Backend where
  headObject _ _ := Action.value result
  deleteBucket _ := Action.fail (.accident .attribute
    (.text "'Stub' object has no attribute 'delete_bucket'"))

end Backend

namespace App

/-- What the root answers. -/
def greeting : Document :=
  .object [("message", .text "Hello World! S3 directory bucket examples are running.")]

/-- The error for a fetch that did not find metadata. -/
def notFetched (error : Option ErrorDetail) : ServiceError :=
  match error with
  | none => {
      code := "NotFound", message := "Object not found"
      operation := some Service.headOperation }
  | some detail => {
      code := detail.code, message := detail.message
      operation := some Service.headOperation }

/-- The metadata that a fetch found. -/
def foundIn (result : HeadResult) : Option Metadata :=
  if result.isTruthy then result.metadata else none

/-- Answers a request for metadata. -/
def answerMetadata (backend : Backend) (bucket key : String) : Action Response := do
  let result ← backend.headObject bucket key
  match foundIn result with
  | some m => pure (.success (HeadResponse.toDocument ⟨bucket, key, m⟩))
  | none => Action.fail (.reported (notFetched result.error))

/-- Answers a request to delete a bucket. -/
def answerDeletion (backend : Backend) (bucket : String) : Action Response := do
  backend.deleteBucket bucket
  pure (.success (DeleteResponse.toDocument ⟨bucket, true⟩))

/-- Answers a request along its route; `provide` makes the service. -/
def answer (provide : Action Backend) : Route → Action Response
  | .greeting => pure (.success greeting)
  | .bucket name => do
    let backend ← provide
    answerDeletion backend name
  | .metadata bucket key => do
    let backend ← provide
    answerMetadata backend bucket key

/-- What becomes of a path that fits no route. -/
def stray (request : Request) : Response :=
  let path := request.path.toList
  if path = ['/'] then .notFound
  else match Route.ofChars? (Location.alternative path) with
    | some _ => .redirect (Location.address (Location.alternative path) request.query)
    | none => .notFound

/-- Answers a request. -/
def handle (provide : Action Backend) (request : Request) : Action Response :=
  match Route.ofPath? request.path with
  | none => pure (stray request)
  | some route =>
    if request.method = route.method.name then
      (answer provide route).recovering fun failure => pure (.ofFailure failure)
    else pure (.wrongMethod route)

/-- Answers a request with the service that the environment describes. -/
def serve (request : Request) : Action Response := handle Backend.ofEnvironment request

end App

end ZonalBucket.Http
