import ZonalBucket.Http.App
import ZonalBucket.Proofs.WrittenPaths

/-!
# What requests are answered with

A request along a route runs an operation of the service behind it, and what the
operation ends in decides the answer, `App.handle_metadata` and `App.handle_bucket`.
The request itself never fails: a failure of the operation is an answer too,
`Response.ofEnding`.

The service is made for each request, and making it leaves the world as it is.
-/

namespace ZonalBucket

/-- An environment from which a configuration can be made describes a service. -/
theorem Service.ofEnvironment_of_load {w : World} {config : Config}
    (h : Config.load w.environment = .ok config) :
    ofEnvironment w = (.ok { config := config }, w) := by
  have hloaded : Action.look (fun w => Config.load w.environment) w = (.ok (.ok config), w) := by
    rw [Action.look, h]
  rw [ofEnvironment, Action.bind_of_ok _ hloaded]
  rfl

/-- Any other environment describes none, and nothing happens.  The failure is the one
that loading ends in, with the variable that is at fault. -/
theorem Service.ofEnvironment_of_load_error {w : World} {failure : Failure}
    (h : Config.load w.environment = .error failure) :
    ofEnvironment w = (.error failure, w) := by
  have hloaded : Action.look (fun w => Config.load w.environment) w =
      (.ok (.error failure), w) := by
    rw [Action.look, h]
  rw [ofEnvironment, Action.bind_of_ok _ hloaded]
  rfl

namespace Http

/-- With a configuration in the environment the backend is the service for it, and
nothing is done to find it. -/
theorem Backend.ofEnvironment_of_load {w : World} {config : Config}
    (h : Config.load w.environment = .ok config) :
    ofEnvironment w = (.ok (.ofService { config := config }), w) := by
  rw [ofEnvironment, Action.bind_of_ok _ (Service.ofEnvironment_of_load h)]
  rfl

/-- Without one, the failure to load it is what a request fails with, also before
anything is done. -/
theorem Backend.ofEnvironment_of_load_error {w : World} {failure : Failure}
    (h : Config.load w.environment = .error failure) :
    ofEnvironment w = (.error failure, w) :=
  Action.bind_of_error _ (Service.ofEnvironment_of_load_error h)

/-- The answer that a request ends in. -/
def Response.ofEnding : Outcome Response → Response
  | .ok response => response
  | .error failure => ofFailure failure

namespace App

variable {provide : Action Backend} {backend : Backend} {bucket key : String} {w v : World}

/-- What a request for metadata ends in when the fetch ends so. -/
def metadataEnding (bucket key : String) : Outcome HeadResult → Outcome Response
  | .ok result => match foundIn result with
    | some m => .ok (.success (HeadResponse.toDocument ⟨bucket, key, m⟩))
    | none => .error (.reported (notFetched result.error))
  | .error failure => .error failure

/-- What a request to delete a bucket ends in when the deletion ends so. -/
def deletionEnding (bucket : String) (ending : Outcome Unit) : Outcome Response :=
  ending.map fun _ => .success (DeleteResponse.toDocument ⟨bucket, true⟩)

/-- The answer to a request for metadata is known from what the backend ends in, and
the world is the one that the backend left behind. -/
theorem answerMetadata_apply (backend : Backend) (bucket key : String) (w : World) :
    answerMetadata backend bucket key w =
      (metadataEnding bucket key (backend.headObject bucket key w).1,
        (backend.headObject bucket key w).2) := by
  rw [answerMetadata]
  cases hrun : backend.headObject bucket key w with
  | mk ending v =>
    cases ending with
    | error failure => exact Action.bind_of_error _ hrun
    | ok result =>
      rw [Action.bind_of_ok _ hrun, metadataEnding]
      cases foundIn result <;> rfl

theorem answerDeletion_apply (backend : Backend) (bucket : String) (w : World) :
    answerDeletion backend bucket w =
      (deletionEnding bucket (backend.deleteBucket bucket w).1,
        (backend.deleteBucket bucket w).2) := by
  rw [answerDeletion]
  cases hrun : backend.deleteBucket bucket w with
  | mk ending v =>
    cases ending with
    | error failure => exact Action.bind_of_error _ hrun
    | ok done =>
      rw [Action.bind_of_ok _ hrun]
      rfl

/-- **A request along a route does what the route asks for,** and its answer is what that
ends in. -/
theorem handle_route (provide : Action Backend) {request : Request} {route : Route}
    (hroute : Route.ofPath? request.path = some route)
    (hmethod : request.method = route.method.name) (w : World) :
    handle provide request w =
      (.ok (.ofEnding (answer provide route w).1), (answer provide route w).2) := by
  simp only [handle, hroute, if_pos hmethod]
  cases hrun : answer provide route w with
  | mk ending v =>
    cases ending with
    | ok response => exact Action.recovering_of_ok _ hrun
    | error failure => exact Action.recovering_of_error _ hrun

/-- A request for the written path of a route is answered by the route, if the method
is the one that the route takes. -/
theorem handle_path (provide : Action Backend) {route : Route} (hroute : route.Proper)
    (query : String) (w : World) :
    handle provide { method := route.method.name, path := route.path, query := query } w =
      (.ok (.ofEnding (answer provide route w).1), (answer provide route w).2) := by
  have hread : Route.ofPath? (⟨route.method.name, route.path, query⟩ : Request).path =
      some route := Route.ofPath?_path hroute
  exact handle_route provide hread rfl w

/-- A request for metadata is a fetch.  The bucket must be a name, but the key may be
anything without a line break, and empty as well. -/
theorem handle_metadata (hprovide : provide w = (.ok backend, v)) (hname : bucket ≠ "")
    (hslash : '/' ∉ bucket.toList) (hbreak : '\n' ∉ key.toList) (query : String) :
    handle provide ⟨"GET", s!"/directory-buckets/{bucket}/objects/{key}/metadata", query⟩ w =
      (.ok (.ofEnding (metadataEnding bucket key (backend.headObject bucket key v).1)),
        (backend.headObject bucket key v).2) := by
  have hroute : (Route.metadata bucket key).Proper := ⟨⟨hname, hslash⟩, hbreak⟩
  have hanswer : answer provide (.metadata bucket key) w = answerMetadata backend bucket key v :=
    Action.bind_of_ok _ hprovide
  have hrun := handle_path provide hroute query w
  rw [hanswer, answerMetadata_apply, Route.path_metadata] at hrun
  exact hrun

/-- A request to delete a bucket is a deletion, for any name without a slash.  The
query has no influence on it. -/
theorem handle_bucket (hprovide : provide w = (.ok backend, v)) (hname : bucket ≠ "")
    (hslash : '/' ∉ bucket.toList) (query : String) :
    handle provide ⟨"DELETE", s!"/directory-buckets/{bucket}", query⟩ w =
      (.ok (.ofEnding (deletionEnding bucket (backend.deleteBucket bucket v).1)),
        (backend.deleteBucket bucket v).2) := by
  have hroute : (Route.bucket bucket).Proper := ⟨hname, hslash⟩
  have hanswer : answer provide (.bucket bucket) w = answerDeletion backend bucket v :=
    Action.bind_of_ok _ hprovide
  have hrun := handle_path provide hroute query w
  rw [hanswer, answerDeletion_apply, Route.path_bucket] at hrun
  exact hrun

section Environment

variable {config : Config} (hconfig : Config.load w.environment = .ok config) {request : Request}

include hconfig

/-- A request that the metadata route accepts is a fetch. -/
theorem serve_of_metadata (hroute : Route.ofPath? request.path = some (.metadata bucket key))
    (hmethod : request.method = "GET") :
    serve request w =
      (.ok (.ofEnding (answerMetadata (.ofService { config := config }) bucket key w).1),
        (answerMetadata (.ofService { config := config }) bucket key w).2) := by
  have hanswer : answer Backend.ofEnvironment (.metadata bucket key) w =
      answerMetadata (.ofService { config := config }) bucket key w :=
    Action.bind_of_ok _ (Backend.ofEnvironment_of_load hconfig)
  rw [serve, handle_route _ hroute hmethod, hanswer]

/-- A request that the route of a bucket accepts is a deletion. -/
theorem serve_of_bucket (hroute : Route.ofPath? request.path = some (.bucket bucket))
    (hmethod : request.method = "DELETE") :
    serve request w =
      (.ok (.ofEnding (answerDeletion (.ofService { config := config }) bucket w).1),
        (answerDeletion (.ofService { config := config }) bucket w).2) := by
  have hanswer : answer Backend.ofEnvironment (.bucket bucket) w =
      answerDeletion (.ofService { config := config }) bucket w :=
    Action.bind_of_ok _ (Backend.ofEnvironment_of_load hconfig)
  rw [serve, handle_route _ hroute hmethod, hanswer]

end Environment

end App

end Http

end ZonalBucket
