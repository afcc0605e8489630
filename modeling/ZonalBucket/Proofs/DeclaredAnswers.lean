import ZonalBucket.Proofs.StoreView

/-!
# Declared answers

The routes of the buckets declare what they answer: what was asked for, or message and code
of an error, where the status tells whether something was missing, `Response.Declared`.

Where nothing is laid down, a request that such a route accepts gets a declared answer, with
one exception: a route accepts an empty key, but the service refuses it, and this is an
internal error, `App.serve_declared_iff`.
-/

namespace ZonalBucket.Http

namespace Response

/-- The answers that a route of the buckets declares. -/
inductive Declared : Route → Response → Prop
  /-- The metadata of the object. -/
  | metadata (bucket key : String) (m : Metadata) :
    Declared (.metadata bucket key) (success (HeadResponse.toDocument ⟨bucket, key, m⟩))
  /-- The name of the bucket that was deleted. -/
  | deletion (bucket : String) :
    Declared (.bucket bucket) (success (DeleteResponse.toDocument ⟨bucket, true⟩))
  /-- What went wrong on the store's side. -/
  | error (route : Route) (message code : String) (hmessage : message ≠ "") (hcode : code ≠ "") :
    Declared route (failed (if code ∈ ServiceError.notFoundCodes then 404 else 502) message code)

namespace Declared

variable {route : Route} {response : Response}

/-- The declared answers have three statuses between them. -/
theorem status (h : Declared route response) :
    response.status = 200 ∨ response.status = 404 ∨ response.status = 502 := by
  cases h with
  | metadata bucket key m => exact .inl rfl
  | deletion bucket => exact .inl rfl
  | error _ message code _ _ =>
    by_cases hcode : code ∈ ServiceError.notFoundCodes
    · exact .inr (.inl (if_pos hcode))
    · exact .inr (.inr (if_neg hcode))

/-- A refusal is answered with an error as it is declared. -/
theorem of_refused (route : Route) (fault : ServiceFault) :
    Declared route (ofFault (.refused fault)) :=
  error route _ _ fault.detail_message_ne_empty fault.detail_code_ne_empty

/-- An answer to a failure that no handler takes is none of the declared ones,
whatever the failure was. -/
theorem not_crash (failure : Failure) : ¬Declared route (crash failure) := fun h => by
  simpa [crash] using h.status

theorem not_wrongMethod (other : Route) : ¬Declared route (wrongMethod other) := fun h => by
  simpa [wrongMethod] using h.status

end Declared

end Response

namespace App

variable {w : World} {config : Config} {bucket key : String}

/-- A fetch is answered as it is declared, as long as nothing is laid down and neither
name nor key is empty.  These two are turned away as errors of the program. -/
theorem metadataEnding_declared (s : Service) (hempty : w.script = Script.empty)
    (hname : bucket ≠ "") (hkey : key ≠ "") :
    Response.Declared (.metadata bucket key)
      (.ofEnding (metadataEnding bucket key (s.headObject bucket key w).1)) := by
  rw [metadataEnding_of_empty s hempty hname hkey]
  cases hfound : w.store.get? bucket with
  | none => exact .of_refused _ (Store.noSuchBucket "HeadObject")
  | some found =>
    cases hobject : found.get? key with
    | none =>
      simp only [hobject]
      exact .of_refused _ Store.noSuchObject
    | some object =>
      simp only [hobject]
      exact .metadata bucket key object.metadata

/-- A deletion is answered as it is declared.  Only the name of the bucket has to be
given, and a path has always one. -/
theorem deletionEnding_declared (s : Service) (hempty : w.script = Script.empty)
    (hname : bucket ≠ "") :
    Response.Declared (.bucket bucket)
      (.ofEnding (deletionEnding bucket (s.deleteBucket bucket w).1)) := by
  have hclient := World.clientFailure_of_empty hempty
  cases hfound : w.store.get? bucket with
  | none =>
    have hcall := World.outcomeOf_deleteBucket_of_none hempty hfound
    rw [deletionEnding_of_fault _ hname hclient hcall]
    exact .of_refused _ _
  | some found =>
    cases hobjects : found.isEmpty with
    | false =>
      have hcall := World.outcomeOf_deleteBucket_of_objects hempty hfound hobjects
      rw [deletionEnding_of_fault _ hname hclient hcall]
      exact .of_refused _ _
    | true =>
      rw [deletionEnding_of_empty s hempty hname hfound hobjects]
      exact .deletion bucket

/-- The service refuses an empty key before it does anything. -/
theorem answerMetadata_of_noKey (s : Service) (hname : bucket ≠ "") :
    answerMetadata (.ofService s) bucket "" w = (.error (.emptyArgument .key), w) := by
  have hrefused : s.headObject bucket "" w = (.error (.emptyArgument .key), w) := by
    rw [Service.headObject, if_neg hname, if_pos rfl]
    rfl
  exact Action.bind_of_error _ hrefused

section Requests

variable (hconfig : Config.load w.environment = .ok config) {request : Request}

include hconfig

/-- A request without a key is an internal error, and nothing else happens. -/
theorem serve_of_noKey (hroute : Route.ofPath? request.path = some (.metadata bucket ""))
    (hmethod : request.method = "GET") :
    serve request w = (.ok (.crash (.emptyArgument .key)), w) := by
  have hname : bucket ≠ "" := (Route.proper_of_ofPath? hroute).1.1
  rw [serve_of_metadata hconfig hroute hmethod, answerMetadata_of_noKey _ hname]
  rfl

end Requests

/-- **A request that a route of the buckets accepts gets a declared answer, unless it has no
key.**  Nothing is laid down, and the environment describes a configuration.  The request
itself never fails.  Its answer is declared exactly when it has the method of its route and,
if it is one for metadata, a key that is not empty.  Without a key it is an internal error
behind which stands the refusal of the service, and nothing has happened. -/
theorem serve_declared_iff (hempty : w.script = Script.empty)
    (hconfig : Config.load w.environment = .ok config) {request : Request} {route : Route}
    (hroute : Route.ofPath? request.path = some route) (hbuckets : route ≠ .greeting) :
    ∃ response : Response, (serve request w).1 = .ok response ∧
      (response.Declared route ↔
        request.method = route.method.name ∧ ∀ bucket, route ≠ .metadata bucket "") ∧
      (request.method ≠ route.method.name → response = .wrongMethod route) ∧
      (∀ bucket, request.method = "GET" → route = .metadata bucket "" →
        response = .crash (.emptyArgument .key) ∧ (serve request w).2 = w) := by
  by_cases hmethod : request.method = route.method.name
  · cases route with
    | greeting => exact absurd rfl hbuckets
    | bucket name =>
      have hname : name ≠ "" := (Route.proper_of_ofPath? hroute).1
      have hserve := serve_of_bucket hconfig hroute hmethod
      rw [answerDeletion_apply] at hserve
      refine ⟨_, congrArg Prod.fst hserve, ?_, fun hother => absurd hmethod hother, ?_⟩
      · have hdeclared := deletionEnding_declared { config := config } hempty hname
        exact iff_of_true hdeclared ⟨hmethod, fun _ heq => nomatch heq⟩
      · intro bucket _ heq
        cases heq
    | metadata name key =>
      have hname : name ≠ "" := (Route.proper_of_ofPath? hroute).1.1
      -- The route takes an empty key, which the service refuses.
      by_cases hkey : key = ""
      · subst hkey
        have hserve := serve_of_noKey hconfig hroute hmethod
        refine ⟨_, congrArg Prod.fst hserve, ?_, fun hother => absurd hmethod hother, ?_⟩
        · refine iff_of_false (Response.Declared.not_crash _) ?_
          rintro ⟨-, hproper⟩
          exact hproper name rfl
        · intro bucket _ _
          exact ⟨rfl, congrArg Prod.snd hserve⟩
      · have hserve := serve_of_metadata hconfig hroute hmethod
        rw [answerMetadata_apply] at hserve
        refine ⟨_, congrArg Prod.fst hserve, ?_, fun hother => absurd hmethod hother, ?_⟩
        · have hdeclared := metadataEnding_declared { config := config } hempty hname hkey
          refine iff_of_true hdeclared ⟨hmethod, fun bucket heq => ?_⟩
          cases heq
          exact hkey rfl
        · intro bucket _ heq
          cases heq
          exact absurd rfl hkey
  · have hserve : serve request w = (.ok (.wrongMethod route), w) := by
      simp only [serve, handle, hroute, if_neg hmethod]
      rfl
    refine ⟨_, congrArg Prod.fst hserve, ?_, fun _ => rfl, ?_⟩
    · refine iff_of_false (Response.Declared.not_wrongMethod _) ?_
      rintro ⟨hsame, -⟩
      exact hmethod hsame
    · rintro bucket hget rfl
      exact absurd hget hmethod

/-- A fetch of an object whose key has a slash in it, from a store without buckets. -/
theorem serve_declared_iff_noBucket :
    let request : Request := ⟨"GET", "/directory-buckets/b/objects/deep/k/metadata", ""⟩
    Route.ofPath? request.path = some (.metadata "b" "deep/k") ∧
      ∃ response, (serve request {}).1 = .ok response ∧
        response.Declared (.metadata "b" "deep/k") := by
  intro request
  have hroute : Route.ofPath? request.path = some (.metadata "b" "deep/k") := by decide
  obtain ⟨response, hanswer, hdeclared, -, -⟩ :=
    serve_declared_iff (w := {}) rfl Config.load_unset hroute (by simp)
  have hkey : ∀ bucket, Route.metadata "b" "deep/k" ≠ Route.metadata bucket "" := by simp
  exact ⟨hroute, response, hanswer, hdeclared.2 ⟨rfl, hkey⟩⟩

/-- The route for metadata accepts an empty key, and the answer is not a declared one. -/
theorem serve_undeclared_noKey :
    let request : Request := ⟨"GET", "/directory-buckets/b/objects//metadata", ""⟩
    Route.ofPath? request.path = some (.metadata "b" "") ∧
      request.method = (Route.metadata "b" "").method.name ∧
      (serve request {}).1 = .ok (.crash (.emptyArgument .key)) ∧
      ¬Response.Declared (.metadata "b" "") (.crash (.emptyArgument .key)) := by
  intro request
  have hroute : Route.ofPath? request.path = some (.metadata "b" "") := by decide
  have hserve := serve_of_noKey (w := {}) Config.load_unset hroute rfl
  exact ⟨hroute, rfl, congrArg Prod.fst hserve, Response.Declared.not_crash _⟩

end App

end ZonalBucket.Http
