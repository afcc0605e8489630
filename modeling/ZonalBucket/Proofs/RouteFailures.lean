import ZonalBucket.Proofs.FaultTexts
import ZonalBucket.Proofs.RouteAnswers
import ZonalBucket.Proofs.ServiceFailures

/-!
# Both routes report a fault alike

A fault reaches the answer on two ways.  A fetch makes a result of a refusal, and the
route an error of that result; a deletion fails with the refusal, and the service makes
the error; and a call that did not get through is reported by the service in both cases.
All of them give the answer `Response.ofFault`, which only the fault itself decides:
`App.routes_report_alike`.
-/

namespace ZonalBucket

/-- The code by which a fault is reported. -/
def Fault.code : Fault → String
  | refused fault => fault.detail.code
  | unreached fault => fault.kind.name

/-- The message by which a fault is reported. -/
def Fault.message : Fault → String
  | refused fault => fault.detail.message
  | unreached fault => fault.text

/-- No kind has the name of a code that says that something is missing. -/
theorem TransportKind.name_not_missing (kind : TransportKind) :
    kind.name ∉ ServiceError.notFoundCodes := by
  cases kind <;> decide

namespace Http

/-- The answer that reports a fault. -/
def Response.ofFault (fault : Fault) : Response where
  status := if fault.code ∈ ["NoSuchBucket", "NoSuchKey", "NotFound", "404"] then 404 else 502
  body := .json (.object [("detail", .text fault.message), ("code", .text fault.code)])

/-- An error with code and message of a fault is answered like the fault. -/
theorem Response.ofError_eq_ofFault {e : ServiceError} {fault : Fault}
    (hcode : e.code = fault.code) (hmessage : e.message = fault.message) :
    ofError e = ofFault fault := by
  simp only [ofError, ofFault, ServiceError.isNotFound, ServiceError.notFoundCodes,
    decide_eq_true_eq, hcode, hmessage]
  rfl

namespace App

variable {provide : Action Backend} {s t : Service} {bucket key : String} {w v : World}

/-- A fetch whose call fails with a fault is answered with it. -/
theorem metadataEnding_of_fault (fault : Fault) (hkey : key ≠ "") (hname : bucket ≠ "")
    (hclient : w.clientFailure = none)
    (hcall : w.outcomeOf (.headObject bucket key) = .error fault.failure) :
    Response.ofEnding (metadataEnding bucket key (s.headObject bucket key w).1) =
      .ofFault fault := by
  rw [s.headObject_outcome hname hkey, World.blockEnd_of_none hclient, hcall]
  cases fault with
  | refused fault => exact Response.ofError_eq_ofFault rfl rfl
  | unreached fault => exact Response.ofError_eq_ofFault rfl rfl

/-- A deletion whose call fails with a fault is answered with it. -/
theorem deletionEnding_of_fault (fault : Fault) (hname : bucket ≠ "")
    (hclient : w.clientFailure = none)
    (hcall : w.outcomeOf (.deleteBucket bucket) = .error fault.failure) :
    Response.ofEnding (deletionEnding bucket (s.deleteBucket bucket w).1) = .ofFault fault := by
  rw [s.deleteBucket_outcome hname, World.blockEnd_of_none hclient, hcall]
  cases fault with
  | refused fault => exact Response.ofError_eq_ofFault rfl rfl
  | unreached fault => exact Response.ofError_eq_ofFault rfl rfl

/-- **Both routes report a fault alike,** whatever services they work with.  A request for
metadata whose call fails with a fault and a request to delete a bucket whose call fails
with the same one have the same answer, which tells code and message of the fault.  It is
not found for the four codes of what is missing, also when the store gave the number 404,
and otherwise a bad gateway; a call that did not get through is always the latter.  A
refusal leaves neither code nor message empty. -/
theorem routes_report_alike (fault : Fault)
    (hservice : provide w = (.ok (.ofService s), w))
    (hother : provide v = (.ok (.ofService t), v))
    (hclient : w.clientFailure = none) (hclient' : v.clientFailure = none)
    (hfetch : w.outcomeOf (.headObject bucket key) = .error fault.failure)
    (hdeletion : v.outcomeOf (.deleteBucket bucket) = .error fault.failure)
    (hname : bucket ≠ "") (hslash : '/' ∉ bucket.toList)
    (hkey : key ≠ "") (hbreak : '\n' ∉ key.toList) (query query' : String) :
    let get : Request := ⟨"GET", s!"/directory-buckets/{bucket}/objects/{key}/metadata", query⟩
    let delete : Request := ⟨"DELETE", s!"/directory-buckets/{bucket}", query'⟩
    ∃ response : Response,
      (handle provide get w).1 = .ok response ∧
      (handle provide delete v).1 = .ok response ∧
      response.body =
        .json (.object [("detail", .text fault.message), ("code", .text fault.code)]) ∧
      response.status =
        (if fault.code ∈ ["NoSuchBucket", "NoSuchKey", "NotFound", "404"] then 404 else 502) ∧
      (∀ refusal, fault = .refused refusal → fault.code ≠ "" ∧ fault.message ≠ "" ∧
        (refusal.code = some (.int 404) → response.status = 404)) ∧
      (∀ unreached, fault = .unreached unreached → response.status = 502) := by
  intro get delete
  refine ⟨.ofFault fault, ?_, ?_, rfl, rfl, ?_, ?_⟩
  · rw [handle_metadata hservice hname hslash hbreak]
    exact congrArg Except.ok (metadataEnding_of_fault fault hkey hname hclient hfetch)
  · rw [handle_bucket hother hname hslash]
    exact congrArg Except.ok (deletionEnding_of_fault fault hname hclient' hdeletion)
  · rintro refusal rfl
    refine ⟨refusal.detail_code_ne_empty, refusal.detail_message_ne_empty, fun hnumber => ?_⟩
    -- A code that is a number is shown by its digits.
    have hcode : (Fault.refused refusal).code = "404" := by
      rw [Fault.code, ServiceFault.detail, hnumber]
      rfl
    simp [Response.ofFault, hcode]
  · rintro fault rfl
    exact if_neg fault.kind.name_not_missing

/-- A refusal with the number 404 for a code and without a message, laid down for both
calls. -/
theorem routes_report_alike_number :
    let refusal : ServiceFault := ⟨some (.int 404), none, none, "HeadObject"⟩
    let script : Script := fun slot =>
      if slot = .headObject ∨ slot = .deleteBucket then [.fail (.refused refusal)] else []
    let w : World := { script := script }
    ∃ response : Response,
      (serve ⟨"GET", "/directory-buckets/b/objects/k/x/metadata", ""⟩ w).1 =
        .ok response ∧
      (serve ⟨"DELETE", "/directory-buckets/b", ""⟩ w).1 = .ok response ∧
      response.status = 404 := by
  intro refusal script w
  have hservice := Backend.ofEnvironment_of_load (w := w) Config.load_unset
  have hfetch : w.outcomeOf (.headObject "b" "k/x") = .error (Fault.refused refusal).failure := rfl
  have hdeletion : w.outcomeOf (.deleteBucket "b") = .error (Fault.refused refusal).failure := rfl
  obtain ⟨response, hget, hdelete, -, -, hrefused, -⟩ :=
    routes_report_alike (.refused refusal) hservice hservice rfl rfl hfetch hdeletion
      (by decide) (by decide) (by decide) (by decide) "" ""
  exact ⟨response, hget, hdelete, (hrefused refusal rfl).2.2 rfl⟩

end App

end Http

end ZonalBucket
