import ZonalBucket.Proofs.FaultTexts
import ZonalBucket.Proofs.RouteAnswers
import ZonalBucket.Proofs.ServiceFailures

/-!
# Results of a fetch are consistent

A result has room for more than a fetch can find out: it could have been found without
metadata, or not found without an error.  What a fetch ends in is of one of two forms only,
`HeadResult.Consistent`: metadata and no error, or an error with code and message and no
metadata.  This is so for the operation, `Inspection.fetch_consistent`, and for the service,
`Service.headObject_consistent`, whatever the store holds and whatever is laid down.

The metadata route has a case for results of neither form, and it never comes to that,
`Http.App.metadata_consistent`.

Which metadata is found in an answer is `Metadata.ReadFrom`; an answer never becomes an
error that is part of a result.
-/

namespace ZonalBucket

namespace Checked

variable {α β : Type}

/-- One more field is read when both sides are.  Reading stops at the first field that
does not fit, so that no side alone is enough. -/
theorem andField_eq_ok_iff {f? : Checked (α → β)} {a? : Checked α} {b : β} :
    f?.andField a? = .ok b ↔ ∃ f a, f? = .ok f ∧ a? = .ok a ∧ f a = b := by
  cases f? with
  | error earlier => cases a? <;> simp [andField]
  | ok f => cases a? <;> simp [andField]

end Checked

/-- A model that can be used was read without issues. -/
theorem Failure.ofChecked_eq_ok_iff {α : Type} {model : Model} {read : Checked α} {a : α} :
    Failure.ofChecked model read = .ok a ↔ read = .ok a := by
  cases read <;> simp [Failure.ofChecked]

namespace Field

variable {α : Type} {read : Document → Checked α} {fields : Fields} {name : String}
  {d : Document}

/-- What a value that need not be there gives: nothing where nothing stands, and what is
read from it otherwise. -/
def Gives (read : Document → Checked α) (d : Document) : Option α → Prop
  | none => d = .null
  | some a => d ≠ .null ∧ read d = .ok a

/-- An optional field is read from a document that is there as its form says: it is
missing when the document is null, and otherwise what its reader makes of it. -/
theorem optional_eq_ok_iff (h : fields.lookup name = some d) {a? : Option α} :
    optional name read fields = .ok a? ↔ Gives read d a? := by
  by_cases hnull : d = .null
  · subst hnull
    cases a? <;> simp [optional, h, Gives]
  · have hread : optional name read fields = Checked.inside name ((read d).map some) := by
      rw [optional, h]
      cases d <;> first | rfl | exact absurd rfl hnull
    rw [hread]
    cases hvalue : read d <;> cases a? <;>
      simp [Checked.inside, Except.map, Gives, hnull, hvalue]

end Field

/-- Metadata that an answer with these fields tells. -/
structure Metadata.ReadFrom (fields : Fields) (m : Metadata) : Prop where
  etag : Field.Gives Field.text (Page.fieldOr fields "ETag" .null) m.etag
  contentType : Field.Gives Field.text (Page.fieldOr fields "ContentType" .null) m.contentType
  contentLength : Field.Gives Field.int (Page.fieldOr fields "ContentLength" .null) m.contentLength
  lastModified : Field.Gives Field.time (Page.fieldOr fields "LastModified" .null) m.lastModified

/-- Metadata is read when its fields are, each one by its own reader and none of them
with regard to another one. -/
theorem Metadata.ofFields_eq_ok_iff {fields : Fields} {m : Metadata} :
    ofFields fields = .ok m ↔
      Field.optional "etag" Field.text fields = .ok m.etag ∧
      Field.optional "content_type" Field.text fields = .ok m.contentType ∧
      Field.optional "content_length" Field.int fields = .ok m.contentLength ∧
      Field.optional "last_modified" Field.time fields = .ok m.lastModified := by
  simp only [ofFields, Checked.andField_eq_ok_iff, Except.ok.injEq]
  constructor
  · rintro ⟨_, _, ⟨_, _, ⟨_, _, ⟨_, _, rfl, hetag, rfl⟩, htype, rfl⟩, hlength, rfl⟩, htime, rfl⟩
    exact ⟨hetag, htype, hlength, htime⟩
  · rintro ⟨hetag, htype, hlength, htime⟩
    exact ⟨_, _, ⟨_, _, ⟨_, _, ⟨_, _, rfl, hetag, rfl⟩, htype, rfl⟩, hlength, rfl⟩, htime, rfl⟩

/-- **Which metadata an answer tells** is known field by field.  An answer has to be
an object, and all of its fields that count have to fit. -/
theorem Metadata.ofReply_eq_ok_iff {answer : Document} {m : Metadata} :
    ofReply answer = .ok m ↔ ∃ fields, answer = .object fields ∧ m.ReadFrom fields := by
  cases answer with
  | object fields =>
    have hread : ofReply (.object fields) = .ok m ↔ m.ReadFrom fields := by
      simp only [ofReply, Document.needFields]
      rw [Failure.ofChecked_eq_ok_iff, ofFields_eq_ok_iff, Field.optional_eq_ok_iff rfl,
        Field.optional_eq_ok_iff rfl, Field.optional_eq_ok_iff rfl, Field.optional_eq_ok_iff rfl]
      constructor
      · rintro ⟨hetag, htype, hlength, htime⟩
        exact ⟨hetag, htype, hlength, htime⟩
      · intro h
        exact ⟨h.etag, h.contentType, h.contentLength, h.lastModified⟩
    simp [hread]
  | _ => simp [ofReply, Document.needFields]

/-- The forms that the result of a fetch has: metadata, or an error. -/
inductive HeadResult.Consistent (bucket key : String) : HeadResult → Prop
  | found (m : Metadata) : Consistent bucket key ⟨bucket, key, true, some m, none⟩
  | failed (detail : ErrorDetail) (hcode : detail.code ≠ "") (hmessage : detail.message ≠ "") :
    Consistent bucket key ⟨bucket, key, false, none, some detail⟩

/-- A result of these forms counts as true when it has metadata. -/
theorem HeadResult.Consistent.isTruthy {bucket key : String} {result : HeadResult}
    (h : Consistent bucket key result) : result.isTruthy = result.metadata.isSome := by
  cases h <;> rfl

open HeadResult (Consistent)

namespace Inspection

variable {source : Source} {bucket key : String} {result : HeadResult} {w : World}

/-- What an answer is made into has been found.  There is no answer that gives a
result of the other form; one that does not fit fails. -/
theorem fetched_of_answer {answer : Document}
    (h : fetched bucket key (.ok answer) = .ok result) :
    ∃ fields m, answer = .object fields ∧ m.ReadFrom fields ∧
      result = ⟨bucket, key, true, some m, none⟩ := by
  cases hread : Metadata.ofReply answer with
  | error failure => simp [fetched, hread, Except.map] at h
  | ok m =>
    obtain ⟨fields, hfields, hm⟩ := Metadata.ofReply_eq_ok_iff.1 hread
    rw [fetched, hread] at h
    exact ⟨fields, m, hfields, hm, (Except.ok.inj h).symm⟩

/-- Whatever a call comes to, what a fetch makes of it is consistent; a failure that
is passed on is no result at all. -/
theorem fetched_consistent {ending : Outcome Document}
    (h : fetched bucket key ending = .ok result) : Consistent bucket key result := by
  cases ending with
  | ok answer =>
    obtain ⟨fields, m, -, -, rfl⟩ := fetched_of_answer h
    exact .found m
  | error failure =>
    cases failure with
    | refused fault =>
      cases h
      exact .failed fault.detail fault.detail_code_ne_empty fault.detail_message_ne_empty
    | _ => cases h

/-- **A fetch ends in a consistent result,** if in one at all: with metadata and no
error when it found the object, and the other way round when it did not. -/
theorem fetch_consistent (h : (fetch source bucket key w).1 = .ok result) :
    Consistent bucket key result := by
  rw [fetch_outcome] at h
  exact fetched_consistent h

end Inspection

namespace Service

variable {s : Service} {bucket key : String} {result : HeadResult} {w : World}

/-- A result of the service is one of the fetch in its client block. -/
theorem headObject_eq_ok (h : (s.headObject bucket key w).1 = .ok result) :
    Inspection.fetched bucket key (w.outcomeOf (.headObject bucket key)) = .ok result := by
  by_cases hbucket : bucket = ""
  · rw [headObject, if_pos hbucket] at h
    cases h
  by_cases hkey : key = ""
  · rw [headObject, if_neg hbucket, if_pos hkey] at h
    cases h
  rw [s.headObject_outcome hbucket hkey, World.blockEnd] at h
  cases hclient : w.clientFailure with
  | some failure =>
    rw [hclient] at h
    cases failure <;> cases h
  | none =>
    simp only [hclient] at h
    cases hinner : Inspection.fetched bucket key (w.outcomeOf (.headObject bucket key)) with
    | ok found =>
      rw [hinner] at h
      exact h
    | error failure =>
      rw [hinner] at h
      cases failure <;> cases h

/-- **The service ends in a consistent result,** if in one at all.  What it adds to a
fetch are checks in front of it and other failures, but no results. -/
theorem headObject_consistent (h : (s.headObject bucket key w).1 = .ok result) :
    Consistent bucket key result :=
  Inspection.fetched_consistent (headObject_eq_ok h)

end Service

namespace Http.App

variable {s : Service} {bucket key : String} {w : World}

/-- The route always has metadata or an error to go on with. -/
theorem foundIn_of_consistent {result : HeadResult} (h : Consistent bucket key result) :
    (∃ m, foundIn result = some m) ∨ ∃ detail, result.error = some detail := by
  cases h with
  | found m => exact .inl ⟨m, rfl⟩
  | failed detail => exact .inr ⟨detail, rfl⟩

/-- No failure is answered with success.  It is answered with the status for what is
missing, or for a fault behind the service, or by the server for what nobody handles. -/
theorem status_ofFailure_ne (failure : Failure) : (Response.ofFailure failure).status ≠ 200 := by
  cases failure with
  | reported e =>
    simp only [Response.ofFailure, Response.ofError]
    split <;> decide
  | _ => simp [Response.ofFailure, Response.crash]

/-- Of consistent results the route answers those with success that have metadata. -/
theorem status_eq_success_iff {ending : Outcome HeadResult}
    (h : ∀ result, ending = .ok result → Consistent bucket key result) :
    (Response.ofEnding (metadataEnding bucket key ending)).status = 200 ↔
      ∃ m, ending = .ok ⟨bucket, key, true, some m, none⟩ := by
  cases ending with
  | error failure =>
    refine iff_of_false (status_ofFailure_ne failure) ?_
    rintro ⟨m, hm⟩
    cases hm
  | ok result =>
    cases h result rfl with
    | found m => exact iff_of_true rfl ⟨m, rfl⟩
    | failed detail =>
      refine iff_of_false (status_ofFailure_ne _) ?_
      rintro ⟨m, hm⟩
      cases hm

/-- **Results of a fetch are consistent, and the metadata route never falls back.**  Whatever
the store holds and whatever is laid down, the operation and the service end in a result of
one of two forms, for the bucket and the key that were asked for, or they fail.  So a result
counts as true when it has metadata, and one without metadata has an error for the route to
fail with.  The route answers with success exactly when metadata was found.  An answer that
is laid down for the call gives the metadata that it tells, or a failure. -/
theorem metadata_consistent (s : Service) (source : Source) (bucket key : String) (w : World) :
    let fetch := (Inspection.fetch source bucket key w).1
    let fetched := (s.headObject bucket key w).1
    let answered := (answerMetadata (.ofService s) bucket key w).1
    (∀ result, fetch = .ok result ∨ fetched = .ok result →
      Consistent bucket key result ∧ result.isTruthy = result.metadata.isSome) ∧
    (∀ result, fetched = .ok result → foundIn result = none → result.error ≠ none) ∧
    (∀ m, fetched = .ok ⟨bucket, key, true, some m, none⟩ →
      answered = .ok (.success (HeadResponse.toDocument ⟨bucket, key, m⟩))) ∧
    (∀ detail, fetched = .ok ⟨bucket, key, false, none, some detail⟩ →
      answered = .error (.reported {
        code := detail.code, message := detail.message, operation := some "HeadObject" })) ∧
    (∀ failure, fetched = .error failure → answered = .error failure) ∧
    (∀ request, Config.load w.environment = .ok s.config → s.source = .service →
      Route.ofPath? request.path = some (.metadata bucket key) → request.method = "GET" →
      (serve request w).1 = .ok (.ofEnding answered) ∧
      ((Response.ofEnding answered).status = 200 ↔
        ∃ m, fetched = .ok ⟨bucket, key, true, some m, none⟩)) ∧
    ∀ answer, w.nextAnswer .headObject = .reply answer →
      (∀ m, fetch = .ok ⟨bucket, key, true, some m, none⟩ ↔
        ∃ fields, answer = .object fields ∧ m.ReadFrom fields) ∧
      ∀ result, fetch = .ok result ∨ fetched = .ok result →
        ∃ fields m, answer = .object fields ∧ m.ReadFrom fields ∧
          result = ⟨bucket, key, true, some m, none⟩ := by
  intro fetch fetched answered
  have hfetch : fetch = Inspection.fetched bucket key (w.outcomeOf (.headObject bucket key)) :=
    Inspection.fetch_outcome source bucket key w
  -- What the service gives as a result is what the fetch in its client block gave.
  have hresults : ∀ result, fetch = .ok result ∨ fetched = .ok result →
      Inspection.fetched bucket key (w.outcomeOf (.headObject bucket key)) = .ok result := by
    rintro result (h | h)
    · exact hfetch.symm.trans h
    · exact Service.headObject_eq_ok h
  have hconsistent : ∀ result, fetched = .ok result → Consistent bucket key result :=
    fun result h => Service.headObject_consistent h
  have hanswered : answered = metadataEnding bucket key fetched :=
    congrArg Prod.fst (answerMetadata_apply (.ofService s) bucket key w)
  refine ⟨fun result h => ?_, fun result h hnone herror => ?_, fun m h => ?_, fun detail h => ?_,
    fun failure h => ?_, fun request hconfig hsource hroute hmethod => ⟨?_, ?_⟩,
    fun answer hnext => ⟨fun m => ?_, fun result h => ?_⟩⟩
  · have hform : Consistent bucket key result :=
      h.elim Inspection.fetch_consistent Service.headObject_consistent
    exact ⟨hform, hform.isTruthy⟩
  · rcases foundIn_of_consistent (hconsistent result h) with ⟨m, hfound⟩ | ⟨detail, hfailed⟩
    · rw [hnone] at hfound
      cases hfound
    · rw [herror] at hfailed
      cases hfailed
  · rw [hanswered, h]
    rfl
  · rw [hanswered, h]
    rfl
  · rw [hanswered, h]
    rfl
  · have hservice : s = { config := s.config } := by
      cases s
      cases hsource
      rfl
    rw [serve_of_metadata hconfig hroute hmethod, ← hservice]
  · rw [hanswered]
    exact status_eq_success_iff hconsistent
  · rw [hfetch, World.outcomeOf_of_reply hnext, Inspection.fetched, ← Metadata.ofReply_eq_ok_iff]
    cases Metadata.ofReply answer <;> simp [Except.map, Inspection.foundResult]
  · have hresult := hresults result h
    rw [World.outcomeOf_of_reply hnext] at hresult
    exact Inspection.fetched_of_answer hresult

/-- An answer is laid down that tells the type of the content, its length as a text, and
nothing for a tag. -/
theorem metadata_consistent_answer :
    let answer : Document := .object [("ETag", .null), ("ContentType", .text "text/plain"),
      ("ContentLength", .text " 12 ")]
    let script : Script := fun slot => if slot = .headObject then [.reply answer] else []
    let w : World := { script := script }
    let s : Service := { config := { region := "us-west-2", zone := "usw2-az1" } }
    let request : Request := ⟨"GET", "/directory-buckets/b/objects/k/metadata", ""⟩
    ∃ m : Metadata, (s.headObject "b" "k" w).1 = .ok ⟨"b", "k", true, some m, none⟩ ∧
      m = { contentType := some "text/plain", contentLength := some 12 } ∧
      ∃ response, (serve request w).1 = .ok response ∧ response.status = 200 := by
  intro answer script w s request
  have hroute : Route.ofPath? request.path = some (.metadata "b" "k") := by decide
  have hnext : w.nextAnswer .headObject = .reply answer := rfl
  have hfetched : (s.headObject "b" "k" w).1 = .ok ⟨"b", "k", true,
      some { contentType := some "text/plain", contentLength := some 12 }, none⟩ := by
    rw [s.headObject_outcome (by decide) (by decide), World.outcomeOf_of_reply hnext]
    rfl
  obtain ⟨-, -, -, -, -, hserve, -⟩ := metadata_consistent s .service "b" "k" w
  obtain ⟨hanswer, hstatus⟩ := hserve request Config.load_unset rfl hroute rfl
  exact ⟨_, hfetched, rfl, _, hanswer, hstatus.2 ⟨_, hfetched⟩⟩

end Http.App

end ZonalBucket
