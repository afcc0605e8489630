import ZonalBucket.Proofs.ConsistentResults
import ZonalBucket.Proofs.WrittenTimes

/-!
# Document forms are read back

A model accepts more documents than it writes: numbers come as texts, truth values as words,
time stamps as counts or in many spellings.  What was read has one document form, and from
that the same value is read again, `ModelValue.nested_toDocument`.  A form has all the fields of
its model, and each is a value that reads as itself; only a time stamp is written as a
text, and that is read back when its offset is of whole minutes.

`Document.Yields` says which time stamps can come out of a document at all: those in whole
minutes, however they were written, and those that it holds as such.  So only a time stamp
that was handed over with another offset would be lost.

The body of a successful answer with metadata is such a form, `Http.App.served_of_success`,
and the metadata in it comes from an answer that was laid down or from the store,
`Inspection.wholeMinutes_of_fetched`.
-/

namespace ZonalBucket

/-- The time stamp stands somewhere in the document. -/
inductive Document.Holds (t : Timestamp) : Document → Prop
  | time : Holds t (.time t)
  | item {items : List Document} {d : Document} (hmem : d ∈ items) (h : Holds t d) :
    Holds t (.list items)
  | field {fields : Fields} {name : String} {d : Document} (hmem : (name, d) ∈ fields)
    (h : Holds t d) : Holds t (.object fields)

/-- The time stamps that may be read from a document. -/
def Document.Yields (d : Document) (t : Timestamp) : Prop := d.Holds t ∨ t.WholeMinutes

/-- What a field yields, its object yields.  Of two fields with one name the first one
counts, as in looking up. -/
theorem Document.Yields.field {fields : Fields} {name : String} {d : Document} {t : Timestamp}
    (hfound : fields.lookup name = some d) (h : d.Yields t) : (object fields).Yields t :=
  h.imp_left fun hd => .field (mem_of_lookup hfound) hd

/-- What a reading is made into comes from what was read. -/
theorem Checked.map_eq_ok_iff {α β : Type} {f : α → β} {a? : Checked α} {b : β} :
    a?.map f = .ok b ↔ ∃ a, a? = .ok a ∧ f a = b := by
  cases a? <;> simp [Except.map]

namespace Field

variable {α : Type} {read : Document → Checked α} {fields : Fields} {name : String}
  {d : Document} {a : α}

/-- A required field is read exactly when it is there and its reader takes it.  A
field that is null is there, and is left to its reader. -/
theorem required_eq_ok_iff :
    required name read fields = .ok a ↔ ∃ d, fields.lookup name = some d ∧ read d = .ok a := by
  cases hfound : fields.lookup name with
  | none => simp [required, hfound]
  | some d => cases hread : read d <;> simp [required, hfound, hread, Checked.inside]

/-- A value that may be missing is read back when it is when it is there. -/
theorem optional_of_form {form : α → Document} {a? : Option α}
    (hfound : fields.lookup name = some (optionDocument form a?))
    (hread : ∀ a, a? = some a → form a ≠ .null ∧ read (form a) = .ok a) :
    optional name read fields = .ok a? := by
  rw [optional_eq_ok_iff hfound]
  cases a? with
  | none => rfl
  | some a => exact hread a rfl

/-- What an optional field gave came from a document that is there. -/
theorem exists_of_optional (h : optional name read fields = .ok (some a)) :
    ∃ d, fields.lookup name = some d ∧ read d = .ok a := by
  cases hfound : fields.lookup name with
  | none => simp [optional, hfound] at h
  | some d => exact ⟨d, rfl, ((optional_eq_ok_iff hfound).1 h).2⟩

section Time

variable {t : Timestamp}

/-- A number that gave a time stamp did so by itself; the faults of numbers are only
told in other words. -/
theorem eq_ok_of_timeOfNumber {outcome : Except TimeFault Timestamp}
    (h : timeOfNumber outcome = .ok t) : outcome = .ok t := by
  cases outcome with
  | ok found => exact congrArg Except.ok (Except.ok.inj h)
  | error fault => cases h

/-- A time stamp that was counted has no offset but that of universal time, which is
of whole minutes. -/
theorem wholeMinutes_of_timeOfInt {n : Int} (h : timeOfInt n = .ok t) : t.WholeMinutes := by
  rw [timeOfInt] at h
  by_cases hfinite : (Binary.ofInt n).isFinite = true
  · rw [if_pos hfinite] at h
    exact Timestamp.wholeMinutes_of_count (eq_ok_of_timeOfNumber h)
  · rw [if_neg hfinite] at h
    cases h

/-- The same for a count with a fraction, as far as it is finite. -/
theorem wholeMinutes_of_timeOfBinary {x? : Option Binary} (h : timeOfBinary x? = .ok t) :
    t.WholeMinutes := by
  cases x? with
  | some x => exact Timestamp.wholeMinutes_of_binary (eq_ok_of_timeOfNumber h)
  | none => cases h

/-- A text can give an offset of its own, but only in hours and minutes. -/
theorem wholeMinutes_of_timeOfText {s : String} (h : timeOfText s = .ok t) :
    t.WholeMinutes := by
  rw [timeOfText] at h
  split at h
  · rename_i found hread
    cases h
    exact Timestamp.wholeMinutes_of_read hread
  · cases h
  · cases h

/-- **A document yields the time stamp that is read from it.**  So nothing but what is
in the document is read, which bounds the offsets that can turn up. -/
theorem yields_of_time (h : time d = .ok t) : d.Yields t := by
  cases d with
  | time given =>
    cases h
    exact .inl .time
  | int n => exact .inr (wholeMinutes_of_timeOfInt h)
  | float x =>
    -- by its equations, as the nearest binary number is too large a term to be opened
    rw [time, timeOfFloat] at h
    exact .inr (wholeMinutes_of_timeOfBinary h)
  | text s => exact .inr (wholeMinutes_of_timeOfText h)
  | _ => cases h

/-- A written time stamp is read back, down to its microseconds.  Only an offset with
seconds is written in a form that the reader does not take. -/
theorem time_iso (h : t.WholeMinutes) : time (.text t.iso) = .ok t := by
  rw [time, timeOfText, Timestamp.read_iso h]

end Time

end Field

namespace Metadata

variable {fields : Fields} {d : Document} {m : Metadata} {t : Timestamp}

/-- A time stamp that metadata got is yielded by the document that the metadata was
read from. -/
theorem yields_of_ofFields (h : ofFields fields = .ok m) (ht : m.lastModified = some t) :
    (Document.object fields).Yields t := by
  obtain ⟨-, -, -, htime⟩ := ofFields_eq_ok_iff.1 h
  rw [ht] at htime
  obtain ⟨d, hfound, hread⟩ := Field.exists_of_optional htime
  exact (Field.yields_of_time hread).field hfound

theorem yields_of_nested (h : Field.nested ofFields d = .ok m) (ht : m.lastModified = some t) :
    d.Yields t := by
  cases d with
  | object fields => exact yields_of_ofFields h ht
  | _ => cases h

/-- The same for metadata that an answer of the store tells. -/
theorem ReadFrom.yields (h : m.ReadFrom fields) (ht : m.lastModified = some t) :
    (Document.object fields).Yields t := by
  have htime := h.lastModified
  rw [ht] at htime
  obtain ⟨hgiven, hread⟩ := htime
  rw [Page.fieldOr] at hgiven hread
  cases hfound : fields.lookup "LastModified" with
  | none =>
    rw [hfound] at hgiven
    exact absurd rfl hgiven
  | some value =>
    rw [hfound] at hread
    exact (Field.yields_of_time hread).field hfound

/-- **Metadata is read back** from its document form.  Fields without a value are
written as null, and null is read as no value. -/
theorem nested_toDocument (h : ∀ t, m.lastModified = some t → t.WholeMinutes) :
    Field.nested ofFields m.toDocument = .ok m := by
  rw [toDocument, Field.nested, ofFields_eq_ok_iff]
  refine ⟨Field.optional_of_form rfl ?_, Field.optional_of_form rfl ?_,
    Field.optional_of_form rfl ?_, Field.optional_of_form rfl ?_⟩
  · intro etag _
    exact ⟨by simp, rfl⟩
  · intro type _
    exact ⟨by simp, rfl⟩
  · intro length _
    exact ⟨by simp, rfl⟩
  · intro t ht
    exact ⟨by simp, Field.time_iso (h t ht)⟩

end Metadata

namespace HeadResult

variable {fields : Fields} {r : HeadResult}

/-- The outcome of a fetch is read when its fields are. -/
theorem ofFields_eq_ok_iff : ofFields fields = .ok r ↔
    Field.required "bucket" Field.text fields = .ok r.bucket ∧
    Field.required "key" Field.text fields = .ok r.key ∧
    Field.required "found" Field.bool fields = .ok r.found ∧
    Field.optional "metadata" (Field.nested Metadata.ofFields) fields = .ok r.metadata ∧
    Field.optional "error" (Field.nested ErrorDetail.ofFields) fields = .ok r.error := by
  simp only [ofFields, Checked.andField_eq_ok_iff, Except.ok.injEq]
  constructor
  · rintro ⟨_, _, ⟨_, _, ⟨_, _, ⟨_, _, ⟨_, _, rfl, hbucket, rfl⟩, hkey, rfl⟩, hfound, rfl⟩,
      hmetadata, rfl⟩, herror, rfl⟩
    exact ⟨hbucket, hkey, hfound, hmetadata, herror⟩
  · rintro ⟨hbucket, hkey, hfound, hmetadata, herror⟩
    exact ⟨_, _, ⟨_, _, ⟨_, _, ⟨_, _, ⟨_, _, rfl, hbucket, rfl⟩, hkey, rfl⟩, hfound, rfl⟩,
      hmetadata, rfl⟩, herror, rfl⟩

/-- **The outcome of a fetch is read back** from its document form, with or without
metadata.  Of its time stamp, if it has one, it is asked that its offset is of whole
minutes. -/
theorem nested_toDocument
    (h : ∀ t, r.metadata.bind Metadata.lastModified = some t → t.WholeMinutes) :
    Field.nested ofFields r.toDocument = .ok r := by
  rw [toDocument, Field.nested, ofFields_eq_ok_iff]
  refine ⟨rfl, rfl, rfl, Field.optional_of_form rfl ?_, Field.optional_of_form rfl ?_⟩
  · intro m hm
    have hwhole : ∀ t, m.lastModified = some t → t.WholeMinutes :=
      fun t ht => h t (Option.bind_eq_some_iff.2 ⟨m, hm, ht⟩)
    exact ⟨by simp [Metadata.toDocument], Metadata.nested_toDocument hwhole⟩
  · intro detail _
    exact ⟨by simp [ErrorDetail.toDocument], rfl⟩

end HeadResult

namespace HeadResponse

variable {fields : Fields} {r : HeadResponse}

/-- The body of an answer with metadata is read when its fields are. -/
theorem ofFields_eq_ok_iff : ofFields fields = .ok r ↔
    Field.required "bucket" Field.text fields = .ok r.bucket ∧
    Field.required "key" Field.text fields = .ok r.key ∧
    Field.required "metadata" (Field.nested Metadata.ofFields) fields = .ok r.metadata := by
  simp only [ofFields, Checked.andField_eq_ok_iff, Except.ok.injEq]
  constructor
  · rintro ⟨_, _, ⟨_, _, ⟨_, _, rfl, hbucket, rfl⟩, hkey, rfl⟩, hmetadata, rfl⟩
    exact ⟨hbucket, hkey, hmetadata⟩
  · rintro ⟨hbucket, hkey, hmetadata⟩
    exact ⟨_, _, ⟨_, _, ⟨_, _, rfl, hbucket, rfl⟩, hkey, rfl⟩, hmetadata, rfl⟩

/-- **The body of an answer with metadata is read back** from its document form, under
the same condition on its time stamp. -/
theorem nested_toDocument (h : ∀ t, r.metadata.lastModified = some t → t.WholeMinutes) :
    Field.nested ofFields r.toDocument = .ok r := by
  rw [toDocument, Field.nested, ofFields_eq_ok_iff]
  have hmetadata := Metadata.nested_toDocument h
  exact ⟨rfl, rfl, Field.required_eq_ok_iff.2 ⟨_, rfl, hmetadata⟩⟩

end HeadResponse

namespace ErrorResponse

variable {fields : Fields} {r : ErrorResponse}

/-- The body of an answer that reports an error is read when its fields are. -/
theorem ofFields_eq_ok_iff : ofFields fields = .ok r ↔
    Field.required "detail" Field.text fields = .ok r.detail ∧
    Field.optional "code" Field.text fields = .ok r.code := by
  simp only [ofFields, Checked.andField_eq_ok_iff, Except.ok.injEq]
  constructor
  · rintro ⟨_, _, ⟨_, _, rfl, hdetail, rfl⟩, hcode, rfl⟩
    exact ⟨hdetail, hcode⟩
  · rintro ⟨hdetail, hcode⟩
    exact ⟨_, _, ⟨_, _, rfl, hdetail, rfl⟩, hcode, rfl⟩

/-- **The body of an answer that reports an error is read back** from its document
form.  There is no time in it, so that no condition is needed. -/
theorem nested_toDocument (r : ErrorResponse) : Field.nested ofFields r.toDocument = .ok r := by
  rw [toDocument, Field.nested, ofFields_eq_ok_iff]
  exact ⟨rfl, Field.optional_of_form rfl fun code _ => ⟨by simp, rfl⟩⟩

end ErrorResponse

namespace ModelValue

/-- The metadata that a value has. -/
def metadata? : ModelValue → Option Metadata
  | metadata m => some m
  | headResult r => r.metadata
  | headResponse r => some r.metadata
  | _ => none

/-- The time stamp that a value has. -/
def lastModified (v : ModelValue) : Option Timestamp := v.metadata?.bind Metadata.lastModified

/-- The model that a value is of. -/
def model : ModelValue → Model
  | metadata _ => .metadata
  | errorDetail _ => .errorDetail
  | headResult _ => .headResult
  | headResponse _ => .headResponse
  | deleteResponse _ => .deleteResponse
  | errorResponse _ => .errorResponse

/-- **A value is read back from its document form** as a value of its model.  There is
one case for each model, and none of them can be taken for another one, as the model
is known when reading. -/
theorem nested_toDocument {v : ModelValue} (h : ∀ t, v.lastModified = some t → t.WholeMinutes) :
    Field.nested v.model.read v.toDocument = .ok v := by
  cases v with
  | metadata m => exact Checked.map_eq_ok_iff.2 ⟨m, Metadata.nested_toDocument h, rfl⟩
  | headResult r => exact Checked.map_eq_ok_iff.2 ⟨r, HeadResult.nested_toDocument h, rfl⟩
  | headResponse r => exact Checked.map_eq_ok_iff.2 ⟨r, HeadResponse.nested_toDocument h, rfl⟩
  | errorResponse r => exact Checked.map_eq_ok_iff.2 ⟨r, r.nested_toDocument, rfl⟩
  | errorDetail _ => rfl
  | deleteResponse _ => rfl

end ModelValue

namespace Model

variable {model : Model} {fields : Fields} {v : ModelValue} {t : Timestamp}

/-- The time stamp of a value is one that the document yields, wherever it stood. -/
theorem yields_of_read (h : model.read fields = .ok v) (ht : v.lastModified = some t) :
    (Document.object fields).Yields t := by
  -- three models have metadata, by itself or as a part; the others have no time stamp
  cases model with
  | metadata =>
    obtain ⟨m, hm, rfl⟩ := Checked.map_eq_ok_iff.1 h
    exact Metadata.yields_of_ofFields hm ht
  | headResult =>
    obtain ⟨r, hr, rfl⟩ := Checked.map_eq_ok_iff.1 h
    obtain ⟨m, hm, hlast⟩ := Option.bind_eq_some_iff.1 ht
    obtain ⟨-, -, -, hmetadata, -⟩ := HeadResult.ofFields_eq_ok_iff.1 hr
    have hpresent := hmetadata.trans (congrArg Except.ok hm)
    obtain ⟨d, hfound, hread⟩ := Field.exists_of_optional hpresent
    exact (Metadata.yields_of_nested hread hlast).field hfound
  | headResponse =>
    obtain ⟨r, hr, rfl⟩ := Checked.map_eq_ok_iff.1 h
    obtain ⟨-, -, hmetadata⟩ := HeadResponse.ofFields_eq_ok_iff.1 hr
    obtain ⟨d, hfound, hread⟩ := Field.required_eq_ok_iff.1 hmetadata
    exact (Metadata.yields_of_nested hread ht).field hfound
  | errorDetail =>
    obtain ⟨d, -, rfl⟩ := Checked.map_eq_ok_iff.1 h
    cases ht
  | deleteResponse =>
    obtain ⟨r, -, rfl⟩ := Checked.map_eq_ok_iff.1 h
    cases ht
  | errorResponse =>
    obtain ⟨r, -, rfl⟩ := Checked.map_eq_ok_iff.1 h
    cases ht

/-- A model reads values of its own only.  So there is one value to write for each
value that was read, and no mix of models. -/
theorem model_of_read (h : model.read fields = .ok v) : v.model = model := by
  cases model with
  | _ =>
    obtain ⟨_, -, rfl⟩ := Checked.map_eq_ok_iff.1 h
    rfl

end Model

/-- The store's own answers hold no time stamp but one in universal time. -/
theorem Object.wholeMinutes_of_holds {o : Object} {t : Timestamp} (h : o.toReply.Holds t) :
    t.WholeMinutes := by
  rw [toReply] at h
  cases h with
  | field hmem h =>
    simp only [List.mem_cons, Prod.mk.injEq, List.not_mem_nil, or_false] at hmem
    rcases hmem with ⟨-, rfl⟩ | ⟨-, rfl⟩ | ⟨-, rfl⟩ | ⟨-, rfl⟩ <;> cases h
    exact Timestamp.wholeMinutes_of_offset rfl ⟨0, rfl⟩

/-- What a fetch is told is laid down for it, or one of the store's own answers. -/
theorem World.answer_of_outcomeOf {w : World} {bucket key : String} {answer : Document}
    (h : w.outcomeOf (.headObject bucket key) = .ok answer) :
    w.nextAnswer .headObject = .reply answer ∨ ∃ o : Object, answer = o.toReply := by
  cases hnext : w.nextAnswer .headObject with
  | fail failure =>
    rw [outcomeOf, Call.slot, hnext] at h
    cases h
  | reply laid =>
    rw [outcomeOf_of_reply hnext] at h
    cases h
    exact .inl rfl
  | pass =>
    rw [outcomeOf_of_pass hnext, Call.perform] at h
    cases hhead : w.store.head bucket key with
    | error fault =>
      rw [hhead] at h
      cases h
    | ok o =>
      rw [hhead] at h
      cases h
      exact .inr ⟨o, rfl⟩

/-- The metadata of a fetch is in whole minutes, unless another time stamp was laid down
for it. -/
theorem Inspection.wholeMinutes_of_fetched {w : World} {bucket key : String} {m : Metadata}
    {t : Timestamp} (h : fetched bucket key (w.outcomeOf (.headObject bucket key)) =
      .ok ⟨bucket, key, true, some m, none⟩) (ht : m.lastModified = some t)
    (hgiven : ∀ answer, w.nextAnswer .headObject = .reply answer → answer.Holds t →
      t.WholeMinutes) : t.WholeMinutes := by
  cases hcall : w.outcomeOf (.headObject bucket key) with
  | error failure =>
    rw [hcall] at h
    cases failure <;> cases h
  | ok answer =>
    rw [hcall] at h
    obtain ⟨fields, found, rfl, hread, heq⟩ := fetched_of_answer h
    cases heq
    rcases hread.yields ht with hholds | hwhole
    · rcases World.answer_of_outcomeOf hcall with hnext | ⟨o, ho⟩
      · exact hgiven _ hnext hholds
      · rw [ho] at hholds
        exact Object.wholeMinutes_of_holds hholds
    · exact hwhole

namespace Http.App

variable {provide : Action Backend} {request : Request} {bucket key : String} {w : World}
  {response : Response}

/-- Only a fetch that found metadata is answered with success, and the answer is the document
form of what it found. -/
theorem found_of_success {ending : Outcome HeadResult}
    (h : (Response.ofEnding (metadataEnding bucket key ending)).status = 200) :
    ∃ result m, ending = .ok result ∧ foundIn result = some m ∧
      Response.ofEnding (metadataEnding bucket key ending) =
        .success (HeadResponse.toDocument ⟨bucket, key, m⟩) := by
  cases ending with
  | error failure => exact absurd h (status_ofFailure_ne failure)
  | ok result =>
    cases hfound : foundIn result with
    | none =>
      simp only [metadataEnding, hfound] at h
      exact absurd h (status_ofFailure_ne _)
    | some m =>
      refine ⟨result, m, rfl, hfound, ?_⟩
      simp only [metadataEnding, hfound, Response.ofEnding]

/-- A request that the metadata route answers with success was such a fetch. -/
theorem fetched_of_success (hroute : Route.ofPath? request.path = some (.metadata bucket key))
    (hanswered : (handle provide request w).1 = .ok response) (hstatus : response.status = 200) :
    ∃ backend v result m, provide w = (.ok backend, v) ∧
      (backend.headObject bucket key v).1 = .ok result ∧ foundIn result = some m ∧
      response = .success (HeadResponse.toDocument ⟨bucket, key, m⟩) := by
  by_cases hmethod : request.method = (Route.metadata bucket key).method.name
  · rw [handle_route _ hroute hmethod] at hanswered
    cases hanswered
    cases hprovide : provide w with
    | mk ending v =>
      cases ending with
      | error failure =>
        have hfailed : answer provide (.metadata bucket key) w = (.error failure, v) :=
          Action.bind_of_error _ hprovide
        rw [hfailed] at hstatus
        exact absurd hstatus (status_ofFailure_ne failure)
      | ok backend =>
        have hanswer : (answer provide (.metadata bucket key) w).1 =
            metadataEnding bucket key (backend.headObject bucket key v).1 :=
          (congrArg Prod.fst (Action.bind_of_ok _ hprovide)).trans
            (congrArg Prod.fst (answerMetadata_apply backend bucket key v))
        rw [hanswer] at hstatus ⊢
        obtain ⟨result, m, hfetched, hfound, hresponse⟩ := found_of_success hstatus
        exact ⟨backend, v, result, m, rfl, hfetched, hfound, hresponse⟩
  · have hwrong : (handle provide request w).1 = .ok (.wrongMethod (.metadata bucket key)) := by
      simp only [handle, hroute, if_neg hmethod]
      rfl
    rw [hwrong] at hanswered
    cases hanswered
    cases hstatus

/-- With the service that the environment describes, the metadata is that of a result which
has no error. -/
theorem served_of_success (hroute : Route.ofPath? request.path = some (.metadata bucket key))
    (hserve : (serve request w).1 = .ok response) (hstatus : response.status = 200) :
    ∃ config m, Config.load w.environment = .ok config ∧
      (({ config := config } : Service).headObject bucket key w).1 =
        .ok ⟨bucket, key, true, some m, none⟩ ∧
      response = .success (HeadResponse.toDocument ⟨bucket, key, m⟩) := by
  obtain ⟨backend, v, result, m, hprovide, hfetched, hfound, hresponse⟩ :=
    fetched_of_success hroute hserve hstatus
  cases hconfig : Config.load w.environment with
  | error failure =>
    rw [Backend.ofEnvironment_of_load_error hconfig] at hprovide
    cases hprovide
  | ok config =>
    rw [Backend.ofEnvironment_of_load hconfig] at hprovide
    cases hprovide
    have hconsistent : HeadResult.Consistent bucket key result :=
      Service.headObject_consistent hfetched
    cases hconsistent with
    | found m' =>
      cases hfound
      exact ⟨config, m, rfl, hfetched, hresponse⟩
    | failed detail => cases hfound

end Http.App

/-- **The values of the models survive their document form.**  Every value is read back from
its document form, with every field and so with the same form and the same truth value, if
its time stamp is in whole minutes from universal time.  Whatever fields a model accepts, the
value that was read is such a value; only a time stamp that was handed over as such may be
in other than whole minutes.

In particular the body of each successful answer of the metadata route is read back as the
value that the route had, whatever stands behind it.  Behind the application stands the
service, and there only a time stamp that was laid down can be in other than whole
minutes. -/
theorem Model.documents_read_back :
    (∀ v : ModelValue, (∀ t, v.lastModified = some t → t.WholeMinutes) →
      Field.nested v.model.read v.toDocument = .ok v) ∧
    (∀ (model : Model) (fields : Fields) (v : ModelValue), model.read fields = .ok v →
      (∀ t, v.lastModified = some t → (Document.object fields).Holds t → t.WholeMinutes) →
      v.model = model ∧ Field.nested model.read v.toDocument = .ok v) ∧
    (∀ (provide : Action Http.Backend) (request : Http.Request) (bucket key : String)
      (w : World) (response : Http.Response),
      Http.Route.ofPath? request.path = some (.metadata bucket key) →
      (Http.App.handle provide request w).1 = .ok response → response.status = 200 →
      ∃ backend v result m, provide w = (.ok backend, v) ∧
        (backend.headObject bucket key v).1 = .ok result ∧ Http.App.foundIn result = some m ∧
        response.body = .json (HeadResponse.toDocument ⟨bucket, key, m⟩) ∧
        ((∀ t, m.lastModified = some t → t.WholeMinutes) →
          Field.nested HeadResponse.ofFields (HeadResponse.toDocument ⟨bucket, key, m⟩) =
            .ok ⟨bucket, key, m⟩)) ∧
    ∀ (request : Http.Request) (bucket key : String) (w : World) (response : Http.Response),
      Http.Route.ofPath? request.path = some (.metadata bucket key) →
      (Http.App.serve request w).1 = .ok response → response.status = 200 →
      ∃ config m, Config.load w.environment = .ok config ∧
        (({ config := config } : Service).headObject bucket key w).1 =
          .ok ⟨bucket, key, true, some m, none⟩ ∧
        response.body = .json (HeadResponse.toDocument ⟨bucket, key, m⟩) ∧
        ((∀ t answer, m.lastModified = some t → w.nextAnswer .headObject = .reply answer →
            answer.Holds t → t.WholeMinutes) →
          Field.nested HeadResponse.ofFields (HeadResponse.toDocument ⟨bucket, key, m⟩) =
            .ok ⟨bucket, key, m⟩) := by
  refine ⟨fun v h => ModelValue.nested_toDocument h, ?_, ?_, ?_⟩
  · intro model fields v hread hgiven
    have hmodel := model_of_read hread
    refine ⟨hmodel, hmodel ▸ ModelValue.nested_toDocument fun t ht => ?_⟩
    rcases yields_of_read hread ht with hholds | hwhole
    · exact hgiven t ht hholds
    · exact hwhole
  · intro provide request bucket key w response hroute hanswered hstatus
    obtain ⟨backend, v, result, m, hprovide, hfetched, hfound, rfl⟩ :=
      Http.App.fetched_of_success hroute hanswered hstatus
    exact ⟨backend, v, result, m, hprovide, hfetched, hfound, rfl,
      fun hwhole => HeadResponse.nested_toDocument hwhole⟩
  · intro request bucket key w response hroute hserve hstatus
    obtain ⟨config, m, hconfig, hfetched, rfl⟩ :=
      Http.App.served_of_success hroute hserve hstatus
    refine ⟨config, m, hconfig, hfetched, rfl, fun hgiven => ?_⟩
    refine HeadResponse.nested_toDocument fun t ht => ?_
    exact Inspection.wholeMinutes_of_fetched (Service.headObject_eq_ok hfetched) ht
      fun answer hnext hholds => hgiven t answer ht hnext hholds

/-- A result with a word for its truth value, a length in a text and a time stamp with an
offset, and an answer of the metadata route to a count that is laid down. -/
theorem Model.documents_read_back_lenient :
    let fields : Fields := [("bucket", .text "b"), ("key", .text "k"), ("found", .text "Yes"),
      ("metadata", .object [("content_length", .text " 12 "),
        ("last_modified", .text "2024-05-01 14:30:00.5+02:00")])]
    let form : Document := .object [("bucket", .text "b"), ("key", .text "k"),
      ("found", .bool true),
      ("metadata", .object [("etag", .null), ("content_type", .null), ("content_length", .int 12),
        ("last_modified", .text "2024-05-01T14:30:00.500000+02:00")]),
      ("error", .null)]
    let answer : Document := .object [("LastModified", .text "1714566600")]
    let script : Script := fun slot => if slot = .headObject then [.reply answer] else []
    let request : Http.Request := ⟨"GET", "/directory-buckets/b/objects/k/metadata", ""⟩
    let served : Http.Response := .success (.object [("bucket", .text "b"), ("key", .text "k"),
      ("metadata", .object [("etag", .null), ("content_type", .null), ("content_length", .null),
        ("last_modified", .text "2024-05-01T12:30:00Z")])])
    (∃ v, Model.headResult.read fields = .ok v ∧ v.toDocument = form ∧
      Field.nested Model.headResult.read form = .ok v) ∧
    (Http.App.serve request { script := script }).1 = .ok served ∧
    ∃ r : HeadResponse, served.body = .json r.toDocument ∧
      Field.nested HeadResponse.ofFields r.toDocument = .ok r := by
  intro fields form answer script request served
  obtain ⟨-, hmodels, -, hserved⟩ := Model.documents_read_back
  have hroute : Http.Route.ofPath? request.path = some (.metadata "b" "k") := by decide
  have hserve : (Http.App.serve request { script := script }).1 = .ok served := by
    have hnext : ({ script := script } : World).nextAnswer .headObject = .reply answer := rfl
    have hrun := Http.App.serve_of_metadata (w := { script := script }) Config.load_unset hroute rfl
    rw [hrun, Http.App.answerMetadata_apply, Http.Backend.ofService,
      Service.headObject_outcome _ (by decide) (by decide), World.outcomeOf_of_reply hnext]
    rfl
  refine ⟨?_, hserve, ?_⟩
  · refine ⟨_, rfl, rfl, (hmodels .headResult fields _ rfl fun t ht _ => ?_).2⟩
    cases ht
    exact Timestamp.wholeMinutes_of_offset rfl ⟨120, rfl⟩
  · obtain ⟨config, m, -, -, hbody, hback⟩ :=
      hserved request "b" "k" { script := script } served hroute hserve rfl
    refine ⟨⟨"b", "k", m⟩, hbody, hback ?_⟩
    intro t given _ hnext hholds
    cases hnext
    simp only [answer] at hholds
    cases hholds with
    | field hmem h =>
      simp only [List.mem_singleton, Prod.mk.injEq] at hmem
      obtain ⟨-, rfl⟩ := hmem
      cases h

end ZonalBucket
