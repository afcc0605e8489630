import ZonalBucket.Proofs.FaultTexts
import ZonalBucket.Proofs.InspectionOutcomes
import ZonalBucket.Proofs.ReachedCalls

/-!
# All operations report refusals alike

Each operation makes the calls that it comes to, and meets those that fail in the same way,
`Action.FailsAlike`.  When a call is refused, the last record is an error that ends with
message and code of the refusal, and what stood before it was no report of success.  Any other
failure is what the operation fails with, and nothing is reported about it.  The operations
only differ in what they make of a refusal: most of them fail with it, and a fetch makes a
result of it.

Which calls an operation comes to is said without looking at its run.  All but one come to
their only call at once, an upload when its checks allow it; the calls of emptying a bucket
follow from each other, `Emptying.Reaches`.

Message and code are there for every refusal, whatever the store gave for them,
`ServiceFault.detail_tells`.
-/

namespace ZonalBucket

/-- A detail tells of a refusal what the store gave for code and message, as far as that
counts as given.  Neither of them is empty: a code that does not count as given is unknown,
and the message of the refusal itself stands for a message that does not. -/
structure ErrorDetail.Tells (fault : ServiceFault) (detail : ErrorDetail) : Prop where
  code_ne_empty : detail.code ≠ ""
  message_ne_empty : detail.message ≠ ""
  fits : ErrorDetail.ofFields [("code", .text detail.code), ("message", .text detail.message)] =
    .ok detail
  code_given : ∀ d, fault.code = some d → d.isTruthy = true → detail.code = d.shown
  message_given : ∀ d, fault.message = some d → d.isTruthy = true → detail.message = d.shown
  code_missing : (∀ d, fault.code = some d → d.isTruthy = false) → detail.code = "Unknown"
  message_missing : (∀ d, fault.message = some d → d.isTruthy = false) →
    detail.message = fault.text

/-- What is given and counts is shown. -/
theorem givenOr_of_given (missing : String) {d? : Option Document} {d : Document}
    (h : d? = some d) (hgiven : d.isTruthy = true) : givenOr missing d? = d.shown := by
  rw [h, givenOr, if_pos hgiven]

/-- What is missing, or is given and counts as nothing, is replaced.  Zero, the empty
text and the like count as nothing. -/
theorem givenOr_of_missing (missing : String) {d? : Option Document}
    (h : ∀ d, d? = some d → d.isTruthy = false) : givenOr missing d? = missing := by
  cases d? with
  | none => rfl
  | some d => rw [givenOr, if_neg (by simp [h d rfl])]

/-- **Nothing of a refusal is lost,** whatever the store gave.  A code and a message
that count are told as they are, and words stand in for those that do not. -/
theorem ServiceFault.detail_tells (fault : ServiceFault) : fault.detail.Tells fault where
  code_ne_empty := fault.detail_code_ne_empty
  message_ne_empty := fault.detail_message_ne_empty
  fits := rfl
  code_given _ := givenOr_of_given unknownText
  message_given _ := givenOr_of_given fault.text
  code_missing := givenOr_of_missing unknownText
  message_missing := givenOr_of_missing fault.text

namespace Action

variable {α β : Type} {source : Source} {what : String} {Before : Trace → Prop}
  {refused : ServiceFault → Outcome α} {Reaches : Call → World → Prop} {outcome : Outcome α}
  {t : Trace} {action : Action α} {w : World}

/-- The one call of an operation that comes to it at once. -/
def Only (call : Call) (w : World) (made : Call) (u : World) : Prop := made = call ∧ u = w

/-- How a run meets calls that fail.  `Reaches` tells the calls that it comes to, each with the
world in which it does, and `Before` what it has reported by the time that one is refused. -/
structure MeetsFailures (source : Source) (what : String) (Before : Trace → Prop)
    (refused : ServiceFault → Outcome α) (Reaches : Call → World → Prop) (outcome : Outcome α)
    (t : Trace) : Prop where
  /-- Every call that it comes to is made, and comes to what is laid down for it there, or else
  to what the store does with it. -/
  made : ∀ call u, Reaches call u → ⟨call, u.outcomeOf call⟩ ∈ t.exchanges
  /-- A refusal is reported in the end. -/
  refusal : ∀ e ∈ t.exchanges, ∀ fault, e.outcome = .error (.refused fault) →
    outcome = refused fault ∧
      ∃ s, Before s ∧ t = s.append { records := [refusalRecord source what fault] }
  /-- Any other failure passes as it is. -/
  other : ∀ e ∈ t.exchanges, ∀ failure, e.outcome = .error failure →
    (∀ fault, failure ≠ .refused fault) → outcome = .error failure
  /-- Nothing is reported about other failures, wherever they come from. -/
  quiet : ∀ failure, outcome = .error failure → (∀ fault, failure ≠ .refused fault) → Before t

/-- In this world the action makes the calls that it comes to, and meets those that fail as
all operations do. -/
def FailsAlike (source : Source) (what : String) (Before : Trace → Prop)
    (refused : ServiceFault → Outcome α) (Reaches : Call → World → Prop) (action : Action α)
    (w : World) : Prop :=
  ∃ t, (action w).2.trace = w.trace.append t ∧
    MeetsFailures source what Before refused Reaches (action w).1 t

/-- What is made of the value in the end is also made of that of a refusal. -/
theorem FailsAlike.map (h : FailsAlike source what Before refused Reaches action w)
    (f : α → β) :
    FailsAlike source what Before (fun fault => (refused fault).map f) Reaches
      (action >>= fun a => pure (f a)) w := by
  obtain ⟨t, ht, hmeets⟩ := h
  rw [FailsAlike, bind_pure_apply]
  refine ⟨t, ht, hmeets.made, ?_, ?_, ?_⟩
  · intro e he fault hfailed
    obtain ⟨hend, hreported⟩ := hmeets.refusal e he fault hfailed
    exact ⟨congrArg (Except.map f) hend, hreported⟩
  · intro e he failure hfailed hother
    rw [hmeets.other e he failure hfailed hother]
    rfl
  · intro failure hend hother
    cases hrun : (action w).1 with
    | ok a =>
      rw [hrun] at hend
      cases hend
    | error cause =>
      rw [hrun] at hend
      cases hend
      exact hmeets.quiet failure hrun hother

/-- A run that is one call, announced by some records and reported behind it.  Only what the
call comes to counts for how the run ends and for what is reported then. -/
theorem FailsAlike.of_call (announced : List Record) {closing : List Record} {call : Call}
    (hrun : action w = (outcome, w.afterCall call (announced ++ closing)))
    (hrefused : ∀ fault, w.outcomeOf call = .error (.refused fault) →
      outcome = refused fault ∧ closing = [refusalRecord source what fault])
    (hother : ∀ failure, w.outcomeOf call = .error failure →
      (∀ fault, failure ≠ .refused fault) → outcome = .error failure)
    (hquiet : ∀ failure, outcome = .error failure → (∀ fault, failure ≠ .refused fault) →
      closing = []) :
    FailsAlike source what (·.records = announced) refused (Only call w) action w := by
  rw [FailsAlike, hrun]
  refine ⟨_, World.afterCall_trace w call _, ?_, ?_, ?_, ?_⟩
  · rintro _ _ ⟨rfl, rfl⟩
    exact List.mem_singleton_self _
  · intro e he fault hfailed
    obtain rfl := List.mem_singleton.1 he
    obtain ⟨hend, rfl⟩ := hrefused fault hfailed
    exact ⟨hend, { exchanges := [⟨call, w.outcomeOf call⟩], records := announced }, rfl, rfl⟩
  · intro e he failure hfailed
    obtain rfl := List.mem_singleton.1 he
    exact hother failure hfailed
  · intro failure hend hnot
    rw [hquiet failure hend hnot, List.append_nil]

/-- A call whose refusal is passed on.  The action ends as the call does, up to its
value, and behind what it announced there is only the report of the refusal. -/
theorem FailsAlike.of_reported (announced : List Record) {done : String} {call : Call}
    {action : Action Unit}
    (h : action w = ((w.outcomeOf call).map fun _ => (),
      w.afterCall call (announced ++ closingRecords source what done (w.outcomeOf call)))) :
    FailsAlike source what (·.records = announced) (fun fault => .error (.refused fault))
      (Only call w) action w := by
  refine .of_call announced h ?_ ?_ ?_
  · intro fault hending
    rw [hending]
    exact ⟨rfl, rfl⟩
  · intro failure hending _
    rw [hending]
    rfl
  · intro failure hend hnot
    cases hending : w.outcomeOf call with
    | ok answer =>
      rw [hending] at hend
      cases hend
    | error cause =>
      rw [hending] at hend
      cases hend
      exact refusalRecords_of_other source what hnot

/-- **A call that is refused where the action comes to it** decides how the action ends, and
its report is the last thing that is added to the trace. -/
theorem FailsAlike.of_refused (h : FailsAlike source what Before refused Reaches action w)
    {call : Call} {u : World} (hreach : Reaches call u) {fault : ServiceFault}
    (hrefused : u.outcomeOf call = .error (.refused fault)) :
    (action w).1 = refused fault ∧ ∃ s, Before s ∧ (action w).2.trace =
      (w.trace.append s).append { records := [refusalRecord source what fault] } := by
  obtain ⟨t, ht, hmeets⟩ := h
  obtain ⟨hend, s, hs, rfl⟩ := hmeets.refusal _ (hmeets.made call u hreach) fault hrefused
  exact ⟨hend, s, hs, by rw [ht, Trace.append_assoc]⟩

/-- So the last record of the run is the error that tells of the refusal. -/
theorem FailsAlike.last_of_refused (h : FailsAlike source what Before refused Reaches action w)
    {call : Call} {u : World} (hreach : Reaches call u) {fault : ServiceFault}
    (hrefused : u.outcomeOf call = .error (.refused fault)) :
    (action w).2.trace.records.getLast? = some (refusalRecord source what fault) := by
  obtain ⟨-, s, -, htrace⟩ := h.of_refused hreach hrefused
  rw [htrace, Trace.records_append, List.getLast?_concat]

/-- A call that fails otherwise is what the action fails with, and nothing is reported of it. -/
theorem FailsAlike.of_failed (h : FailsAlike source what Before refused Reaches action w)
    {call : Call} {u : World} (hreach : Reaches call u) {failure : Failure}
    (hfailed : u.outcomeOf call = .error failure) (hother : ∀ fault, failure ≠ .refused fault) :
    (action w).1 = .error failure ∧
      ∃ s, Before s ∧ (action w).2.trace = w.trace.append s := by
  obtain ⟨t, ht, hmeets⟩ := h
  have hend := hmeets.other _ (hmeets.made call u hreach) failure hfailed hother
  exact ⟨hend, t, hmeets.quiet failure hend hother, ht⟩

end Action

open ZonalBucket.Action (FailsAlike Only infoRecord refusalRecords_of_other)

/-- The call that an upload comes to: it has a key, and its file can be read. -/
def Provision.ReachesPut (bucket key : String) (upload : Upload) (override : Option String)
    (w : World) (call : Call) (u : World) : Prop :=
  ∃ body, key ≠ "" ∧ upload.bytes w.files = .ok body ∧
    Only (.putObject bucket key body (upload.contentType override)) w call u

/-- An upload that does not pass its checks comes to no call, and what it fails with is not
reported. -/
theorem Provision.putObject_failsAlike (source : Source) (bucket key : String) (upload : Upload)
    (override : Option String) (w : World) :
    FailsAlike source "Failed to put object" (·.records = [])
      (fun fault => .error (.refused fault)) (ReachesPut bucket key upload override w)
      (Provision.putObject source bucket key upload override) w := by
  cases hcheck : Provision.checkUpload key upload w.files with
  | error failure =>
    rw [FailsAlike, Provision.putObject_of_unchecked source bucket override hcheck]
    refine ⟨{}, (Trace.append_empty _).symm, ?_, ?_, ?_, fun _ _ _ => rfl⟩
    · rintro call u ⟨body, hkey, hbody, -⟩
      rw [Provision.checkUpload_eq_ok_iff.2 ⟨hkey, hbody⟩] at hcheck
      cases hcheck
    · intro e he
      cases he
    · intro e he
      cases he
  | ok body =>
    obtain ⟨hkey, hbody⟩ := Provision.checkUpload_eq_ok_iff.1 hcheck
    obtain ⟨t, ht, hmeets⟩ := FailsAlike.of_reported []
      (Provision.putObject_apply source bucket override hkey hbody)
    refine ⟨t, ht, ?_, hmeets.refusal, hmeets.other, hmeets.quiet⟩
    rintro call u ⟨found, -, hfound, hcall⟩
    obtain rfl := Except.ok.inj (hbody.symm.trans hfound)
    exact hmeets.made call u hcall

/-- Emptying also reports keys that could not be deleted.  It comes to its calls one after
the other, and the first one that fails is the last one. -/
theorem Emptying.emptyBucket_failsAlike (source : Source) (bucket : String) (w : World) :
    FailsAlike source "Failed to delete objects in bucket" (ReportsItems source)
      (fun fault => .error (.refused fault)) (Reaches source bucket w)
      (Emptying.emptyBucket source bucket) w := by
  obtain ⟨t, ht, hheeds, s, closing, hsplit, hs, hcloses⟩ :=
    ((emptyBucket_heeds source bucket).and (emptyBucket_reports source bucket)) w
  refine ⟨t, ht, fun call u hreach => (gains_of_reaches hreach).mem ht, ?_,
    fun e he failure hfailed _ => hheeds e he failure hfailed, ?_⟩
  · intro e he fault hfailed
    have hend := hheeds e he _ hfailed
    rw [hend] at hcloses
    cases hcloses
    exact ⟨hend, s, hs, hsplit⟩
  · intro failure hend hother
    rw [hend] at hcloses
    cases hcloses
    rwa [hsplit, refusalRecords_of_other source _ hother, Trace.append_empty]

/-- A fetch makes a result of a refusal, and reports it in the same words as those who
pass it on.  All other failures it passes on. -/
theorem Inspection.fetch_failsAlike (source : Source) (bucket key : String) (w : World) :
    FailsAlike source "Failed to retrieve object metadata"
      (·.records = [infoRecord source
        s!"Retrieving metadata for object: {key} from bucket: {bucket}"])
      (fun fault => .ok ⟨bucket, key, false, none, some fault.detail⟩)
      (Only (.headObject bucket key) w) (Inspection.fetch source bucket key) w := by
  refine .of_call [_] (Inspection.fetch_apply source bucket key w) ?_ ?_ ?_
  · intro fault hending
    rw [hending]
    exact ⟨rfl, rfl⟩
  · intro failure hending hnot
    rw [hending]
    cases failure with
    | refused fault => exact absurd rfl (hnot fault)
    | _ => rfl
  · intro failure hend hnot
    cases hending : w.outcomeOf (.headObject bucket key) with
    | ok answer =>
      rw [hending, fetched] at hend
      cases hread : Metadata.ofReply answer with
      | ok m => simp [hread, Except.map] at hend
      | error cause => simp only [hread]
    | error cause =>
      rw [hending] at hend
      cases cause <;> cases hend
      all_goals rfl

/-- **All operations report refusals alike.**  The detail of a refusal tells what the store
gave, and has code and message for any refusal.  Every operation makes the call that it comes
to, an upload behind its checks, and emptying each page and batch that it comes to; and the
call comes to what is laid down for it there.  One that is refused makes the operation report
that in the end, with message and code of the detail, and what it has reported by then is at
most that it begins, or which keys could not be deleted.  It fails with the same refusal; but
a fetch ends in a result with the detail, and finds nothing.  Any other failure of a call is
what the operation fails with, and no failure but a refusal is reported. -/
theorem Action.operations_fail_alike (source : Source) (bucket zone key : String)
    (upload : Upload) (override : Option String) (w : World) :
    (∀ fault : ServiceFault, fault.detail.Tells fault) ∧
    FailsAlike source "Failed to create bucket"
      (·.records = [infoRecord source s!"Creating bucket: {bucket}"])
      (fun fault => .error (.refused fault)) (Only (.createBucket bucket zone) w)
      (Provision.createBucket source bucket zone) w ∧
    FailsAlike source "Failed to put object" (·.records = [])
      (fun fault => .error (.refused fault))
      (Provision.ReachesPut bucket key upload override w)
      (Provision.putObject source bucket key upload override) w ∧
    FailsAlike source "Failed to delete object" (·.records = [])
      (fun fault => .error (.refused fault)) (Only (.deleteObject bucket key) w)
      (Provision.deleteObject source bucket key) w ∧
    FailsAlike source "Failed to delete objects in bucket" (Emptying.ReportsItems source)
      (fun fault => .error (.refused fault)) (Emptying.Reaches source bucket w)
      (Emptying.emptyBucket source bucket) w ∧
    FailsAlike source "Failed to delete bucket"
      (·.records = [infoRecord source s!"Deleting bucket: {bucket}"])
      (fun fault => .error (.refused fault)) (Only (.deleteBucket bucket) w)
      (Inspection.deleteBucket source bucket) w ∧
    FailsAlike source "Failed to retrieve object metadata"
      (·.records = [infoRecord source
        s!"Retrieving metadata for object: {key} from bucket: {bucket}"])
      (fun fault => .ok ⟨bucket, key, false, none, some fault.detail⟩)
      (Only (.headObject bucket key) w) (Inspection.fetch source bucket key) w ∧
    FailsAlike source "Failed to retrieve object metadata"
      (·.records = [infoRecord source
        s!"Retrieving metadata for object: {key} from bucket: {bucket}"])
      (fun _ => .ok false) (Only (.headObject bucket key) w)
      (Inspection.head source bucket key) w := by
  refine ⟨ServiceFault.detail_tells, ?_, ?_, ?_, ?_, ?_, ?_, ?_⟩
  · exact FailsAlike.of_reported [_] (Provision.createBucket_apply source bucket zone w)
  · exact Provision.putObject_failsAlike source bucket key upload override w
  · exact FailsAlike.of_reported [] (Provision.deleteObject_apply source bucket key w)
  · exact Emptying.emptyBucket_failsAlike source bucket w
  · exact FailsAlike.of_reported [_] (Inspection.deleteBucket_apply source bucket w)
  · exact Inspection.fetch_failsAlike source bucket key w
  · exact (Inspection.fetch_failsAlike source bucket key w).map HeadResult.isTruthy

/-- A refusal with the number zero for a code and without a message. -/
def Action.numbered : ServiceFault := ⟨some (.int 0), none, none, "CreateBucket"⟩

/-- The run ended so, and the last that it reported was this refusal. -/
def Action.EndsTelling {α : Type} (run : Outcome α × World) (ending : Outcome α)
    (what : String) : Prop :=
  run.1 = ending ∧ run.2.trace.records.getLast? = some {
    level := Level.error, source := .provision
    message := what ++ ": An error occurred (0) when calling the CreateBucket operation: " ++
      "Unknown - Error code: Unknown" }

/-- The words of this refusal, computed once for all operations that may meet it. -/
theorem Action.EndsTelling.of_refused {α : Type} {what : String} {Before : Trace → Prop}
    {refused : ServiceFault → Outcome α} {Reaches : Call → World → Prop} {action : Action α}
    {w : World} (h : FailsAlike .provision what Before refused Reaches action w) {call : Call}
    {u : World} (hreach : Reaches call u)
    (hrefused : u.outcomeOf call = .error (.refused numbered)) :
    EndsTelling (action w) (refused numbered) what := by
  refine ⟨(h.of_refused hreach hrefused).1, ?_⟩
  have hmessage : numbered.detail.message =
      "An error occurred (0) when calling the CreateBucket operation: Unknown" := by decide
  have hcode : numbered.detail.code = "Unknown" := by decide
  rw [h.last_of_refused hreach hrefused, refusalRecord, hmessage, hcode]
  simp only [String.append_assoc]
  rfl

/-- This is laid down, and batches have one key. -/
def Action.laidDown (script : Script) : World := { script := script, limits := ⟨2, 1⟩ }

/-- A page with two keys, and a token if it is cut off. -/
def Action.twoKeys (cut : Bool) : Document :=
  .object [("Contents", .list [.object [("Key", .text "k0")], .object [("Key", .text "k1")]]),
    ("IsTruncated", .bool cut), ("NextContinuationToken", .text "2")]

/-- All calls are refused; the second page of a listing is; the second of two batches is; or
the connection is lost. -/
theorem Action.operations_fail_alike_number :
    let failing : Failure := .refused numbered
    let refusing : World := laidDown fun _ => [.fail failing]
    let secondPage : World := laidDown fun slot =>
      if slot = .listObjects then [.reply (twoKeys true), .fail failing] else []
    let secondBatch : World := laidDown fun slot =>
      if slot = .listObjects then [.reply (twoKeys false)]
      else if slot = .deleteObjects then [.reply (.object []), .fail failing] else []
    let lost : Failure := .unreached ⟨.connectionClosed, "Connection was closed"⟩
    let losing : World := laidDown fun _ => [.fail lost]
    EndsTelling (Provision.createBucket .provision "b" "z" refusing) (.error failing)
        "Failed to create bucket" ∧
      EndsTelling (Provision.putObject .provision "b" "k" .sample none refusing) (.error failing)
        "Failed to put object" ∧
      EndsTelling (Provision.deleteObject .provision "b" "k" refusing) (.error failing)
        "Failed to delete object" ∧
      EndsTelling (Emptying.emptyBucket .provision "b" secondPage) (.error failing)
        "Failed to delete objects in bucket" ∧
      EndsTelling (Emptying.emptyBucket .provision "b" secondBatch) (.error failing)
        "Failed to delete objects in bucket" ∧
      EndsTelling (Inspection.deleteBucket .provision "b" refusing) (.error failing)
        "Failed to delete bucket" ∧
      EndsTelling (Inspection.fetch .provision "b" "k" refusing)
        (.ok ⟨"b", "k", false, none, some numbered.detail⟩)
        "Failed to retrieve object metadata" ∧
      EndsTelling (Inspection.head .provision "b" "k" refusing) (.ok false)
        "Failed to retrieve object metadata" ∧
      (Provision.deleteObject .provision "b" "k" losing).1 = .error lost ∧
      (Provision.deleteObject .provision "b" "k" losing).2.trace.records = [] := by
  intro failing refusing secondPage secondBatch lost losing
  obtain ⟨-, hcreate, hput, hdelete, -, hbucket, hfetch, hhead⟩ :=
    Action.operations_fail_alike .provision "b" "z" "k" .sample none refusing
  obtain ⟨-, -, -, -, hpages, -⟩ :=
    Action.operations_fail_alike .provision "b" "z" "k" .sample none secondPage
  obtain ⟨-, -, -, -, hbatches, -⟩ :=
    Action.operations_fail_alike .provision "b" "z" "k" .sample none secondBatch
  obtain ⟨-, -, -, hlost, -⟩ :=
    Action.operations_fail_alike .provision "b" "z" "k" .sample none losing
  have hpage : Emptying.Reaches .provision "b" secondPage
      (.listObjects "b" (some (.text "2"))) _ :=
    .page (.next .first (.inl (by decide)) rfl rfl rfl)
  have hchunks : chunks 1 ["k0", "k1"] = [["k0"]] ++ ["k1"] :: [] := by
    simp [chunks_of_ne_nil]
  have hbatch : Emptying.Reaches .provision "b" secondBatch (.deleteObjects "b" ["k1"]) _ :=
    .batch (.last rfl rfl rfl) (.inl (by decide)) hchunks rfl
  obtain ⟨hended, t, hquiet, htrace⟩ :=
    hlost.of_failed ⟨rfl, rfl⟩ rfl (fun _ h => nomatch h)
  refine ⟨.of_refused hcreate ⟨rfl, rfl⟩ rfl, .of_refused hput ⟨_, by decide, rfl, rfl, rfl⟩ rfl,
    .of_refused hdelete ⟨rfl, rfl⟩ rfl, .of_refused hpages hpage rfl,
    .of_refused hbatches hbatch rfl, .of_refused hbucket ⟨rfl, rfl⟩ rfl,
    .of_refused hfetch ⟨rfl, rfl⟩ rfl, .of_refused hhead ⟨rfl, rfl⟩ rfl, hended, ?_⟩
  rw [htrace]
  exact hquiet

end ZonalBucket
