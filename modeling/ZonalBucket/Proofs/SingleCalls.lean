import ZonalBucket.Proofs.BucketState
import ZonalBucket.Proofs.PlainCalls
import ZonalBucket.Provision

/-!
# Operations of one call

Creating a bucket, uploading and deleting an object and deleting a bucket are one call
each, with reports before and behind it.  Such a run is known as a whole: it ends as the
call does and leaves `World.afterCall` behind, with its reports.  For most purposes the
reports do not count, and `Action.CallsOnce` is enough: the operations end as the call does,
and do to the store what it does.

Where nothing is laid down, that is what the state of the bucket tells,
`World.outcomeOf_of_performAt` and `World.get?_storeAfter`.
-/

namespace ZonalBucket

namespace World

variable {w : World}

/-- Where nothing is laid down anywhere, all visits pass. -/
theorem nextAnswer_of_empty (h : w.script = Script.empty) (slot : Slot) :
    w.nextAnswer slot = .pass := by
  rw [nextAnswer, h]
  rfl

theorem failureAt_of_empty (h : w.script = Script.empty) (slot : Slot) :
    w.failureAt slot = none := by
  rw [failureAt, nextAnswer_of_empty h]

/-- And a client can always be requested, entered and left. -/
theorem clientFailure_of_empty (h : w.script = Script.empty) : w.clientFailure = none := by
  simp [clientFailure, failureAt_of_empty h]

/-- Where nothing is laid down, all calls pass, and what a call comes to is a matter
of the store alone. -/
theorem outcomeOf_of_empty (h : w.script = Script.empty) (call : Call) :
    w.outcomeOf call = (call.perform w.limits.pageSize w.store).map (·.1) :=
  outcomeOf_of_pass (nextAnswer_of_empty h call.slot)

section Calls

variable {call : Call}

/-- The world that a call leaves behind when this was reported around it. -/
def afterCall (w : World) (call : Call) (records : List Record) : World :=
  ((w.visit call.slot).withStore (w.storeAfter call)).tell
    { exchanges := [⟨call, w.outcomeOf call⟩], records := records }

@[simp] theorem afterCall_trace (w : World) (call : Call) (records : List Record) :
    (w.afterCall call records).trace =
      w.trace.append { exchanges := [⟨call, w.outcomeOf call⟩], records := records } := rfl

/-- A call that fails only adds to the trace when nothing is laid down for it. -/
theorem afterCall_of_error {failure : Failure} (hscript : w.script call.slot = [])
    (hfailed : w.outcomeOf call = .error failure) (records : List Record) :
    w.afterCall call records =
      w.tell { exchanges := [⟨call, .error failure⟩], records := records } := by
  rw [afterCall, storeAfter_of_error hfailed, visit_of_nil hscript, hfailed]
  rfl

/-- Reports in front of a call do not matter to it. -/
theorem afterCall_tell (w : World) (call : Call) (earlier records : List Record) :
    (w.tell { records := earlier }).afterCall call records =
      w.afterCall call (earlier ++ records) := by
  have houtcome : (w.tell { records := earlier }).outcomeOf call = w.outcomeOf call :=
    outcomeOf_of_alike rfl rfl rfl
  have hstore : (w.tell { records := earlier }).storeAfter call = w.storeAfter call :=
    storeAfter_of_alike rfl rfl rfl
  rw [afterCall, afterCall, houtcome, hstore]
  simp [tell, visit, withStore, Trace.append]

/-- Reports behind a call are reports of the call.  This gathers what is said in front
of it, about it and behind it in one row of records. -/
theorem tell_afterCall (w : World) (call : Call) (records later : List Record) :
    (w.afterCall call records).tell { records := later } =
      w.afterCall call (records ++ later) := by
  simp [afterCall, tell, visit, withStore, Trace.append]

end Calls

end World

namespace Action

section Reports

variable {α : Type}

/-- What is reported behind a call that came to this: that it worked, or that it was refused,
or else nothing. -/
def closingRecords (source : Source) (what done : String) : Outcome α → List Record
  | .ok _ => [infoRecord source done]
  | .error failure => refusalRecords source what failure

/-- A call whose refusal is reported and passed on, and whose success is reported. -/
theorem reported_apply (call : Call) (source : Source) (what done : String) (w : World) :
    ((Client.invoke call).onRefusal (failRefused source what) >>= fun _ => info source done) w =
      ((w.outcomeOf call).map fun _ => (),
        w.afterCall call (closingRecords source what done (w.outcomeOf call))) := by
  have hcall : Client.invoke call w = (w.outcomeOf call, w.afterCall call []) :=
    Client.invoke_apply call w
  have hpassed := passRefusal_eq_tell (Client.invoke call) source what w
  rw [hcall, World.tell_afterCall, List.nil_append] at hpassed
  cases houtcome : w.outcomeOf call with
  | ok answer =>
    rw [houtcome] at hpassed
    rw [bind_of_ok _ hpassed, info_eq_tell, World.tell_afterCall]
    rfl
  | error failure =>
    rw [houtcome] at hpassed
    rw [bind_of_error _ hpassed]
    cases failure <;> rfl

/-- A report in front of a call does not change what the call comes to, and stands in
front of the other records. -/
theorem behind_info {action : Action α} {call : Call} {source : Source} {message : String}
    {w : World} {outcome : Outcome α} {records : List Record}
    (h : action (w.tell { records := [infoRecord source message] }) = (outcome,
      (w.tell { records := [infoRecord source message] }).afterCall call records)) :
    (info source message >>= fun _ => action) w =
      (outcome, w.afterCall call (infoRecord source message :: records)) := by
  rw [bind_of_ok _ (info_eq_tell source message w), h, World.afterCall_tell]
  rfl

end Reports

/-- Here the action is one call, with reports before and behind it. -/
def CallsOnce (call : Call) (action : Action Unit) (w : World) : Prop :=
  ∃ s t, action w = ((Client.invoke call (w.tell s)).1.map fun _ => (),
    (Client.invoke call (w.tell s)).2.tell t)

namespace CallsOnce

variable {call : Call} {action : Action Unit} {w : World}

/-- The action ends as the call does.  What the answer says is left out, as the action
has no value to give. -/
theorem outcome (h : CallsOnce call action w) :
    (action w).1 = (w.outcomeOf call).map fun _ => () := by
  obtain ⟨s, t, hrun⟩ := h
  have hcall : (w.tell s).outcomeOf call = w.outcomeOf call :=
    World.outcomeOf_of_alike rfl rfl rfl
  rw [hrun, Client.invoke_outcome, hcall]

/-- The action changes the store as the call does.  A call that fails leaves it as it
was, for whatever reason it failed. -/
theorem store (h : CallsOnce call action w) : (action w).2.store = w.storeAfter call := by
  obtain ⟨s, t, hrun⟩ := h
  have hcall : (w.tell s).storeAfter call = w.storeAfter call :=
    World.storeAfter_of_alike rfl rfl rfl
  rw [hrun, World.tell_store, Client.invoke_store, hcall]

/-- A run that is known as a whole, reports included, is one call with something
before and behind it. -/
theorem of_afterCall {records : List Record}
    (h : action w = ((w.outcomeOf call).map fun _ => (), w.afterCall call records)) :
    CallsOnce call action w := by
  refine ⟨{}, { records := records }, ?_⟩
  rw [World.tell_empty, h, Client.invoke_apply]
  exact congrArg (Prod.mk _) (World.tell_afterCall w call [] records).symm

end CallsOnce

end Action

open ZonalBucket.Action (CallsOnce behind_info closingRecords infoRecord reported_apply)

namespace Provision

/-- **The creation of a bucket** is announced, and it is reported how its call went.
The zone goes into the call and nowhere else. -/
theorem createBucket_apply (source : Source) (bucket zone : String) (w : World) :
    createBucket source bucket zone w =
      ((w.outcomeOf (.createBucket bucket zone)).map fun _ => (),
        w.afterCall (.createBucket bucket zone)
          (infoRecord source s!"Creating bucket: {bucket}" ::
            closingRecords source "Failed to create bucket"
              s!"Bucket created successfully with location: {zone}"
              (w.outcomeOf (.createBucket bucket zone)))) :=
  behind_info (reported_apply (.createBucket bucket zone) source _ _ _)

/-- **The deletion of an object** is only reported, with one record for a success and
one for a refusal.  There is no announcement in front of it. -/
theorem deleteObject_apply (source : Source) (bucket key : String) (w : World) :
    deleteObject source bucket key w =
      ((w.outcomeOf (.deleteObject bucket key)).map fun _ => (),
        w.afterCall (.deleteObject bucket key)
          (closingRecords source "Failed to delete object"
            s!"Deleted object: {key} from bucket: {bucket}"
            (w.outcomeOf (.deleteObject bucket key)))) :=
  reported_apply (.deleteObject bucket key) source _ _ w

section Put

variable {source : Source} {bucket key : String} {upload : Upload} {override : Option String}
  {w : World}

/-- **The upload of a file** that can be read is a call with its content, and is reported. -/
theorem putObject_apply (source : Source) (bucket : String) (override : Option String)
    (hkey : key ≠ "") {body : List UInt8} (hbody : upload.bytes w.files = .ok body) :
    putObject source bucket key upload override w =
      ((w.outcomeOf (.putObject bucket key body (upload.contentType override))).map fun _ => (),
        w.afterCall (.putObject bucket key body (upload.contentType override))
          (closingRecords source "Failed to put object"
            s!"Successfully placed {key} into bucket {bucket}"
            (w.outcomeOf (.putObject bucket key body (upload.contentType override))))) := by
  have hlook : Action.look (fun w => upload.bytes w.files) w = (.ok (.ok body), w) := by
    rw [Action.look, hbody]
  have hread : Action.ofOutcome (.ok body) w = (.ok body, w) := rfl
  rw [putObject, if_neg hkey, Action.bind_of_ok _ hlook, Action.bind_of_ok _ hread]
  exact reported_apply _ source _ _ w

/-- Without a key nothing happens.  This is looked at first, so that the same failure
is given for a file that cannot be read. -/
theorem putObject_of_noKey :
    putObject source bucket "" upload override w = (.error (.emptyArgument .objectKey), w) := by
  rw [putObject, if_pos rfl]
  rfl

/-- Nor does it without a file that can be read. -/
theorem putObject_of_noFile (hkey : key ≠ "") {failure : Failure}
    (hbody : upload.bytes w.files = .error failure) :
    putObject source bucket key upload override w = (.error failure, w) := by
  have hlook : Action.look (fun w => upload.bytes w.files) w = (.ok (.error failure), w) := by
    rw [Action.look, hbody]
  rw [putObject, if_neg hkey, Action.bind_of_ok _ hlook]
  rfl

/-- What an upload checks before its call: that there is a key, and a file that can be read. -/
def checkUpload (key : String) (upload : Upload) (files : Files) : Outcome (List UInt8) :=
  if key = "" then .error (.emptyArgument .objectKey) else upload.bytes files

/-- The checks of an upload ask for a key and for a file that can be read.  They do
not ask whether there is a bucket. -/
theorem checkUpload_eq_ok_iff {files : Files} {body : List UInt8} :
    checkUpload key upload files = .ok body ↔ key ≠ "" ∧ upload.bytes files = .ok body := by
  rw [checkUpload]
  split <;> simp [*]

/-- Nothing happens when a check fails: no call is made, and nothing is reported of
it. -/
theorem putObject_of_unchecked (source : Source) (bucket : String) (override : Option String)
    {failure : Failure} (h : checkUpload key upload w.files = .error failure) :
    putObject source bucket key upload override w = (.error failure, w) := by
  rw [checkUpload] at h
  split at h
  · rename_i hkey
    subst hkey
    cases h
    exact putObject_of_noKey
  · rename_i hkey
    exact putObject_of_noFile hkey h

end Put

end Provision

end ZonalBucket
