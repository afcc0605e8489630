import ZonalBucket.Proofs.OtherBuckets
import ZonalBucket.Proofs.SingleCalls

/-!
# What inspections end in

A fetch and a deletion make one call each, and their runs are known from what that call
comes to, `Inspection.fetch_apply` and `Inspection.deleteBucket_apply`.  So is what they end
in, also when they run in a client block, `Inspection.during_fetch` and
`Inspection.during_deleteBucket`.

A fetch never changes the store, and a deletion changes it as its call does.
-/

namespace ZonalBucket

namespace Action

variable {α : Type}

/-- Wherever the action runs, it leaves the store as it is. -/
def KeepsStore (action : Action α) : Prop := ∀ w, (action w).2.store = w.store

/-- An unchanged store stays unchanged from run to run. -/
theorem lasting_store : Lasting fun w v => v.store = w.store where
  refl _ := rfl
  trans h hnext := hnext.trans h
  record _ _ := rfl

/-- To leave the store as it is passes from the parts of an action to the whole. -/
theorem KeepsStore.hereditary : Hereditary fun action => action.KeepsStore :=
  Along.hereditary lasting_store

theorem KeepsStore.blocksOf (config : Config) :
    BlocksOf (fun action => action.KeepsStore) config :=
  Along.blocksOf lasting_store (fun _ _ => rfl) (fun _ _ => rfl) (fun _ => rfl) (fun _ => rfl)
    config

/-- A call leaves the store as it is when the store does not change for it. -/
theorem KeepsStore.invoke {call : Call}
    (hkeep : ∀ pageSize store answer next,
      call.perform pageSize store = .ok (answer, next) → next = store) :
    (Client.invoke call).KeepsStore := by
  refine Along.invoke lasting_store (fun _ => rfl) (fun w => ?_) fun _ _ => rfl
  rw [Client.ask]
  split
  · rename_i answer store hperform
    exact hkeep _ _ _ _ hperform
  · rfl

end Action

open ZonalBucket.Action (closingRecords infoRecord refusalRecords)

namespace Inspection

variable {source : Source} {bucket key : String} {w : World}

section Fetch

/-- What a fetch makes of what its call comes to. -/
def fetched (bucket key : String) : Outcome Document → Outcome HeadResult
  | .ok answer => (Metadata.ofReply answer).map (foundResult bucket key)
  | .error (.refused fault) => .ok (refusedResult bucket key fault)
  | .error failure => .error failure

/-- A refusal is a result, and so it is never what a fetch fails with. -/
theorem fetched_ne_refused (bucket key : String) (ending : Outcome Document)
    (fault : ServiceFault) : fetched bucket key ending ≠ .error (.refused fault) := by
  intro h
  cases ending with
  | error failure => cases failure <;> simp [fetched] at h
  | ok answer =>
    have hreply : Metadata.ofReply answer = .error (.refused fault) := by
      cases hread : Metadata.ofReply answer with
      | ok m => simp [fetched, hread, Except.map] at h
      | error failure => simpa [fetched, hread, Except.map] using h
    rw [Metadata.ofReply] at hreply
    cases hfields : answer.needFields with
    | error cause => simp [hfields] at hreply
    | ok fields =>
      simp only [hfields, Failure.ofChecked] at hreply
      split at hreply <;> cases hreply

/-- The records of metadata that was found. -/
def foundRecords (source : Source) (bucket key : String) (m : Metadata) : List Record :=
  [infoRecord source
      (s!"Amazon S3 object: \"{key}\" found in bucket: \"{bucket}\" with ETag: " ++
        "\"" ++ shownOrNone id m.etag ++ "\""),
    infoRecord source ("Content-Type: " ++ shownOrNone id m.contentType),
    infoRecord source ("Content-Length: " ++ shownOrNone toString m.contentLength),
    infoRecord source ("Last Modified: " ++ shownOrNone Timestamp.text m.lastModified)]

/-- What a fetch reports behind its call. -/
def fetchRecords (source : Source) (bucket key : String) : Outcome Document → List Record
  | .ok answer => match Metadata.ofReply answer with
    | .ok m => foundRecords source bucket key m
    | .error _ => []
  | .error failure => refusalRecords source "Failed to retrieve object metadata" failure

/-- The four records of metadata that was found, the first of them with its tag; a
part that is missing is told as such. -/
theorem reportFound_apply (source : Source) (bucket key : String) (m : Metadata) (w : World) :
    reportFound source bucket key m w =
      (.ok (), w.tell { records := foundRecords source bucket key m }) := by
  rw [reportFound, Action.bind_of_ok _ (Action.info_eq_tell _ _ w),
    Action.bind_of_ok _ (Action.info_eq_tell _ _ _),
    Action.bind_of_ok _ (Action.info_eq_tell _ _ _), Action.info_eq_tell]
  simp [World.tell_tell, Trace.append, foundRecords]

/-- Metadata that was read is reported, and is part of the result. -/
theorem ofAnswer_apply (source : Source) (bucket key : String) (answer : Document) (w : World) :
    ofAnswer source bucket key answer w =
      ((Metadata.ofReply answer).map (foundResult bucket key),
        w.tell { records := fetchRecords source bucket key (.ok answer) }) := by
  rw [ofAnswer, fetchRecords]
  cases hread : Metadata.ofReply answer with
  | ok m =>
    have hm : Action.ofOutcome (.ok m) w = (.ok m, w) := rfl
    rw [Action.bind_of_ok _ hm, Action.bind_of_ok _ (reportFound_apply source bucket key m w)]
    rfl
  | error failure =>
    have hm : (Action.ofOutcome (.error failure) : Action Metadata) w = (.error failure, w) := rfl
    rw [Action.bind_of_error _ hm]
    exact congrArg (Prod.mk _) (World.tell_empty w).symm

/-- What a refusal is made of is a result, and it is reported. -/
theorem ofRefusal_apply (source : Source) (bucket key : String) (fault : ServiceFault)
    (w : World) : ofRefusal source bucket key fault w =
      (.ok (refusedResult bucket key fault),
        w.tell { records := fetchRecords source bucket key (.error (.refused fault)) }) :=
  Action.bind_of_ok _ (Action.reportRefusal_eq_tell _ _ fault w)

/-- **A fetch** is announced, and it is reported what its call came to.  This is the
whole of it, ending, store and records, as an equation in the outcome of the call. -/
theorem fetch_apply (source : Source) (bucket key : String) (w : World) :
    fetch source bucket key w = (fetched bucket key (w.outcomeOf (.headObject bucket key)),
      w.afterCall (.headObject bucket key)
        (infoRecord source s!"Retrieving metadata for object: {key} from bucket: {bucket}" ::
          fetchRecords source bucket key (w.outcomeOf (.headObject bucket key)))) := by
  refine Action.behind_info ?_
  have hattempt := Action.attempt_of_run (Client.invoke_apply (.headObject bucket key)
    (w.tell { records := [infoRecord source
      s!"Retrieving metadata for object: {key} from bucket: {bucket}"] }))
  have hcall : (w.tell { records := [infoRecord source
      s!"Retrieving metadata for object: {key} from bucket: {bucket}"] }).outcomeOf
      (.headObject bucket key) = w.outcomeOf (.headObject bucket key) :=
    World.outcomeOf_of_alike rfl rfl rfl
  rw [hcall] at hattempt
  cases houtcome : w.outcomeOf (.headObject bucket key) with
  | ok answer =>
    rw [houtcome] at hattempt
    rw [Action.bind_of_ok _ hattempt]
    refine (ofAnswer_apply source bucket key answer _).trans ?_
    rw [World.afterCall, hcall, houtcome, World.tell_tell]
    rfl
  | error failure =>
    rw [houtcome] at hattempt
    cases failure with
    | refused fault =>
      rw [Action.bind_of_ok _ hattempt]
      refine (ofRefusal_apply source bucket key fault _).trans ?_
      rw [World.afterCall, hcall, houtcome, World.tell_tell]
      rfl
    | _ =>
      rw [Action.bind_of_error _ hattempt, World.afterCall, hcall, houtcome]
      rfl

/-- A fetch ends in what it makes of its call. -/
theorem fetch_outcome (source : Source) (bucket key : String) (w : World) :
    (fetch source bucket key w).1 = fetched bucket key (w.outcomeOf (.headObject bucket key)) :=
  congrArg Prod.fst (fetch_apply source bucket key w)

/-- A fetch visits the slot of its call only.  What is laid down for the other slots
is there for those who come behind it. -/
theorem fetch_worksOn (source : Source) (bucket key : String) :
    (fetch source bucket key).WorksOn bucket [.headObject] :=
  Action.WorksOn.hereditary.fetch (Action.WorksOn.hereditary.attempt
    (Action.WorksOn.invoke rfl (List.mem_singleton_self _))) source

end Fetch

section Deletion

/-- **A deletion** is announced, and it is reported how its call went.  This is the
whole of it, as an equation in the outcome of the call. -/
theorem deleteBucket_apply (source : Source) (bucket : String) (w : World) :
    deleteBucket source bucket w = ((w.outcomeOf (.deleteBucket bucket)).map fun _ => (),
      w.afterCall (.deleteBucket bucket)
        (infoRecord source s!"Deleting bucket: {bucket}" ::
          closingRecords source "Failed to delete bucket"
            s!"Successfully deleted bucket: {bucket}" (w.outcomeOf (.deleteBucket bucket)))) :=
  Action.behind_info (Action.reported_apply (.deleteBucket bucket) source _ _ _)

/-- A deletion is its call, between two reports.  Ending and store can be told from
the call, without regard to what is reported. -/
theorem deleteBucket_callsOnce (source : Source) (bucket : String) (w : World) :
    Action.CallsOnce (.deleteBucket bucket) (deleteBucket source bucket) w :=
  .of_afterCall (deleteBucket_apply source bucket w)

/-- A deletion ends as its call does.  The answer is not looked at, and a refusal is
reported and passed on unchanged. -/
theorem deleteBucket_outcome (source : Source) (bucket : String) (w : World) :
    (deleteBucket source bucket w).1 =
      (w.outcomeOf (.deleteBucket bucket)).map fun _ => () :=
  (deleteBucket_callsOnce source bucket w).outcome

/-- A deletion changes the store as its call does; a call that fails may have been
meant to change it, but does not. -/
theorem deleteBucket_store (source : Source) (bucket : String) (w : World) :
    (deleteBucket source bucket w).2.store = w.storeAfter (.deleteBucket bucket) :=
  (deleteBucket_callsOnce source bucket w).store

/-- A deletion visits the slot of its call only, and touches no other bucket. -/
theorem deleteBucket_worksOn (source : Source) (bucket : String) :
    (deleteBucket source bucket).WorksOn bucket [.deleteBucket] :=
  Action.WorksOn.hereditary.deleteBucket
    (Action.WorksOn.invoke rfl (List.mem_singleton_self _)) source

end Deletion

section Blocks

variable {config : Config}

/-- What a fetch in a client block ends in: a failure to request or to enter the
client comes before it, and one to leave the client takes its place. -/
theorem during_fetch (config : Config) (source : Source) (bucket key : String) (w : World) :
    (Client.during config (fetch source bucket key) w).1 =
      w.blockEnd (fetched bucket key (w.outcomeOf (.headObject bucket key))) := by
  refine Client.during_outcome config ?_ ?_
  · have hslot : (Client.inside config w).script .headObject = w.script .headObject :=
      Client.inside_script (by decide) (by decide)
    have hcall : (Client.inside config w).outcomeOf (.headObject bucket key) =
        w.outcomeOf (.headObject bucket key) := World.outcomeOf_of_alike hslot rfl rfl
    rw [fetch_outcome, hcall]
  · rw [(fetch_worksOn source bucket key _).script .exit (by decide)]
    exact Client.inside_script (by decide) (by decide)

/-- What a deletion in a client block ends in.  An exit that fails takes the place of
a refusal here, too, so that the refusal is only seen in the records. -/
theorem during_deleteBucket (config : Config) (source : Source) (bucket : String) (w : World) :
    (Client.during config (deleteBucket source bucket) w).1 =
      w.blockEnd ((w.outcomeOf (.deleteBucket bucket)).map fun _ => ()) := by
  refine Client.during_outcome config ?_ ?_
  · have hslot : (Client.inside config w).script .deleteBucket = w.script .deleteBucket :=
      Client.inside_script (by decide) (by decide)
    have hcall : (Client.inside config w).outcomeOf (.deleteBucket bucket) =
        w.outcomeOf (.deleteBucket bucket) := World.outcomeOf_of_alike hslot rfl rfl
    rw [deleteBucket_outcome, hcall]
  · rw [(deleteBucket_worksOn source bucket _).script .exit (by decide)]
    exact Client.inside_script (by decide) (by decide)

end Blocks

end Inspection

end ZonalBucket
