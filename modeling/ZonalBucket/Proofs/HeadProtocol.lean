import ZonalBucket.Proofs.ScenarioRestoration
import ZonalBucket.Proofs.SuccessReport

/-!
# The protocol of the head scenario

A run creates its bucket, uploads the file if that worked, and fetches the metadata if that
worked, too: `Explores` tells all calls that this can come to, and what they lead to.
However far it came, the run lists the bucket then, deletes what was listed, and deletes the
bucket if it could be emptied, `Cleans`.  No run does anything else, `run_protocol`.

Each step either ends the exploration or goes on, and reports nothing like success,
`Does.step`; so success is reported exactly when the run ends with it.
-/

namespace ZonalBucket.Scenario.Head

open ZonalBucket.Action (infoRecord)

variable {bucket zone key : String} {upload : Upload} {w : World}

section Exploration

/-- The run of the action in this world makes calls and ends as `P` tells, and it reports
success exactly when it ends with it. -/
def Does (action : Action Bool) (w : World) (P : List Exchange → Outcome Bool → Prop) : Prop :=
  ∃ t, (action w).2.trace = w.trace.append t ∧ P t.exchanges (action w).1 ∧
    (Tells t.records ↔ (action w).1 = .ok true)

/-- What is known of the calls and of the ending of a run may be told less exactly. -/
theorem Does.weaken {action : Action Bool} {P Q : List Exchange → Outcome Bool → Prop}
    (h : Does action w P) (himp : ∀ made outcome, P made outcome → Q made outcome) :
    Does action w Q := by
  obtain ⟨t, ht, hP, htells⟩ := h
  exact ⟨t, ht, himp _ _ hP, htells⟩

/-- A failure in front of the first call leaves no calls, so that the language of the
runs has to allow for none of them. -/
theorem Does.of_error {action : Action Bool} {P : List Exchange → Outcome Bool → Prop}
    {failure : Failure} (h : action w = (.error failure, w)) (hP : P [] (.error failure)) :
    Does action w P := by
  refine ⟨{}, ?_, ?_, ?_⟩
  · rw [h, Trace.append_empty]
  · rw [h]
    exact hP
  · rw [h]
    simp [quiet_nil.not_tells]

/-- **One step:** a call that ends the run when it fails, and goes on when it is answered. -/
theorem Does.step {first : Action Unit} {next : Action Bool} {call : Call} {records : List Record}
    {P : List Exchange → Outcome Bool → Prop} (hquiet : Quiet records)
    (hfirst : first w = ((w.outcomeOf call).map fun _ => (), w.afterCall call records))
    (hfailed : ∀ failure, P [⟨call, .error failure⟩] (.error failure))
    (hnext : ∀ answer, Does next (w.afterCall call records) fun made outcome =>
      P (⟨call, .ok answer⟩ :: made) outcome) :
    Does (first >>= fun _ => next) w P := by
  cases hending : w.outcomeOf call with
  | error failure =>
    rw [hending] at hfirst
    have hrun : (first >>= fun _ => next) w = _ := Action.bind_of_error _ hfirst
    refine ⟨_, congrArg (·.2.trace) hrun, ?_, ?_⟩
    · rw [hrun, hending]
      exact hfailed failure
    · rw [hrun]
      simp [hquiet.not_tells]
  | ok answer =>
    rw [hending] at hfirst
    have hrun : (first >>= fun _ => next) w = next (w.afterCall call records) :=
      Action.bind_of_ok _ hfirst
    obtain ⟨t, ht, hP, htells⟩ := hnext answer
    rw [World.afterCall_trace, Trace.append_assoc, hending] at ht
    refine ⟨_, (congrArg (·.2.trace) hrun).trans ht, ?_, ?_⟩
    · rw [hrun]
      exact hP
    · rw [hrun, Trace.records_append, tells_append, htells]
      simp [hquiet.not_tells]

/-- Whether the metadata was found is reported, and success only if it was. -/
theorem reportFound_apply (own : Source) (found : Bool) (w : World) :
    ∃ records, (Tells records ↔ found = true) ∧
      reportFound own found w = (.ok (), w.tell { records := records }) := by
  cases found with
  | true =>
    refine ⟨_, ?_, Action.info_eq_tell own successText w⟩
    simp [Tells, infoRecord]
  | false =>
    have hbegin : BeginsOtherwise "Failed to retrieve object metadata." := by decide
    refine ⟨[_], ?_, congrArg (Prod.mk _) (World.noteRecord_eq_tell w _)⟩
    exact iff_of_false (quiet_cons.2 ⟨hbegin, quiet_nil⟩).not_tells Bool.false_ne_true

/-- What a run does behind the upload. -/
def lookUp (own : Source) (bucket key : String) : Action Bool := do
  let found ← Inspection.head .inspection bucket key
  reportFound own found
  pure found

/-- Metadata is looked up with one call, whatever that comes to. -/
theorem lookUp_does (own : Source) (bucket key : String) (w : World) :
    Does (lookUp own bucket key) w fun made outcome => ∃ ending,
      made = [⟨.headObject bucket key, ending⟩] ∧
        outcome = (Inspection.fetched bucket key ending).map HeadResult.isTruthy := by
  obtain ⟨records, hquiet, hfetch⟩ := fetch_quiet .inspection bucket key w
  have hhead := Action.bind_pure_apply (Inspection.fetch .inspection bucket key)
    HeadResult.isTruthy w
  rw [hfetch] at hhead
  cases hresult : Inspection.fetched bucket key (w.outcomeOf (.headObject bucket key)) with
  | error failure =>
    rw [hresult] at hhead
    have hrun : lookUp own bucket key w = (.error failure, _) := Action.bind_of_error _ hhead
    refine ⟨_, congrArg (·.2.trace) hrun, ⟨_, rfl, ?_⟩, ?_⟩
    · rw [hrun, hresult]
      rfl
    · rw [hrun]
      simp [hquiet.not_tells]
  | ok result =>
    rw [hresult] at hhead
    obtain ⟨told, htold, hreport⟩ := reportFound_apply own result.isTruthy
      (w.afterCall (.headObject bucket key) records)
    rw [World.tell_afterCall] at hreport
    have hrun : lookUp own bucket key w = (.ok result.isTruthy, _) :=
      (Action.bind_of_ok _ hhead).trans (Action.bind_of_ok _ hreport)
    refine ⟨_, congrArg (·.2.trace) hrun, ⟨_, rfl, ?_⟩, ?_⟩
    · rw [hrun, hresult]
      rfl
    · rw [hrun, tells_append, htold]
      simp [hquiet.not_tells]

/-- What a run can do before it cleans up, and what that leads to. -/
inductive Explores (bucket zone key : String) (upload : Upload) (files : Files) :
    List Exchange → Outcome Bool → Prop
  /-- The bucket is not created, and nothing follows. -/
  | notCreated (failure : Failure) :
    Explores bucket zone key upload files [⟨.createBucket bucket zone, .error failure⟩]
      (.error failure)
  /-- There is no key, or no file that can be read. -/
  | notUploadable (created : Document) {failure : Failure}
      (hcheck : Provision.checkUpload key upload files = .error failure) :
    Explores bucket zone key upload files [⟨.createBucket bucket zone, .ok created⟩]
      (.error failure)
  /-- The file is not uploaded. -/
  | notUploaded (created : Document) {body : List UInt8}
      (hcheck : Provision.checkUpload key upload files = .ok body) (failure : Failure) :
    Explores bucket zone key upload files [⟨.createBucket bucket zone, .ok created⟩,
      ⟨.putObject bucket key body (upload.contentType none), .error failure⟩] (.error failure)
  /-- The metadata is asked for. -/
  | lookedUp (created : Document) {body : List UInt8}
      (hcheck : Provision.checkUpload key upload files = .ok body) (stored : Document)
      (ending : Outcome Document) :
    Explores bucket zone key upload files [⟨.createBucket bucket zone, .ok created⟩,
      ⟨.putObject bucket key body (upload.contentType none), .ok stored⟩,
      ⟨.headObject bucket key, ending⟩]
      ((Inspection.fetched bucket key ending).map HeadResult.isTruthy)

/-- **The exploration** is one step after the other, as far as they go.  Its calls
tell how far it came, and its last step tells what it ends in. -/
theorem explore_does (own : Source) (config : Config) (bucket key : String) (upload : Upload)
    (w : World) :
    Does (explore own config bucket key upload) w
      (Explores bucket config.zone key upload w.files) := by
  obtain ⟨earlier, hearlier, hcreate⟩ := createBucket_quiet .provision bucket config.zone w
  refine Does.step hearlier hcreate .notCreated fun created => ?_
  -- The files are still those of the beginning.
  have hfiles : (w.afterCall (.createBucket bucket config.zone) earlier).files = w.files := rfl
  rw [← hfiles]
  generalize w.afterCall (.createBucket bucket config.zone) earlier = v
  cases hcheck : Provision.checkUpload key upload v.files with
  | error failure =>
    have hput := Provision.putObject_of_unchecked .provision bucket none hcheck
    exact .of_error (Action.bind_of_error _ hput) (.notUploadable created hcheck)
  | ok body =>
    obtain ⟨later, hlater, hput⟩ := putObject_quiet .provision bucket hcheck
    refine Does.step hlater hput (.notUploaded created hcheck) fun stored => ?_
    refine (lookUp_does own bucket key _).weaken ?_
    rintro made outcome ⟨ending, rfl, rfl⟩
    exact .lookedUp created hcheck stored ending

/-- Reporting a refusal adds to the exploration what does not tell of success. -/
theorem exploreOrReport_world (own : Source) (config : Config) (bucket key : String)
    (upload : Upload) (w : World) :
    ∃ records, Quiet records ∧ (exploreOrReport own config bucket key upload w).2 =
      (explore own config bucket key upload w).2.tell { records := records } := by
  cases hrun : explore own config bucket key upload w with
  | mk outcome v =>
    rcases Action.onRefusal_cases (fun fault => reportEnd own fault >>= fun _ => pure false) hrun
      with ⟨fault, rfl, hend⟩ | ⟨hother, hend⟩
    · have hreport := Action.reportRefusal_eq_tell own "An error occurred during S3 operations"
        fault v
      refine ⟨_, quiet_refusal ?_ own (.refused fault),
        congrArg Prod.snd (hend.trans (Action.bind_of_ok _ hreport))⟩
      decide
    · refine ⟨[], quiet_nil, ?_⟩
      exact (congrArg Prod.snd hend).trans (World.tell_empty v).symm

/-- A refusal that is reported tells of no success either. -/
theorem exploreOrReport_does (own : Source) (config : Config) (bucket key : String)
    (upload : Upload) (w : World) :
    Does (exploreOrReport own config bucket key upload) w fun made outcome => ∃ ending,
      Explores bucket config.zone key upload w.files made ending ∧ outcome = settle ending := by
  obtain ⟨t, ht, hexplored, htells⟩ := explore_does own config bucket key upload w
  obtain ⟨records, hquiet, hworld⟩ := exploreOrReport_world own config bucket key upload w
  refine ⟨t.append { records := records }, ?_, ⟨_, ?_, exploreOrReport_outcome⟩, ?_⟩
  · rw [hworld, World.tell_trace, ht, Trace.append_assoc]
  · rw [Trace.exchanges_append, List.append_nil]
    exact hexplored
  · rw [exploreOrReport_outcome, settle_eq_true, Trace.records_append, tells_append, htells]
    simp [hquiet.not_tells]

end Exploration

section Cleanup

/-- What a run does to clean up when emptying the bucket comes to this: the bucket is listed,
what was listed is deleted, and the bucket is deleted when it could be emptied. -/
structure Cleans (bucket : String) (emptied : Outcome Int) (listed deleted last : List Exchange) :
    Prop where
  listed_ne_nil : listed ≠ []
  listing : ∀ e ∈ listed, ∃ token, e.call = .listObjects bucket token
  deleting : ∀ e ∈ deleted, Emptying.Deletes bucket e
  last_call : ∀ e ∈ last, e.call = .deleteBucket bucket
  last_once : last.length ≤ 1
  last_iff : last ≠ [] ↔ ∃ count, emptied = .ok count

/-- Emptying lists first and deletes then.  At least one page is asked for, and a
deletion follows only when the listing ended with all pages read. -/
theorem emptyBucket_calls (source : Source) (bucket : String) (w : World)
    (hsize : w.limits.pageSize ≠ 0) :
    ∃ t listed deleted, (Emptying.emptyBucket source bucket w).2.trace = w.trace.append t ∧
      t.exchanges = listed ++ deleted ∧ listed ≠ [] ∧
      (∀ e ∈ listed, ∃ token, e.call = .listObjects bucket token) ∧
      (∀ e ∈ deleted, Emptying.Deletes bucket e) ∧ Quiet t.records := by
  obtain ⟨listed, hrounds⟩ := Listing.exists_rounds bucket none hsize
  obtain ⟨t, deleted, ht, hmade, hdeleted⟩ :=
    Emptying.emptyBucket_of_rounds source hsize hrounds
  obtain ⟨u, hu, hquiet⟩ := emptyBucket_quiet source bucket w
  obtain rfl : t = u := Trace.append_left_cancel (ht.symm.trans hu)
  obtain ⟨ending, rest, rfl⟩ := hrounds.exists_first
  exact ⟨t, _, deleted, ht, hmade, List.cons_ne_nil _ _, fun e he => hrounds.call_eq he, hdeleted,
    hquiet⟩

/-- The world in which a run begins to empty its bucket, told that it does. -/
def toldToEmpty (own : Source) (bucket : String) (w : World) : World :=
  w.tell { records := [infoRecord own s!"Deleting the objects in bucket: {bucket}"] }

/-- Behind the emptying there is the deletion of the bucket, unless emptying failed. -/
theorem clear_last (own : Source) (bucket : String) (w : World) :
    ∃ last records, Quiet records ∧
      (clear own bucket w).2.trace =
        (Emptying.emptyBucket .provision bucket (toldToEmpty own bucket w)).2.trace.append
          { exchanges := last, records := records } ∧
      (∀ e ∈ last, e.call = .deleteBucket bucket) ∧ last.length ≤ 1 ∧
      (last ≠ [] ↔ ∃ count,
        (Emptying.emptyBucket .provision bucket (toldToEmpty own bucket w)).1 = .ok count) := by
  have hbegin : Action.info own s!"Deleting the objects in bucket: {bucket}" w =
      (.ok (), toldToEmpty own bucket w) := Action.info_eq_tell own _ w
  cases hempty : Emptying.emptyBucket .provision bucket (toldToEmpty own bucket w) with
  | mk emptied v =>
    cases emptied with
    | error failure =>
      have hclear : clear own bucket w = (.error failure, v) :=
        (Action.bind_of_ok _ hbegin).trans (Action.bind_of_error _ hempty)
      refine ⟨[], [], quiet_nil, ?_, by simp, by simp, by simp⟩
      rw [hclear, Trace.append_empty]
    | ok count =>
      obtain ⟨records, hquiet, hdelete⟩ := deleteBucket_quiet .inspection bucket
        (v.tell { records := [infoRecord own s!"Attempting to delete bucket: {bucket}"] })
      have hclear : clear own bucket w = (_, v.afterCall (.deleteBucket bucket) (_ :: records)) :=
        (Action.bind_of_ok _ hbegin).trans
          ((Action.bind_of_ok _ hempty).trans (Action.behind_info hdelete))
      refine ⟨_, _, quiet_cons.2 ⟨?_, hquiet⟩, congrArg (·.2.trace) hclear, ?_, ?_, ?_⟩
      · exact .append (by decide) _
      · simp
      · simp
      · simp

/-- The cleanup only adds the report of a failure.  This is a quiet record, so that a
run tells of success if it did so before its cleanup. -/
theorem cleanup_world (own : Source) (bucket : String) (w : World) :
    ∃ records, Quiet records ∧
      (cleanup own bucket w).2 = (clear own bucket w).2.tell { records := records } := by
  rcases hrun : clear own bucket w with ⟨failure | done, v⟩
  · rw [cleanup, Action.recovering_of_error _ hrun]
    cases failure with
    | refused fault =>
      have hreport := Action.reportRefusal_eq_tell own "Failed to delete bucket" fault v
      refine ⟨_, quiet_refusal ?_ own (.refused fault), congrArg Prod.snd hreport⟩
      decide
    | _ =>
      refine ⟨[_], quiet_cons.2 ⟨?_, quiet_nil⟩, World.noteRecord_eq_tell v _⟩
      exact .append (by decide) _
  · rw [cleanup, Action.recovering_of_ok _ hrun]
    exact ⟨[], quiet_nil, (World.tell_empty v).symm⟩

/-- **The cleanup** always lists the bucket, and deletes it when it could be emptied.
Its records are quiet, whatever befalls it. -/
theorem cleanup_cleans (own : Source) (bucket : String) (w : World)
    (hsize : w.limits.pageSize ≠ 0) :
    ∃ t listed deleted last, (cleanup own bucket w).2.trace = w.trace.append t ∧
      t.exchanges = listed ++ deleted ++ last ∧ Quiet t.records ∧
      Cleans bucket (Emptying.emptyBucket .provision bucket (toldToEmpty own bucket w)).1
        listed deleted last ∧
      (Emptying.emptyBucket .provision bucket (toldToEmpty own bucket w)).2.trace.exchanges =
        w.trace.exchanges ++ (listed ++ deleted) := by
  obtain ⟨t, listed, deleted, ht, hmade, hne, hlisting, hdeleting, hquiet⟩ :=
    emptyBucket_calls .provision bucket (toldToEmpty own bucket w) hsize
  obtain ⟨last, earlier, hearlier, hclear, hcall, honce, hiff⟩ := clear_last own bucket w
  obtain ⟨later, hlater, hworld⟩ := cleanup_world own bucket w
  have htold : BeginsOtherwise s!"Deleting the objects in bucket: {bucket}" :=
    .append (by decide) _
  -- In order: the report, what emptying does, what follows it, and the report of a failure.
  have htrace : (cleanup own bucket w).2.trace =
      ((((toldToEmpty own bucket w).trace.append t).append
        { exchanges := last, records := earlier }).append { records := later }) := by
    rw [hworld, World.tell_trace, hclear, ht]
  rw [toldToEmpty, World.tell_trace, Trace.append_assoc, Trace.append_assoc,
    Trace.append_assoc] at htrace
  refine ⟨_, listed, deleted, last, htrace, ?_, ?_,
    ⟨hne, hlisting, hdeleting, hcall, honce, hiff⟩, ?_⟩
  · simp [hmade]
  · simp [htold, infoRecord, hquiet, hearlier, hlater]
  · rw [ht, Trace.exchanges_append, hmade]
    simp [toldToEmpty]

end Cleanup

section Protocol

/-- The world in which a run begins to empty its bucket. -/
def beforeEmptying (own : Source) (config : Config) (bucket key : String) (upload : Upload)
    (w : World) : World :=
  toldToEmpty own bucket (exploreOrReport own config bucket key upload w).2

/-- The exploration makes each of its calls at most once. -/
theorem Explores.countP_le {files : Files} {made : List Exchange} {outcome : Outcome Bool}
    (h : Explores bucket zone key upload files made outcome) (slot : Slot) :
    made.countP (·.call.slot == slot) ≤ 1 := by
  cases h <;> cases slot <;> simp [Call.slot]

/-- The cleanup makes none of them.  Listing and deleting have slots of their own, so
that a call at a slot of the exploration belongs to the exploration. -/
theorem Cleans.countP_eq_zero {emptied : Outcome Int} {listed deleted last : List Exchange}
    (h : Cleans bucket emptied listed deleted last) {slot : Slot}
    (hslot : slot ∈ explorationSlots) :
    (listed ++ deleted ++ last).countP (·.call.slot == slot) = 0 := by
  have hcleanup : ∀ e ∈ listed ++ deleted ++ last, e.call.slot ∈ cleanupSlots := by
    intro e he
    rcases List.mem_append.1 he with he | he
    · rcases List.mem_append.1 he with he | he
      · obtain ⟨token, hcall⟩ := h.listing e he
        simp [hcall, Call.slot, cleanupSlots]
      · obtain ⟨batch, hcall⟩ := h.deleting e he
        simp [hcall, Call.slot, cleanupSlots]
    · simp [h.last_call e he, Call.slot, cleanupSlots]
  rw [List.countP_eq_zero]
  intro e he heq
  have hmem := hcleanup e he
  rw [eq_of_beq heq] at hmem
  revert hslot hmem
  cases slot <;> decide

/-- **Every run follows the protocol.**  It explores as far as it comes, and then it lists its
bucket, deletes what was listed, and deletes the bucket exactly if emptying it ended in a
count; there are no other calls.  It ends as the exploration did, a refusal counting as
nothing found, and it reports success exactly when it tells of it. -/
theorem run_protocol (own : Source) (config : Config) (request : Request) (w : World)
    (hsize : 1 ≤ w.limits.pageSize) (hname : (bucketFor config request.bucket w).1 = .ok bucket) :
    let ran := run own config request w
    let emptied := Emptying.emptyBucket .provision bucket
      (beforeEmptying own config bucket request.key request.upload w)
    ∃ (t : Trace) (explored listed deleted last : List Exchange) (outcome : Outcome Bool),
      ran.2.trace = w.trace.append t ∧
      t.exchanges = explored ++ (listed ++ deleted ++ last) ∧
      Explores bucket config.zone request.key request.upload w.files explored outcome ∧
      ran.1 = settle outcome ∧
      Cleans bucket emptied.1 listed deleted last ∧
      emptied.2.trace.exchanges = w.trace.exchanges ++ (explored ++ (listed ++ deleted)) ∧
      (∀ slot ∈ explorationSlots, t.exchanges.countP (·.call.slot == slot) ≤ 1) ∧
      (Tells t.records ↔ ran.1 = .ok true) := by
  obtain ⟨s, hs, ⟨outcome, hexplores, hend⟩, htells⟩ :=
    exploreOrReport_does own config bucket request.key request.upload w
  obtain ⟨-, hlimits, -⟩ :=
    exploreOrReport_worksOn own config bucket request.key request.upload w
  obtain ⟨t, listed, deleted, last, ht, hmade, hquiet, hcleans, hemptied⟩ :=
    cleanup_cleans own bucket (exploreOrReport own config bucket request.key request.upload w).2
      (by rw [hlimits]; omega)
  rw [exploreOrReport_outcome] at hend htells
  dsimp only
  rw [run_of_bucketFor hname, runOn_apply, hend]
  refine ⟨s.append t, s.exchanges, listed, deleted, last, outcome, ?_, ?_, hexplores, rfl,
    hcleans, ?_, ?_, ?_⟩
  · rw [ht, hs, Trace.append_assoc]
  · rw [Trace.exchanges_append, hmade]
  · rw [beforeEmptying, hemptied, hs, Trace.exchanges_append, List.append_assoc]
  -- The cleanup visits none of these slots, so that the exploration alone counts.
  · intro slot hslot
    rw [Trace.exchanges_append, List.countP_append, hmade, hcleans.countP_eq_zero hslot]
    exact hexplores.countP_le slot
  · rw [Trace.records_append, tells_append, htells, hend]
    simp [hquiet.not_tells]

/-- Without a key nothing is uploaded: one call is made before the cleanup, and the run fails
with that. -/
theorem run_protocol_noKey :
    let config : Config := { region := "us-west-2", zone := "usw2-az1" }
    let ran := run .headScenario config { bucket := some "b", key := "" } {}
    ∃ explored listed deleted last : List Exchange,
      ran.2.trace.exchanges = explored ++ (listed ++ deleted ++ last) ∧
      explored.map (·.call) = [.createBucket "b" "usw2-az1"] ∧ listed ≠ [] ∧ last.length ≤ 1 ∧
      ran.1 = .error (.emptyArgument .objectKey) ∧ ¬ Tells ran.2.trace.records := by
  intro config ran
  have hname : (bucketFor config (some "b") {}).1 = .ok "b" := rfl
  obtain ⟨t, explored, listed, deleted, last, outcome, ht, hmade, hexplores, -, hcleans, -, -,
    htells⟩ := run_protocol .headScenario config { bucket := some "b", key := "" } {}
      (by decide) hname
  have hfails : ran.1 = .error (.emptyArgument .objectKey) :=
    (congrArg Prod.fst ((run_of_bucketFor hname).trans runOn_apply)).trans rfl
  have htrace : ran.2.trace = t := ht.trans (by simp [Trace.append])
  refine ⟨explored, listed, deleted, last, ?_, ?_, hcleans.listed_ne_nil, hcleans.last_once,
    hfails, ?_⟩
  · rw [htrace, hmade]
  · -- Whatever the call comes to, there is no second one: the check of the key fails.
    cases hexplores with
    | notCreated | notUploadable => rfl
    | notUploaded created hcheck => cases hcheck
    | lookedUp created hcheck => cases hcheck
  · rw [htrace, htells, hfails]
    simp

end Protocol

end ZonalBucket.Scenario.Head
