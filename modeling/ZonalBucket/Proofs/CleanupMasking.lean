import ZonalBucket.Proofs.ScenarioPhases

/-!
# The cleanup does not mask how a run ends

The exploration visits three slots only, `explorationSlots`.  Two runs of the head
scenario whose scripts agree there explore alike, `explore_agrees`, and so they end
alike, however their cleanups fare.

A cleanup that does not get through is reported: either all its calls are answered, and
the deletion of the bucket is one of them, or an error is among its records,
`cleanup_adds`.
-/

namespace ZonalBucket.Scenario.Head

/-- Something is reported as an error. -/
def ReportsError (t : Trace) : Prop := ∃ record ∈ t.records, record.level = Level.error

/-- What is reported stays reported, whatever was done before.  The cleanup is the
last part of a run, so that its reports are looked for in the trace of the whole. -/
theorem ReportsError.behind {t : Trace} (h : ReportsError t) (s : Trace) :
    ReportsError (s.append t) := by
  obtain ⟨record, hrecord, hlevel⟩ := h
  exact ⟨record, List.mem_append_right _ hrecord, hlevel⟩

/-- The store answers that it has deleted the bucket. -/
def Deletes (bucket : String) (t : Trace) : Prop :=
  ∃ e ∈ t.exchanges, e.call = .deleteBucket bucket ∧ e.isAnswered = true

/-- A deletion that stands in a piece of the trace also stands in what has this piece
behind it. -/
theorem Deletes.behind {bucket : String} {t : Trace} (h : Deletes bucket t) (s : Trace) :
    Deletes bucket (s.append t) := by
  obtain ⟨e, he, hdone⟩ := h
  exact ⟨e, List.mem_append_right _ he, hdone⟩

open ZonalBucket.Action (Adds Agrees Makes)

variable {own : Source} {config : Config} {bucket key : String} {upload : Upload}

/-- The exploration only looks at what is laid down for its own slots. -/
theorem explore_agrees :
    (explore own config bucket key upload).Agrees (World.AlikeOn explorationSlots) :=
  (Agrees.closed World.AlikeOn.paired).explore Agrees.attempt
    (fun _ _ hslot => World.AlikeOn.invoke hslot) own config upload

/-- **Runs that explore alike end alike.**  The worlds may differ in what is laid down
for listing, for deleting keys and for deleting the bucket, since an outcome of the
cleanup is never an outcome of the run. -/
theorem run_outcome_of_alike {request : Request} {w v : World}
    (h : World.AlikeOn explorationSlots w v) :
    (run own config request w).1 = (run own config request v).1 := by
  have hnames := ((Agrees.closed World.AlikeOn.paired).bucketFor config request.bucket w v h).1
  cases hname : (bucketFor config request.bucket w).1 with
  | ok bucket =>
    rw [hname] at hnames
    rw [run_of_bucketFor hname, run_of_bucketFor hnames.symm, runOn_apply, runOn_apply]
    rw [(explore_agrees w v h).1]
  | error failure =>
    rw [hname] at hnames
    rw [run_of_bucketFor_error hname, run_of_bucketFor_error hnames.symm]

/-- All calls of the exploration belong to its own slots. -/
theorem explore_makes :
    (explore own config bucket key upload).Makes
      (fun e => e.call.slot ∈ explorationSlots) (fun e => e.call.slot ∈ explorationSlots) := by
  refine (Makes.closed fun _ h => h).explore Makes.attempt (fun call _ hslot => ?_) own config
    upload
  exact Makes.invoke (fun _ => hslot) fun _ => hslot

/-- Emptying makes its calls, and goes on only when they were answered. -/
theorem emptyBucket_makes (source : Source) :
    (Emptying.emptyBucket source bucket).Makes (·.isAnswered = true) fun _ => True := by
  have hkeys := Listing.keysFrom_makes (fun _ _ => trivial)
    (fun token => Makes.answered (.listObjects bucket token)) none
  exact (Makes.closed fun _ _ => trivial).emptyBucket hkeys (fun _ => Makes.answered _) source

/-- When the bucket is emptied and deleted, all calls on the way were answered. -/
theorem clear_makes : (clear own bucket).Makes (·.isAnswered = true) (fun _ => True) :=
  (Makes.closed fun _ _ => trivial).clear (emptyBucket_makes _) (Makes.answered _) own

/-- The exploration, refused or not, keeps to its own slots. -/
theorem exploreOrReport_makes :
    (exploreOrReport own config bucket key upload).Makes
      (fun e => e.call.slot ∈ explorationSlots) (fun e => e.call.slot ∈ explorationSlots) := by
  refine Makes.onRefusal explore_makes fun fault => ?_
  exact Makes.bind (fun _ h => h) (Makes.report _ _ _) fun _ => Makes.pure false

/-- A deletion that succeeds was answered.  No value is given for a call that was not
made or that failed. -/
theorem deleteBucket_adds (source : Source) :
    (Inspection.deleteBucket source bucket).Adds fun outcome t =>
      outcome = .ok () → Deletes bucket t := by
  have hcall : (Client.invoke (.deleteBucket bucket)).Adds fun outcome t =>
      ∀ answer, outcome = .ok answer → Deletes bucket t := by
    refine Adds.invoke fun outcome answer hok => ⟨_, List.mem_singleton_self _, rfl, ?_⟩
    rw [Exchange.isAnswered, hok]
    rfl
  have hpassed : ((Client.invoke (.deleteBucket bucket)).onRefusal
      (Action.failRefused source "Failed to delete bucket")).Adds fun outcome t =>
        ∀ answer, outcome = .ok answer → Deletes bucket t := by
    refine Adds.onRefusal hcall (fun _ _ hs _ => hs) fun fault => ?_
    exact Adds.failRefused fun record s hs answer hok => nomatch hok
  refine Adds.bind_last (Adds.report trivial) (fun _ _ hok => nomatch hok)
    (fun outcome s t ht hok => (ht hok).behind s) fun _ => ?_
  refine Adds.bind hpassed (fun _ _ _ hok => nomatch hok) fun answer => ?_
  refine Adds.report fun s hs _ => ?_
  obtain ⟨e, he, hdone⟩ := hs answer rfl
  exact ⟨e, List.mem_append_left _ he, hdone⟩

/-- When the bucket is emptied and deleted, the deletion was answered. -/
theorem clear_adds :
    (clear own bucket).Adds fun outcome t => outcome = .ok () → Deletes bucket t := by
  have hbehind : ∀ (outcome : Outcome Unit) (s t : Trace), (outcome = .ok () → Deletes bucket t) →
      outcome = .ok () → Deletes bucket (s.append t) := fun _ s _ ht hok => (ht hok).behind s
  refine Adds.bind_last (Adds.report trivial) (fun _ _ hok => nomatch hok) hbehind fun _ => ?_
  refine Adds.bind_last ((emptyBucket_makes _).weaken fun _ _ _ => trivial)
    (fun _ _ hok => nomatch hok) hbehind fun _ => ?_
  refine Adds.bind_last (Adds.report trivial) (fun _ _ hok => nomatch hok) hbehind fun _ => ?_
  exact deleteBucket_adds _

/-- **A cleanup that does not get through is reported:** all its calls are answered, and
one of them is the deletion of the bucket, or there is an error among its records. -/
theorem cleanup_adds :
    (cleanup own bucket).Adds fun _ t =>
      ((∀ e ∈ t.exchanges, e.isAnswered = true) ∧ Deletes bucket t) ∨ ReportsError t := by
  have hleft : ∀ failure, (reportLeft own failure).Adds fun _ t => ReportsError t := by
    intro failure
    cases failure <;> exact Adds.report ⟨_, List.mem_singleton_self _, rfl⟩
  refine Adds.recovering (Adds.and clear_makes clear_adds) (fun _ s hs => .inl ⟨hs.1, hs.2 rfl⟩)
    fun failure => ?_
  exact (hleft failure).weaken fun outcome t ht s _ => .inr (ht.behind s)

/-- A run on a bucket makes its calls at the slots of the exploration, and behind them
those of its cleanup. -/
theorem runOn_adds :
    (runOn own config bucket key upload).Adds fun _ t =>
      ((∀ e ∈ t.exchanges, e.call.slot ∈ cleanupSlots → e.isAnswered = true) ∧
        Deletes bucket t) ∨ ReportsError t := by
  refine Adds.ensuring exploreOrReport_makes (fun _ => cleanup_outcome) ?_
  refine cleanup_adds.weaken fun _ t ht outcome s hs => ?_
  have hexplored : ∀ e ∈ s.exchanges, e.call.slot ∈ explorationSlots := by
    cases outcome <;> exact hs
  rcases ht with ⟨hanswered, hdeletes⟩ | herror
  · refine .inl ⟨fun e he hslot => ?_, hdeletes.behind s⟩
    rcases List.mem_append.1 he with he | he
    · have hboth := hexplored e he
      cases hcall : e.call.slot <;> simp [hcall, explorationSlots, cleanupSlots] at hboth hslot
    · exact hanswered e he
  · exact .inr (herror.behind s)

/-- **The cleanup does not mask how a run ends.**  Of two runs that are given the same
answers while they explore, each ends as the other does, whatever befalls their
cleanups.  A run in which a call of the cleanup fails reports an error, and so does a
run that knows its bucket and does not get it deleted. -/
theorem run_unmasked (own : Source) (config : Config) (request : Request) (w : World)
    (script other : Script)
    (hscript : ∀ slot ∈ explorationSlots, script slot = other slot) :
    (run own config request { w with script := script }).1 =
        (run own config request { w with script := other }).1 ∧
      ∃ t, (run own config request { w with script := script }).2.trace = w.trace.append t ∧
        ((∃ e ∈ t.exchanges, e.call.slot ∈ cleanupSlots ∧ e.isAnswered = false) →
          ReportsError t) ∧
        ∀ bucket, (bucketFor config request.bucket w).1 = .ok bucket →
          Deletes bucket t ∨ ReportsError t := by
  refine ⟨run_outcome_of_alike ⟨rfl, rfl, rfl, rfl, hscript⟩, ?_⟩
  -- The name is found in the clock, which does not depend on the script.
  have hname : (bucketFor config request.bucket { w with script := script }).1 =
      (bucketFor config request.bucket w).1 := by
    rw [bucketFor]
    cases Config.nonEmpty? request.bucket <;> rfl
  cases hfound : (bucketFor config request.bucket w).1 with
  | error failure =>
    refine ⟨{}, ?_, ?_, ?_⟩
    · rw [run_of_bucketFor_error (hname.trans hfound), Trace.append_empty]
    · rintro ⟨e, he, -⟩
      simp at he
    · intro bucket hbucket
      cases hbucket
  | ok bucket =>
    rw [run_of_bucketFor (hname.trans hfound)]
    obtain ⟨t, ht, hend⟩ := runOn_adds { w with script := script }
    refine ⟨t, ht, ?_, ?_⟩
    · rintro ⟨e, he, hslot, hfailed⟩
      rcases hend with ⟨hanswered, -⟩ | herror
      · rw [hanswered e he hslot] at hfailed
        cases hfailed
      · exact herror
    · intro found hsame
      obtain rfl : bucket = found := Except.ok.inj hsame
      exact hend.imp And.right id

/-- An undisturbed run finds the metadata, and so does one whose listing breaks down. -/
theorem run_unmasked_listing :
    let broken : Script := fun slot =>
      if slot = .listObjects then [.fail (.accident .runtime (.text "no connection"))] else []
    let config : Config := { region := "us-west-2", zone := "usw2-az1" }
    let request : Request := { bucket := some "a--usw2-az1--x-s3" }
    (run .headScenario config request {}).1 = .ok true ∧
      (run .headScenario config request { script := broken }).1 = .ok true ∧
      ∃ t, (run .headScenario config request { script := broken }).2.trace = t ∧
        (Deletes "a--usw2-az1--x-s3" t ∨ ReportsError t) := by
  intro broken config request
  have halike : ∀ slot ∈ explorationSlots, broken slot = Script.empty slot := by
    intro slot hslot
    refine if_neg ?_
    rintro rfl
    simp [explorationSlots] at hslot
  obtain ⟨hsame, t, ht, -, hreported⟩ :=
    run_unmasked .headScenario config request {} broken Script.empty halike
  have hexplore : (explore .headScenario config "a--usw2-az1--x-s3" defaultKey .sample {}).1 =
      .ok true := rfl
  have hfound : (run .headScenario config request {}).1 = .ok true := by
    rw [run_of_bucketFor rfl, runOn_apply, hexplore]
    rfl
  refine ⟨hfound, hsame.trans hfound, t, ?_, hreported _ rfl⟩
  rw [ht]
  simp [Trace.append]

end ZonalBucket.Scenario.Head
