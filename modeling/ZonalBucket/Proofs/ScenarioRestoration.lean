import ZonalBucket.Proofs.CompleteEmptying
import ZonalBucket.Proofs.InspectionOutcomes
import ZonalBucket.Proofs.ScenarioPhases

/-!
# What a run of the head scenario leaves in the store

The exploration works on its own bucket only, and the cleanup takes that bucket away,
`cleanup_store`.  So a run leaves the store without the bucket and otherwise as it was,
`runOn_store`, however far it came.  A run on a free name restores the store; a run on
a name that is taken destroys the bucket that was there.
-/

namespace ZonalBucket

namespace Provision

/-- A bucket that is there cannot be created, and the store stays as it is. -/
theorem createBucket_of_some (source : Source) (zone : String) {w : World} {name : String}
    {bucket : Bucket} (hscript : w.script .createBucket = [])
    (htaken : w.store.get? name = some bucket) :
    ∃ t, createBucket source name zone w = (.error (.refused Store.alreadyOwned), w.tell t) := by
  have houtcome : w.outcomeOf (.createBucket name zone) =
      .error (.refused Store.alreadyOwned) := by
    rw [World.outcomeOf_of_pass (World.nextAnswer_of_nil hscript)]
    simp [Call.perform, Store.create, Catalog.contains, htaken, Call.orRefused, Except.map]
  rw [createBucket_apply, World.afterCall_of_error hscript houtcome, houtcome]
  exact ⟨_, rfl⟩

end Provision

namespace Inspection

/-- An empty bucket is deleted when nothing is laid down against it, and it is gone
from the store then. -/
theorem deleteBucket_of_empty (source : Source) {w : World} {name : String}
    (hscript : w.script .deleteBucket = []) (hempty : w.store.get? name = some Catalog.empty) :
    ∃ v, deleteBucket source name w = (.ok (), v) ∧ v.store = w.store.erase name := by
  have hpass : w.nextAnswer .deleteBucket = .pass := World.nextAnswer_of_nil hscript
  have hperform : Call.perform w.limits.pageSize w.store (.deleteBucket name) =
      .ok (.object [], w.store.erase name) := Call.perform_deleteBucket_of_empty hempty rfl
  rw [deleteBucket_apply, World.outcomeOf_of_pass hpass, hperform]
  exact ⟨_, rfl, World.storeAfter_of_pass hpass hperform⟩

end Inspection

namespace Scenario.Head

variable {own : Source} {config : Config} {bucket key : String} {upload : Upload} {w : World}

section Cleanup

/-- A bucket that is there is emptied and deleted.  Whatever the exploration left in
it does not matter, and no other bucket is touched. -/
theorem clear_of_some (own : Source) {found : Bucket} (hw : w.Undisturbed)
    (hdelete : w.script .deleteBucket = [])
    (hbucket : w.store.get? bucket = some found) :
    ∃ v, clear own bucket w = (.ok (), v) ∧ v.store = w.store.erase bucket := by
  obtain ⟨s, hbegin⟩ : ∃ s, Action.info own s!"Deleting the objects in bucket: {bucket}" w =
      (.ok (), w.tell s) := ⟨_, Action.info_eq_tell own _ w⟩
  obtain ⟨count, v, hempty, hstore, hscript⟩ :=
    Emptying.emptyBucket_store .provision (w := w.tell s) (hw.tell s) hbucket
  obtain ⟨t, hmiddle⟩ : ∃ t, Action.info own s!"Attempting to delete bucket: {bucket}" v =
      (.ok (), v.tell t) := ⟨_, Action.info_eq_tell own _ v⟩
  have hleft : (v.tell t).store.get? bucket = some Catalog.empty := by
    rw [World.tell_store, hstore]
    exact (Catalog.get?_insert _ _ _ _).trans (if_pos rfl)
  have hdelete' : (v.tell t).script .deleteBucket = [] := by
    rw [World.tell_script, hscript, World.tell_script, hdelete]
  obtain ⟨u, hend, hgone⟩ := Inspection.deleteBucket_of_empty .inspection hdelete' hleft
  refine ⟨u, ?_, ?_⟩
  · rw [clear, Action.bind_of_ok _ hbegin, Action.bind_of_ok _ hempty, Action.bind_of_ok _ hmiddle,
      hend]
  · rw [hgone, World.tell_store, hstore]
    exact Catalog.erase_insert _ _ _

/-- A bucket that is not there cannot be emptied, and the store stays as it is. -/
theorem clear_of_none (own : Source) (hw : w.Undisturbed) (habsent : w.store.get? bucket = none) :
    ∃ failure t, clear own bucket w = (.error failure, w.tell t) := by
  obtain ⟨s, hbegin⟩ : ∃ s, Action.info own s!"Deleting the objects in bucket: {bucket}" w =
      (.ok (), w.tell s) := ⟨_, Action.info_eq_tell own _ w⟩
  obtain ⟨t, hempty⟩ := Emptying.emptyBucket_of_none (w := w.tell s) .provision (hw.tell s) habsent
  rw [World.tell_tell] at hempty
  refine ⟨.refused (Store.noSuchBucket "ListObjectsV2"), s.append t, ?_⟩
  rw [clear, Action.bind_of_ok _ hbegin, Action.bind_of_error _ hempty]

/-- **The cleanup takes the bucket away,** if it is there, and nothing else.  Where
there is none the listing is refused, which is reported and forgotten. -/
theorem cleanup_store (hw : w.Undisturbed) (hdelete : w.script .deleteBucket = []) :
    (cleanup own bucket w).2.store = w.store.erase bucket := by
  cases hfound : w.store.get? bucket with
  | some found =>
    obtain ⟨v, hclear, hstore⟩ := clear_of_some own hw hdelete hfound
    rw [cleanup, Action.recovering_of_ok _ hclear]
    exact hstore
  | none =>
    obtain ⟨failure, t, hclear⟩ := clear_of_none own hw hfound
    have hreport : (reportLeft own failure (w.tell t)).2.store = w.store := by
      cases failure <;> rfl
    rw [cleanup, Action.recovering_of_error _ hclear, hreport, Catalog.erase_of_get? hfound]

end Cleanup

/-- The exploration works on its own bucket, at its own slots. -/
theorem exploreOrReport_worksOn (own : Source) (config : Config) (bucket key : String)
    (upload : Upload) :
    (exploreOrReport own config bucket key upload).WorksOn bucket explorationSlots := by
  have hexplore : (explore own config bucket key upload).WorksOn bucket explorationSlots :=
    Action.WorksOn.hereditary.explore Action.WorksOn.hereditary.attempt
      (fun _ hbucket hslot => Action.WorksOn.invoke hbucket hslot) own config upload
  refine Action.WorksOn.hereditary.onRefusal hexplore fun fault => ?_
  exact Action.WorksOn.hereditary.bind (Action.WorksOn.hereditary.report _ _ _) fun _ =>
    Action.WorksOn.hereditary.pure false

/-- **A run leaves the store without its bucket and otherwise as it was.**  If the
bucket was not there in the beginning, this is the store that it began with. -/
theorem runOn_store (hw : w.Undisturbed) (hdelete : w.script .deleteBucket = []) :
    (runOn own config bucket key upload w).2.store = w.store.erase bucket := by
  obtain ⟨hothers, hlimits, hscript⟩ :=
    exploreOrReport_worksOn own config bucket key upload w
  have hundisturbed :
      (exploreOrReport own config bucket key upload w).2.Undisturbed := by
    refine ⟨?_, ?_, ?_, ?_⟩
    · rw [hlimits]
      exact hw.pageSize
    · rw [hlimits]
      exact hw.batchSize
    · rw [hscript _ (by simp [explorationSlots]), hw.listing]
    · rw [hscript _ (by simp [explorationSlots]), hw.deleting]
  have hdelete' : (exploreOrReport own config bucket key upload w).2.script .deleteBucket = [] := by
    rw [hscript _ (by simp [explorationSlots]), hdelete]
  rw [runOn_apply]
  refine (cleanup_store hundisturbed hdelete').trans (Catalog.ext_get? fun name => ?_)
  simp only [Catalog.get?_erase]
  split
  · rfl
  · rename_i hne
    exact hothers name hne

section Results

variable {request : Request}

/-- The store after a run on a bucket of a known name. -/
theorem run_store (hw : w.Undisturbed) (hdelete : w.script .deleteBucket = [])
    (hname : (bucketFor config request.bucket w).1 = .ok bucket) :
    (run own config request w).2.store = w.store.erase bucket := by
  rw [run_of_bucketFor hname]
  exact runOn_store hw hdelete

/-- **A run on a free name leaves nothing behind.**  Whatever is laid down for the
exploration, the store is afterwards what it was before.  A failure of the exploration
that is no refusal is what the run fails with, a refusal counts as nothing found, and
otherwise the run tells whether the fetch gave metadata. -/
theorem run_restores (own : Source) (config : Config) (request : Request)
    (hpage : 1 ≤ w.limits.pageSize) (hbatch : 1 ≤ w.limits.batchSize)
    (hlisting : w.script .listObjects = []) (hdeleting : w.script .deleteObjects = [])
    (hdelete : w.script .deleteBucket = [])
    (hname : (bucketFor config request.bucket w).1 = .ok bucket)
    (hfree : w.store.get? bucket = none) :
    (run own config request w).2.store = w.store ∧
      (∀ failure, (run own config request w).1 = .error failure ↔
        (explore own config bucket request.key request.upload w).1 = .error failure ∧
          ∀ fault, failure ≠ .refused fault) ∧
      (∀ fault, (explore own config bucket request.key request.upload w).1 =
        .error (.refused fault) → (run own config request w).1 = .ok false) ∧
      ((run own config request w).1 = .ok true ↔
        ∃ v u result, Provision.createBucket .provision bucket config.zone w = (.ok (), v) ∧
          Provision.putObject .provision bucket request.key request.upload none v = (.ok (), u) ∧
          (Inspection.fetch .inspection bucket request.key u).1 = .ok result ∧
          result.metadata.isSome = true) := by
  have hw : w.Undisturbed := ⟨by omega, by omega, hlisting, hdeleting⟩
  have hend : (run own config request w).1 =
      settle (explore own config bucket request.key request.upload w).1 := by
    rw [run_of_bucketFor hname, runOn_apply]
  refine ⟨?_, fun failure => ?_, fun fault hrefused => ?_, ?_⟩
  · rw [run_store hw hdelete hname, Catalog.erase_of_get? hfree]
  · rw [hend]
    exact settle_eq_error
  · rw [hend, hrefused]
    rfl
  · rw [hend]
    exact settle_eq_true.trans explore_eq_true

/-- A run beside two other buckets, whose upload breaks down after the bucket was
created. -/
theorem run_restores_broken_upload :
    let script : Script := fun slot =>
      if slot = .putObject then [.fail (.accident .runtime (.text "no connection"))] else []
    let w : World := { store := Emptying.twoBuckets, script := script, limits := ⟨2, 2⟩ }
    let config : Config := { region := "us-west-2", zone := "usw2-az1" }
    (run .headScenario config { bucket := some "third" } w).2.store = Emptying.twoBuckets ∧
      (run .headScenario config { bucket := some "third" } w).1 =
        .error (.accident .runtime (.text "no connection")) := by
  intro script w config
  have hname : (bucketFor config (some "third") w).1 = .ok "third" := rfl
  obtain ⟨hstore, hfails, -, -⟩ := run_restores (w := w) .headScenario config
    { bucket := some "third" } (by decide) (by decide) rfl rfl rfl hname (by decide)
  refine ⟨hstore, (hfails _).2 ⟨?_, fun _ heq => nomatch heq⟩⟩
  rfl

/-- A taken name ends the exploration at its first step. -/
theorem run_outcome_of_some {found : Bucket} (hcreate : w.script .createBucket = [])
    (hname : (bucketFor config request.bucket w).1 = .ok bucket)
    (htaken : w.store.get? bucket = some found) :
    (run own config request w).1 = .ok false := by
  obtain ⟨t, hrefused⟩ := Provision.createBucket_of_some .provision config.zone hcreate htaken
  have hexplore : explore own config bucket request.key request.upload w = _ :=
    Action.bind_of_error _ hrefused
  rw [run_of_bucketFor hname, runOn_apply, hexplore]
  rfl

/-- **Only a bucket of the run's own name is destroyed.**  When nothing is laid down, all
buckets of other names stay as they are.  A bucket of the run's own name is not there
afterwards; when it was there before, the store refuses to create it, and the run tells
that nothing was found. -/
theorem run_spares_other_names (own : Source) (config : Config) (request : Request)
    (hpage : 1 ≤ w.limits.pageSize) (hbatch : 1 ≤ w.limits.batchSize)
    (hscript : ∀ slot, w.script slot = []) :
    (∀ name, (bucketFor config request.bucket w).1 ≠ .ok name →
      (run own config request w).2.store.get? name = w.store.get? name) ∧
      ∀ bucket, (bucketFor config request.bucket w).1 = .ok bucket →
        (run own config request w).2.store.get? bucket = none ∧
        ((w.store.get? bucket).isSome = true →
          (Provision.createBucket .provision bucket config.zone w).1 =
            .error (.refused Store.alreadyOwned) ∧
          (run own config request w).1 = .ok false) := by
  have hw : w.Undisturbed := ⟨by omega, by omega, hscript _, hscript _⟩
  constructor
  · intro name hother
    cases hname : (bucketFor config request.bucket w).1 with
    | error failure => rw [run_of_bucketFor_error hname]
    | ok bucket =>
      have hne : name ≠ bucket := fun heq => hother (heq ▸ hname)
      rw [run_store hw (hscript _) hname]
      exact (Catalog.get?_erase _ _ _).trans (if_neg hne)
  · intro bucket hname
    constructor
    · rw [run_store hw (hscript _) hname]
      exact (Catalog.get?_erase _ _ _).trans (if_pos rfl)
    · intro htaken
      obtain ⟨found, hfound⟩ := Option.isSome_iff_exists.1 htaken
      obtain ⟨t, hrefused⟩ :=
        Provision.createBucket_of_some .provision config.zone (hscript _) hfound
      exact ⟨congrArg Prod.fst hrefused, run_outcome_of_some (hscript _) hname hfound⟩

/-- A run on the name of one of two buckets: the other one stays. -/
theorem run_spares_other_names_second :
    let w : World := { store := Emptying.twoBuckets, limits := ⟨2, 2⟩ }
    let config : Config := { region := "us-west-2", zone := "usw2-az1" }
    let v := (run .headScenario config { bucket := some "second" } w).2
    v.store.get? "first" = Emptying.twoBuckets.get? "first" ∧
      v.store.get? "second" = none ∧
      (run .headScenario config { bucket := some "second" } w).1 = .ok false := by
  intro w config v
  obtain ⟨hothers, hown⟩ := run_spares_other_names (w := w) .headScenario config
    { bucket := some "second" } (by decide) (by decide) fun _ => rfl
  obtain ⟨hgone, htold⟩ := hown "second" rfl
  have hname : (bucketFor config (some "second") w).1 = .ok "second" := rfl
  have hfirst : (bucketFor config (some "second") w).1 ≠ .ok "first" := by
    rw [hname]
    intro heq
    exact absurd (Except.ok.inj heq) (by decide)
  exact ⟨hothers "first" hfirst, hgone, (htold (by decide)).2⟩

/-- A run on a name that is taken destroys the bucket that was there, with its object. -/
theorem run_destroys_taken :
    let w : World := { store := Store.seed Catalog.empty "b" ["k"] ⟨[0x78], "text/plain"⟩ }
    let config : Config := { region := "us-west-2", zone := "usw2-az1" }
    (w.store.get? "b").map Catalog.names = some ["k"] ∧
      (run .headScenario config { bucket := some "b" } w).2.store.get? "b" = none := by
  intro w config
  have hw : w.Undisturbed := ⟨by decide, by decide, rfl, rfl⟩
  have hname : (bucketFor config (some "b") w).1 = .ok "b" := rfl
  refine ⟨by decide, ?_⟩
  rw [run_store hw rfl hname]
  exact (Catalog.get?_erase _ _ _).trans (if_pos rfl)

end Results

end Scenario.Head

end ZonalBucket
