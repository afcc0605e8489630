import ZonalBucket.Proofs.CallsMade
import ZonalBucket.Proofs.TwoRuns
import ZonalBucket.Scenario.Delete
import ZonalBucket.Scenario.Head

/-!
# The phases of the head scenario

A run of the head scenario explores first and cleans up then.  The cleanup never fails,
`cleanup_outcome`, so that a run ends as its exploration did, a refusal counting as
nothing found: this is `runOn_apply`, from which all that is said about runs follows.
-/

namespace ZonalBucket.Scenario

/-- Finding the name of the bucket changes nothing, whether a name was asked for or
one is made up from the clock. -/
theorem bucketFor_world (config : Config) (asked : Option String) (w : World) :
    (bucketFor config asked w).2 = w := by
  rw [bucketFor]
  cases Config.nonEmpty? asked <;> rfl

/-- The name depends on the clock only.  In worlds that differ in anything else the
same bucket is worked on. -/
theorem bucketFor_of_clock {config : Config} {asked : Option String} {w v : World}
    (hclock : v.clock = w.clock) : (bucketFor config asked v).1 = (bucketFor config asked w).1 := by
  rw [bucketFor]
  cases Config.nonEmpty? asked with
  | some bucket => rfl
  | none =>
    have hname : ∀ u : World, ((do
          let named ← Action.look fun w =>
            BucketName.make config.bucketPrefix config.zone none w.clock
          Action.ofOutcome named) u).1 =
        BucketName.make config.bucketPrefix config.zone none u.clock := fun _ => rfl
    rw [hname, hname, hclock]

/-- A run on a bucket of a known name goes on with this bucket in the world in which
it was asked for. -/
theorem Delete.run_of_bucketFor {own : Source} {config : Config} {asked : Option String}
    {bucket : String} {w : World} (hname : (bucketFor config asked w).1 = .ok bucket) :
    run own config asked w = runOn own config bucket w :=
  Action.bind_of_ok _ (Prod.ext hname (bucketFor_world config asked w))

namespace Head

variable {own : Source} {config : Config} {bucket key : String} {upload : Upload} {w : World}

/-- How a run ends whose exploration ended so. -/
def settle : Outcome Bool → Outcome Bool
  | .error (.refused _) => .ok false
  | outcome => outcome

/-- A run fails with what is no refusal.  A refusal has been reported by then, and
shows as a run without success. -/
theorem settle_eq_error {outcome : Outcome Bool} {failure : Failure} :
    settle outcome = .error failure ↔
      outcome = .error failure ∧ ∀ fault, failure ≠ .refused fault := by
  constructor
  · intro h
    cases outcome with
    | ok found => cases h
    | error cause =>
      cases cause <;> cases h <;> exact ⟨rfl, fun _ heq => nomatch heq⟩
  · rintro ⟨rfl, hother⟩
    cases failure with
    | refused fault => exact absurd rfl (hother fault)
    | _ => rfl

/-- A run tells of metadata when its exploration found some. -/
theorem settle_eq_true {outcome : Outcome Bool} :
    settle outcome = .ok true ↔ outcome = .ok true := by
  constructor
  · intro h
    cases outcome with
    | ok found => exact h
    | error cause => cases cause <;> cases h
  · rintro rfl
    rfl

/-- The exploration, with a refusal reported. -/
def exploreOrReport (own : Source) (config : Config) (bucket key : String) (upload : Upload) :
    Action Bool :=
  (explore own config bucket key upload).onRefusal fun fault => do
    reportEnd own fault
    pure false

/-- An exploration that was refused ends without success, and other failures are still
failures.  What was reported of the refusal does not show in the ending. -/
theorem exploreOrReport_outcome :
    (exploreOrReport own config bucket key upload w).1 =
      settle (explore own config bucket key upload w).1 := by
  cases hrun : explore own config bucket key upload w with
  | mk outcome v =>
    rcases Action.onRefusal_cases _ hrun with ⟨fault, rfl, hend⟩ | ⟨hother, hend⟩
    · rw [exploreOrReport, hend]
      rfl
    · rw [exploreOrReport, hend]
      cases outcome with
      | ok found => rfl
      | error failure =>
        cases failure with
        | refused fault => exact absurd rfl (hother fault)
        | _ => rfl

/-- Whatever goes wrong in the cleanup is only reported.  This holds for every kind of
failure, the faults of the program included. -/
theorem cleanup_outcome : (cleanup own bucket w).1 = .ok () := by
  cases hrun : clear own bucket w with
  | mk outcome v =>
    cases outcome with
    | ok done => rw [cleanup, Action.recovering_of_ok _ hrun]
    | error failure =>
      rw [cleanup, Action.recovering_of_error _ hrun]
      cases failure <;> rfl

/-- **A run ends as its exploration does,** and leaves what the cleanup leaves.  The
cleanup has no value to give and cannot fail, so that nothing of it shows in the
ending. -/
theorem runOn_apply :
    runOn own config bucket key upload w =
      (settle (explore own config bucket key upload w).1,
        (cleanup own bucket (exploreOrReport own config bucket key upload w).2).2) := by
  rw [← exploreOrReport_outcome]
  exact Action.ensuring_of_ok rfl (Prod.ext cleanup_outcome rfl)

/-- A run on a bucket of a known name goes on with this bucket, and with the key and
the upload that were asked for. -/
theorem run_of_bucketFor {request : Request}
    (hname : (bucketFor config request.bucket w).1 = .ok bucket) :
    run own config request w = runOn own config bucket request.key request.upload w :=
  Action.bind_of_ok _ (Prod.ext hname (bucketFor_world config request.bucket w))

/-- A run that finds no name does nothing.  There is no bucket to be cleaned up, and
no call is made. -/
theorem run_of_bucketFor_error {request : Request} {failure : Failure}
    (hname : (bucketFor config request.bucket w).1 = .error failure) :
    run own config request w = (.error failure, w) :=
  Action.bind_of_error _ (Prod.ext hname (bucketFor_world config request.bucket w))

/-- The exploration finds something when the bucket is created, the file is uploaded and
a fetch gives metadata. -/
theorem explore_eq_true :
    (explore own config bucket key upload w).1 = .ok true ↔
      ∃ v u result, Provision.createBucket .provision bucket config.zone w = (.ok (), v) ∧
        Provision.putObject .provision bucket key upload none v = (.ok (), u) ∧
        (Inspection.fetch .inspection bucket key u).1 = .ok result ∧
        result.metadata.isSome = true := by
  constructor
  · intro h
    obtain ⟨_, v, hcreate, h⟩ := Action.bind_eq_ok.1 h
    obtain ⟨_, u, hput, h⟩ := Action.bind_eq_ok.1 h
    obtain ⟨found, t, hhead, h⟩ := Action.bind_eq_ok.1 h
    obtain ⟨_, s, -, h⟩ := Action.bind_eq_ok.1 h
    obtain rfl : found = true := Except.ok.inj h
    obtain ⟨result, r, hfetch, h⟩ := Action.bind_eq_ok.1 (congrArg Prod.fst hhead)
    have hresult : (Inspection.fetch .inspection bucket key u).1 = .ok result :=
      congrArg Prod.fst hfetch
    refine ⟨v, u, result, hcreate, hput, hresult, ?_⟩
    rw [← Inspection.fetch_found hresult]
    exact Except.ok.inj h
  · rintro ⟨v, u, result, hcreate, hput, hresult, hsome⟩
    rw [← Inspection.fetch_found hresult] at hsome
    refine Action.bind_eq_ok.2 ⟨_, v, hcreate, Action.bind_eq_ok.2 ⟨_, u, hput, ?_⟩⟩
    have hhead : (Inspection.head .inspection bucket key u).1 = .ok true :=
      Action.bind_eq_ok.2 ⟨result, _, Prod.ext hresult rfl, congrArg Except.ok hsome⟩
    exact Action.bind_eq_ok.2 ⟨true, _, Prod.ext hhead rfl, rfl⟩

end Head

end ZonalBucket.Scenario
