import ZonalBucket.Proofs.PartsOfPrograms
import ZonalBucket.Session

/-!
# From programs and requests to steps

The steps of a session are of three kinds: some prepare what later ones meet,
`Step.prepares`, some open a client of their own, `Step.opensClient`, and all others do
their work with the client that is there.  For a property that passes from the parts of an
action to the whole, the steps of the second and of the third kind are gone through once,
here: `Hereditary.perform_opening` and `Hereditary.perform`.
-/

namespace ZonalBucket

namespace Step

/-- The steps that only prepare what later ones meet. -/
def prepares : Step → Bool
  | seed .. | script .. | environment .. | clock .. | write .. | makeFolder .. | start .. => true
  | _ => false

/-- The steps that open a client of their own, unless they are turned away before. -/
def opensClient : Step → Bool
  | serviceHead .. | serviceDelete .. | program .. | request _ none => true
  | _ => false

/-- Whether a step may make calls about a bucket.  The scenarios find the name of their
bucket as they run. -/
def mayConcern (bucket : String) : Step → Prop
  | createBucket _ name _ | putObject _ name .. | deleteObject _ name _ | emptyBucket _ name
  | head _ name _ | fetch _ name _ | deleteBucket _ name
  | serviceHead _ name _ | serviceDelete _ name => name = bucket
  | request asked _ => asked.bucket? = some bucket
  | headScenario .. | deleteScenario .. | program .. => True
  | _ => False

end Step

namespace Action.Hereditary

open ZonalBucket.Session

variable {P : {α : Type} → Action α → Prop} {s : Step}

/-- What a session keeps of an action without a value. -/
theorem silently (hP : Hereditary P) {action : Action Unit} (h : P action) :
    P (silently action) :=
  hP.bind h fun _ => hP.pure _

/-- What a session keeps of the value of an action. -/
theorem reporting (hP : Hereditary P) {α : Type} {action : Action α} (h : P action)
    (report : α → Report) : P (reporting report action) :=
  hP.bind h fun _ => hP.pure _

/-- A step with a client of its own is put together of calls about the bucket it may
concern, of client blocks, and of what is done to the log. -/
theorem perform_opening (hP : Hereditary P) (hlog : P setUpLog)
    (hlevel : P (setLevel closedLevel)) (hblocks : ∀ config, BlocksOf P config)
    (hcalls : ∀ bucket, s.mayConcern bucket → CallsOf P bucket) (hs : s.opensClient = true) :
    P (perform s) := by
  cases s with
  | serviceHead service bucket key =>
    exact hP.reporting (hP.serviceHead (hblocks _) (hP.fetched (hcalls bucket rfl) _ key)) _
  | serviceDelete service bucket =>
    exact hP.silently (hP.serviceDelete (hblocks _) (hP.deleted (hcalls bucket rfl) _))
  | program program own =>
    have hrun := hP.execute hlog hblocks (fun bucket => hcalls bucket trivial) program own
    exact hP.bind hlevel fun _ => hP.reporting hrun _
  | request asked standIn =>
    cases standIn with
    | none => exact hP.reporting (hP.serve hblocks hcalls) _
    | some result => exact nomatch hs
  | _ => exact nomatch hs

/-- **A step that does not prepare, when those with a client of their own are known.**
There is one case for each step, and those that make calls make them about the bucket
that they may concern. -/
theorem perform (hP : Hereditary P) (hcalls : ∀ bucket, s.mayConcern bucket → CallsOf P bucket)
    (hprepares : s.prepares = true → P (perform s))
    (hopens : s.opensClient = true → P (perform s)) : P (Session.perform s) := by
  cases s with
  | createBucket source bucket zone =>
    exact hP.silently (hP.createBucket ((hcalls bucket rfl).invoke _ rfl) source)
  | putObject source bucket key upload contentType =>
    have hcall : ∀ body type, P (Client.invoke (.putObject bucket key body type)) :=
      fun _ _ => (hcalls bucket rfl).invoke _ rfl
    exact hP.silently (hP.putObject hcall source upload contentType)
  | deleteObject source bucket key =>
    have hcall : P (Client.invoke (.deleteObject bucket key)) := (hcalls bucket rfl).invoke _ rfl
    exact hP.silently (hP.deleteObject hcall source)
  | emptyBucket source bucket => exact hP.reporting (hP.emptied (hcalls bucket rfl) source) _
  | head source bucket key =>
    have hcall : P (Client.invoke (.headObject bucket key)) := (hcalls bucket rfl).invoke _ rfl
    exact hP.reporting (hP.head (hP.attempt hcall) source) _
  | fetch source bucket key => exact hP.reporting (hP.fetched (hcalls bucket rfl) source key) _
  | deleteBucket source bucket => exact hP.silently (hP.deleted (hcalls bucket rfl) source)
  | serviceConfig service => exact hP.pure _
  | environmentConfig => exact hP.reporting hP.serviceOfEnvironment _
  | headScenario config request =>
    exact hP.reporting (hP.headRun (fun bucket => hcalls bucket trivial) _ request) _
  | deleteScenario config asked =>
    exact hP.reporting (hP.deleteRun (fun bucket => hcalls bucket trivial) _ asked) _
  | unfit failure => exact hP.fail failure
  | request asked standIn =>
    cases standIn with
    | none => exact hopens rfl
    | some result => exact hP.reporting (hP.handleStandIn result asked) _
  | serviceHead | serviceDelete | program => exact hopens rfl
  | seed | script | environment | clock | write | makeFolder | start => exact hprepares rfl

end Action.Hereditary

end ZonalBucket
