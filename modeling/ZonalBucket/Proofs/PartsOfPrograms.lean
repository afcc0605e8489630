import ZonalBucket.Http.App
import ZonalBucket.Program
import ZonalBucket.Proofs.PartsOfOperations

/-!
# From operations to programs and requests

Operations pass a refusal on or keep it as a value.  What is built from them, the
scenarios, the client blocks, the service and the routes, also catches failures, cleans
up behind them and looks at the environment.  A property that passes on through all of
this as well is `Action.Hereditary`.

The calls about a bucket, `Action.CallsOf`, and the points of a client block,
`Action.BlocksOf`, are all that the walk through the programs and requests needs to know.
-/

namespace ZonalBucket

namespace Http

/-- The bucket that a route is about. -/
def Route.bucket? : Route → Option String
  | greeting => none
  | bucket name => some name
  | metadata name _ => some name

/-- The bucket that a request is about. -/
def Request.bucket? (request : Request) : Option String :=
  (Route.ofPath? request.path).bind Route.bucket?

end Http

namespace Action

/-- A property that passes from the parts to the whole however failures are caught. -/
structure Hereditary (P : {α : Type} → Action α → Prop) : Prop extends Closed P where
  lookAround : ∀ {α : Type} (f : World → α),
    (∀ w v, w.environment = v.environment → f w = f v) → P (Action.look f)
  trace : ∀ (source : Source) (message : String), P (Action.trace source message)
  attempt : ∀ {α : Type} {action : Action α}, P action → P action.attempt
  onRefusal : ∀ {α : Type} {action : Action α} {handler : ServiceFault → Action α},
    P action → (∀ fault, P (handler fault)) → P (action.onRefusal handler)
  onTransport : ∀ {α : Type} {action : Action α} {handler : TransportFault → Action α},
    P action → (∀ fault, P (handler fault)) → P (action.onTransport handler)
  recovering : ∀ {α : Type} {action : Action α} {handler : Failure → Action α},
    P action → (∀ failure, P (handler failure)) → P (action.recovering handler)
  ensuring : ∀ {α : Type} {action : Action α} {last : Action Unit},
    P action → P last → P (action.ensuring last)

/-- The calls about a bucket have a property, and so has its listing, of which no one
knows beforehand how many calls it makes. -/
structure CallsOf (P : {α : Type} → Action α → Prop) (bucket : String) : Prop where
  invoke : ∀ call : Call, call.bucket = bucket → P (Client.invoke call)
  keys : P (Listing.keys bucket)

/-- Requesting, entering and leaving a client have a property. -/
structure BlocksOf (P : {α : Type} → Action α → Prop) (config : Config) : Prop where
  request : P (Client.request config)
  enter : P Client.enter
  leave : P Client.leave

namespace Hereditary

variable {P : {α : Type} → Action α → Prop} {bucket key : String} {config : Config}

section Operations

theorem emptied (hP : Hereditary P) (hcalls : CallsOf P bucket) (source : Source) :
    P (Emptying.emptyBucket source bucket) :=
  hP.emptyBucket hcalls.keys (fun _ => hcalls.invoke _ rfl) source

theorem fetched (hP : Hereditary P) (hcalls : CallsOf P bucket) (source : Source)
    (key : String) : P (Inspection.fetch source bucket key) :=
  hP.fetch (hP.attempt (hcalls.invoke _ rfl)) source

theorem deleted (hP : Hereditary P) (hcalls : CallsOf P bucket) (source : Source) :
    P (Inspection.deleteBucket source bucket) :=
  hP.deleteBucket (hcalls.invoke _ rfl) source

end Operations

section Scenarios

/-- The cleanup, which recovers from all failures; the recovery is only a report. -/
theorem cleanup (hP : Hereditary P) (hcalls : CallsOf P bucket) (own : Source) :
    P (Scenario.Head.cleanup own bucket) := by
  have hclear := hP.clear (hP.emptied hcalls .provision) (hcalls.invoke _ rfl) own
  refine hP.recovering hclear fun failure => ?_
  cases failure <;> exact hP.report _ _ _

/-- The head scenario on a bucket: an exploration whose refusals are reported, and
then the cleanup, however it ended. -/
theorem headRunOn (hP : Hereditary P) (hcalls : CallsOf P bucket) (own : Source)
    (upload : Upload) : P (Scenario.Head.runOn own config bucket key upload) := by
  have hexplore : P (Scenario.Head.explore own config bucket key upload) :=
    hP.explore hP.attempt (fun call hcall _ => hcalls.invoke call hcall) own config upload
  refine hP.ensuring (hP.onRefusal hexplore fun fault => ?_) (hP.cleanup hcalls own)
  exact hP.bind (hP.report _ _ _) fun _ => hP.pure _

/-- The whole head scenario.  It has to find its bucket first, so that the calls about
all buckets have to be known. -/
theorem headRun (hP : Hereditary P) (hcalls : ∀ bucket, CallsOf P bucket) (own : Source)
    (request : Scenario.Head.Request) : P (Scenario.Head.run own config request) :=
  hP.bind (hP.bucketFor config request.bucket) fun bucket => hP.headRunOn (hcalls bucket) own _

theorem deleteRunOn (hP : Hereditary P) (hcalls : CallsOf P bucket) (own : Source) :
    P (Scenario.Delete.runOn own config bucket) := by
  have hcreate : P (Provision.createBucket .provision bucket config.zone) :=
    hP.createBucket (hcalls.invoke _ rfl) _
  have hboth : P (Scenario.Delete.createAndDelete config bucket) :=
    hP.bind hcreate fun _ => hP.bind (hP.deleted hcalls _) fun _ => hP.pure _
  refine hP.recovering hboth fun failure => hP.bind ?_ fun _ => hP.pure _
  cases failure <;> exact hP.report _ _ _

theorem deleteRun (hP : Hereditary P) (hcalls : ∀ bucket, CallsOf P bucket) (own : Source)
    (asked : Option String) : P (Scenario.Delete.run own config asked) :=
  hP.bind (hP.bucketFor config asked) fun bucket => hP.deleteRunOn (hcalls bucket) own

end Scenarios

section Blocks

/-- A client block, from its body and from what the client does by itself. -/
theorem during (hP : Hereditary P) (hblocks : BlocksOf P config) {α : Type} {body : Action α}
    (hbody : P body) : P (Client.during config body) :=
  hP.bind hblocks.request fun _ => hP.bind hblocks.enter fun _ => hP.ensuring hbody hblocks.leave

/-- A program: the set-up of the log, the configuration, and then the scenario in a
client block. -/
theorem execute (hP : Hereditary P) (hlog : P setUpLog) (hblocks : ∀ config, BlocksOf P config)
    (hcalls : ∀ bucket, CallsOf P bucket) (program : Program) (own : Source) :
    P (program.execute own) := by
  refine hP.bind hlog fun _ => ?_
  refine hP.bind (hP.lookAround _ fun w v h => by rw [h]) fun loaded => ?_
  refine hP.bind (hP.ofOutcome loaded) fun config => ?_
  refine hP.bind (hP.during (hblocks config) ?_) fun _ => hP.pure _
  cases program with
  | head => exact hP.headRun hcalls own _
  | delete => exact hP.deleteRun hcalls own _

end Blocks

section Service

variable {s : Service}

/-- What the service makes of a call that did not get through is a report and a
failure. -/
theorem failUnreached (hP : Hereditary P) {α : Type} (s : Service) (what operation : String)
    (fault : TransportFault) : P (s.failUnreached what operation fault : Action α) :=
  hP.bind (hP.trace _ _) fun _ => hP.fail _

/-- Asking the service for metadata, from the fetch that it makes.  Without a name or
a key it fails at once, which is a part as well. -/
theorem serviceHead (hP : Hereditary P) (hblocks : BlocksOf P s.config)
    (hfetch : P (Inspection.fetch s.source bucket key)) : P (s.headObject bucket key) := by
  rw [Service.headObject]
  split
  · exact hP.fail _
  split
  · exact hP.fail _
  exact hP.onTransport (hP.during hblocks hfetch) (hP.failUnreached s _ _)

/-- Asking the service to delete a bucket, from the deletion that it makes. -/
theorem serviceDelete (hP : Hereditary P) (hblocks : BlocksOf P s.config)
    (hdelete : P (Inspection.deleteBucket s.source bucket)) : P (s.deleteBucket bucket) := by
  rw [Service.deleteBucket]
  split
  · exact hP.fail _
  refine hP.onRefusal ?_ fun fault => hP.fail _
  exact hP.onTransport (hP.during hblocks hdelete) (hP.failUnreached s _ _)

/-- Looking for the service that the environment describes reads the environment and
nothing else. -/
theorem serviceOfEnvironment (hP : Hereditary P) : P Service.ofEnvironment := by
  refine hP.bind (hP.lookAround _ fun w v h => by rw [h]) fun loaded => ?_
  exact hP.bind (hP.ofOutcome loaded) fun _ => hP.pure _

end Service

section Requests

open Http

variable {provide : Action Backend} {backend : Backend}

/-- The answer to a request for metadata is made of what the backend ends in. -/
theorem answerMetadata (hP : Hereditary P) (h : P (backend.headObject bucket key)) :
    P (App.answerMetadata backend bucket key) := by
  refine hP.bind h fun result => ?_
  cases App.foundIn result with
  | some m => exact hP.pure _
  | none => exact hP.fail _

theorem answerDeletion (hP : Hereditary P) (h : P (backend.deleteBucket bucket)) :
    P (App.answerDeletion backend bucket) :=
  hP.bind h fun _ => hP.pure _

/-- A request is what its route is, when the way to a service is known. -/
theorem handle (hP : Hereditary P) {request : Http.Request}
    (hanswer : ∀ route, Route.ofPath? request.path = some route → P (App.answer provide route)) :
    P (App.handle provide request) := by
  rw [App.handle]
  split
  · exact hP.pure _
  · rename_i route hroute
    split
    · exact hP.recovering (hanswer route hroute) fun failure => hP.pure _
    · exact hP.pure _

/-- A backend that has its result from the beginning makes no calls, so that nothing
has to be known of any. -/
theorem handleStandIn (hP : Hereditary P) (result : HeadResult) (request : Http.Request) :
    P (App.handle (Pure.pure (.ofResult result)) request) := by
  refine hP.handle fun route _ => ?_
  have hfetch : ∀ bucket key, P ((Backend.ofResult result).headObject bucket key) :=
    fun _ _ => hP.ofOutcome (.ok result)
  have hdelete : ∀ bucket, P ((Backend.ofResult result).deleteBucket bucket) :=
    fun _ => hP.fail _
  cases route with
  | greeting => exact hP.pure _
  | bucket name => exact hP.answerDeletion (hdelete name)
  | metadata name key => exact hP.answerMetadata (hfetch name key)

/-- The service comes from the environment, and the answer from the service. -/
theorem answerOfEnvironment (hP : Hereditary P) (hblocks : ∀ config, BlocksOf P config)
    {route : Route} (hcalls : ∀ bucket, route.bucket? = some bucket → CallsOf P bucket) :
    P (App.answer Backend.ofEnvironment route) := by
  -- The backend is bound behind the service that it is made of.
  have hservice : ∀ next : Backend → Action Response,
      (∀ s : Service, P (next (.ofService s))) → P (Backend.ofEnvironment >>= next) := by
    intro next hnext
    rw [Backend.ofEnvironment, bind_assoc]
    exact hP.bind hP.serviceOfEnvironment hnext
  cases route with
  | greeting => exact hP.pure _
  | bucket name =>
    exact hservice _ fun s => hP.answerDeletion (hP.serviceDelete (hblocks _)
      (hP.deleted (hcalls name rfl) s.source))
  | metadata name key =>
    exact hservice _ fun s => hP.answerMetadata (hP.serviceHead (hblocks _)
      (hP.fetched (hcalls name rfl) s.source key))

/-- Only the calls about the bucket that the request is about count. -/
theorem serve (hP : Hereditary P) (hblocks : ∀ config, BlocksOf P config)
    {request : Http.Request}
    (hcalls : ∀ bucket, request.bucket? = some bucket → CallsOf P bucket) :
    P (App.serve request) := by
  refine hP.handle fun route hroute => hP.answerOfEnvironment hblocks fun bucket hbucket => ?_
  refine hcalls bucket ?_
  rw [Request.bucket?, hroute]
  exact hbucket

end Requests

end Hereditary

end Action

end ZonalBucket
