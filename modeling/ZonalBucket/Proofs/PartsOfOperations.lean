import ZonalBucket.Emptying
import ZonalBucket.Scenario.Head

/-!
# From the parts of an operation to the whole

Much that is proved about operations is proved in the same way: it is true of reports
and of the calls that are made, and it passes on when actions are put together.  For
such a property, `Action.Closed`, the operations are gone through once, here; each of
them has the property when its calls have it.

What an operation looks at besides its calls is the same for all runs: the files, the
limits and the clock.
-/

namespace ZonalBucket

namespace Scenario.Head

/-- The slots that the exploration visits. -/
def explorationSlots : List Slot := [.createBucket, .putObject, .headObject]

/-- The slots that the cleanup visits. -/
def cleanupSlots : List Slot := [.listObjects, .deleteObjects, .deleteBucket]

end Scenario.Head

namespace Action

/-- A property that passes from the parts of an action to the whole. -/
structure Closed (P : {α : Type} → Action α → Prop) : Prop where
  ofOutcome : ∀ {α : Type} (outcome : Outcome α), P (ofOutcome outcome)
  look : ∀ {α : Type} (f : World → α),
    (∀ w v, w.files = v.files → w.limits = v.limits → w.clock = v.clock → f w = f v) →
    P (look f)
  report : ∀ (level : Level) (source : Source) (message : String),
    P (report level source message)
  bind : ∀ {α β : Type} {action : Action α} {next : α → Action β},
    P action → (∀ a, P (next a)) → P (action >>= next)
  passRefusal : ∀ {α : Type} {action : Action α} (source : Source) (what : String),
    P action → P (action.onRefusal (failRefused source what))

namespace Closed

variable {P : {α : Type} → Action α → Prop} {bucket key : String}

theorem pure (hP : Closed P) {α : Type} (a : α) : P (pure a : Action α) :=
  hP.ofOutcome (.ok a)

theorem fail (hP : Closed P) {α : Type} (failure : Failure) : P (fail failure : Action α) :=
  hP.ofOutcome (.error failure)

theorem createBucket (hP : Closed P) {zone : String}
    (hcall : P (Client.invoke (.createBucket bucket zone))) (source : Source) :
    P (Provision.createBucket source bucket zone) := by
  refine hP.bind (hP.report _ _ _) fun _ => ?_
  exact hP.bind (hP.passRefusal _ _ hcall) fun _ => hP.report _ _ _

/-- An upload looks at the files first, and what it finds there decides about the body
of the call; so the call has to be known for every body and type. -/
theorem putObject (hP : Closed P)
    (hcall : ∀ body type, P (Client.invoke (.putObject bucket key body type)))
    (source : Source) (upload : Upload) (contentType : Option String) :
    P (Provision.putObject source bucket key upload contentType) := by
  rw [Provision.putObject]
  split
  · exact hP.fail _
  · refine hP.bind (hP.look _ fun w v hfiles _ _ => by rw [hfiles]) fun outcome => ?_
    refine hP.bind (hP.ofOutcome outcome) fun body => ?_
    exact hP.bind (hP.passRefusal _ _ (hcall body _)) fun _ => hP.report _ _ _

theorem deleteObject (hP : Closed P) (hcall : P (Client.invoke (.deleteObject bucket key)))
    (source : Source) : P (Provision.deleteObject source bucket key) :=
  hP.bind (hP.passRefusal _ _ hcall) fun _ => hP.report _ _ _

/-- A refusal does not end a fetch, so that the call counts together with how it is
caught. -/
theorem fetch (hP : Closed P) (hcall : P (Client.invoke (.headObject bucket key)).attempt)
    (source : Source) : P (Inspection.fetch source bucket key) := by
  refine hP.bind (hP.report _ _ _) fun _ => hP.bind hcall fun ending => ?_
  cases ending with
  | ok answer =>
    refine hP.bind (hP.ofOutcome _) fun m => hP.bind ?_ fun _ => hP.pure _
    refine hP.bind (hP.report _ _ _) fun _ => hP.bind (hP.report _ _ _) fun _ => ?_
    exact hP.bind (hP.report _ _ _) fun _ => hP.report _ _ _
  | error fault => exact hP.bind (hP.report _ _ _) fun _ => hP.pure _

theorem head (hP : Closed P) (hcall : P (Client.invoke (.headObject bucket key)).attempt)
    (source : Source) : P (Inspection.head source bucket key) :=
  hP.bind (hP.fetch hcall source) fun _ => hP.pure _

theorem deleteBucket (hP : Closed P) (hcall : P (Client.invoke (.deleteBucket bucket)))
    (source : Source) : P (Inspection.deleteBucket source bucket) := by
  refine hP.bind (hP.report _ _ _) fun _ => ?_
  exact hP.bind (hP.passRefusal _ _ hcall) fun _ => hP.report _ _ _

/-- Items are reported one by one, by induction on their row.  An item without fields
ends this with a failure. -/
theorem reportItems (hP : Closed P) (source : Source) (items : List Document) :
    P (Emptying.reportItems source items) := by
  induction items with
  | nil => exact hP.pure 0
  | cons item rest ih =>
    have hitem : P (Emptying.reportItem source item) :=
      hP.bind (hP.ofOutcome _) fun _ => hP.report _ _ _
    exact hP.bind hitem fun _ => hP.bind ih fun _ => hP.pure _

/-- The batches are deleted one by one, each with its call and the reports on what the
answer tells. -/
theorem deleteBatches (hP : Closed P)
    (hcall : ∀ keys, P (Client.invoke (.deleteObjects bucket keys)))
    (source : Source) (batches : List (List String)) :
    P (Emptying.deleteBatches source bucket batches) := by
  induction batches with
  | nil => exact hP.pure 0
  | cons batch rest ih =>
    have hbatch : P (Emptying.deleteBatch source bucket batch) := by
      refine hP.bind (hcall batch) fun answer => hP.bind (hP.ofOutcome _) fun items => ?_
      exact hP.reportItems source items
    exact hP.bind hbatch fun _ => hP.bind ih fun _ => hP.pure _

theorem conclude (hP : Closed P) (source : Source) (listed failed : Nat) :
    P (Emptying.conclude source bucket listed failed) := by
  rw [Emptying.conclude]
  split
  · exact hP.bind (hP.report _ _ _) fun _ => hP.pure _
  · exact hP.bind (hP.report _ _ _) fun _ => hP.pure _

/-- The pages of a listing follow each other as far as the store tells, so that the
listing counts as one part. -/
theorem emptyBucket (hP : Closed P) (hkeys : P (Listing.keys bucket))
    (hcall : ∀ keys, P (Client.invoke (.deleteObjects bucket keys))) (source : Source) :
    P (Emptying.emptyBucket source bucket) := by
  have hlisted : P (Emptying.deleteListed source bucket) := by
    refine hP.bind hkeys fun keys => ?_
    refine hP.bind (hP.look _ fun w v _ hlimits _ => by rw [hlimits]) fun size => ?_
    split
    · exact hP.fail _
    · exact hP.bind (hP.deleteBatches hcall source _) fun _ => hP.pure _
  exact hP.bind (hP.passRefusal _ _ hlisted) fun counts => hP.conclude source counts.1 counts.2

/-- A name is made up from the clock when none is asked for, and it is looked up
nowhere else. -/
theorem bucketFor (hP : Closed P) (config : Config) (asked : Option String) :
    P (Scenario.bucketFor config asked) := by
  rw [Scenario.bucketFor]
  split
  · exact hP.pure _
  · refine hP.bind (hP.look _ fun w v _ _ hclock => by rw [hclock]) fun named => ?_
    exact hP.ofOutcome named

/-- The exploration makes calls about its own bucket at its own slots. -/
theorem explore (hP : Closed P) (hattempt : ∀ {action : Action Document}, P action →
      P action.attempt)
    (hcall : ∀ call : Call, call.bucket = bucket →
      call.slot ∈ Scenario.Head.explorationSlots → P (Client.invoke call))
    (own : Source) (config : Config) (upload : Upload) :
    P (Scenario.Head.explore own config bucket key upload) := by
  have hcreate : P (Client.invoke (.createBucket bucket config.zone)) :=
    hcall _ rfl (by simp [Call.slot, Scenario.Head.explorationSlots])
  have hput : ∀ body type, P (Client.invoke (.putObject bucket key body type)) := fun _ _ =>
    hcall _ rfl (by simp [Call.slot, Scenario.Head.explorationSlots])
  have hhead : P (Client.invoke (.headObject bucket key)).attempt :=
    hattempt (hcall _ rfl (by simp [Call.slot, Scenario.Head.explorationSlots]))
  refine hP.bind (hP.createBucket hcreate _) fun _ => ?_
  refine hP.bind (hP.putObject hput _ _ _) fun _ => ?_
  refine hP.bind (hP.head hhead _) fun found => ?_
  refine hP.bind ?_ fun _ => hP.pure _
  cases found <;> exact hP.report _ _ _

/-- The cleanup is an emptying and a deletion, with a report in front of each.  As the
listing is one part for `emptyBucket`, emptying is one part here. -/
theorem clear (hP : Closed P) (hempty : P (Emptying.emptyBucket .provision bucket))
    (hdelete : P (Client.invoke (.deleteBucket bucket))) (own : Source) :
    P (Scenario.Head.clear own bucket) := by
  refine hP.bind (hP.report _ _ _) fun _ => hP.bind hempty fun _ => ?_
  exact hP.bind (hP.report _ _ _) fun _ => hP.deleteBucket hdelete _

end Closed

end Action

end ZonalBucket
