import ZonalBucket.Proofs.BucketState
import ZonalBucket.Proofs.CompleteEmptying
import ZonalBucket.Proofs.ScenarioPhases
import ZonalBucket.Proofs.SessionRuns

/-!
# Buckets are isolated from each other

An operation on a bucket calls for this bucket only and leaves all others as they are,
`World.KeepsTo`.  It does not see them either: in worlds that differ in other buckets only,
`World.AlikeAt`, it does the same, ends in the same way and leaves its bucket in the same
state.  Both pass from single calls to whole operations, so that they hold for all of them,
with paging, batches, cleanup and client blocks, and whatever is laid down for the calls.

Main statement: `Session.step_isolated`.
-/

namespace ZonalBucket

open ZonalBucket.Action (Agrees Along BlocksOf CallsOf Hereditary Lasting Paired)

/-- The worlds differ in their stores at most, and there not in one bucket. -/
def World.AlikeAt (bucket : String) (w v : World) : Prop :=
  ∃ store, store.get? bucket = w.store.get? bucket ∧ v = w.withStore store

/-- Between the worlds all calls were about one bucket, and no other bucket changed. -/
structure World.KeepsTo (bucket : String) (w v : World) : Prop where
  others : ∀ name, name ≠ bucket → v.store.get? name = w.store.get? name
  calls : ∃ made, v.trace.exchanges = w.trace.exchanges ++ made ∧ ∀ e ∈ made, e.call.bucket = bucket

namespace World.AlikeAt

variable {bucket : String} {w v : World}

/-- What does not have to do with the store keeps worlds alike. -/
theorem update {f : World → World} (hf : ∀ w store, f (w.withStore store) = (f w).withStore store)
    (hstore : ∀ w, (f w).store = w.store) (h : AlikeAt bucket w v) :
    AlikeAt bucket (f w) (f v) := by
  obtain ⟨store, hsame, rfl⟩ := h
  refine ⟨store, ?_, hf w store⟩
  rw [hstore]
  exact hsame

/-- Worlds that are alike at a bucket do not differ in files, limits and clock, and
stay alike when something is reported in both of them.  This is all that walking
through two runs asks for. -/
theorem paired : Paired (AlikeAt bucket) where
  files := by
    rintro w _ ⟨store, -, rfl⟩
    rfl
  limits := by
    rintro w _ ⟨store, -, rfl⟩
    rfl
  clock := by
    rintro w _ ⟨store, -, rfl⟩
    rfl
  record h record := h.update (f := (·.noteRecord record)) (fun _ _ => rfl) fun _ => rfl

/-- Of the environment they do not differ either, so that both runs load the same
configuration. -/
theorem environment (h : AlikeAt bucket w v) : w.environment = v.environment := by
  obtain ⟨store, -, rfl⟩ := h
  rfl

theorem script (h : AlikeAt bucket w v) (slot : Slot) : w.script slot = v.script slot := by
  obtain ⟨store, -, rfl⟩ := h
  rfl

/-- A visit uses up the same answer in both worlds. -/
theorem visit (h : AlikeAt bucket w v) (slot : Slot) :
    AlikeAt bucket (w.visit slot) (v.visit slot) :=
  h.update (f := (·.visit slot)) (fun _ _ => rfl) fun _ => rfl

/-- It is enough to know of single calls and client blocks that they do not see other
buckets; all that is put together of them does not see them either. -/
theorem hereditary : Hereditary fun action => action.Agrees (AlikeAt bucket) :=
  Agrees.hereditary paired environment

/-- The store answers a call about the bucket alike.  It looks up the one bucket, and
what it changes is that bucket again. -/
theorem ask {call : Call} (hcall : call.bucket = bucket) :
    (Client.ask call).Agrees (AlikeAt bucket) := by
  subst hcall
  rintro w _ ⟨store, hsame, rfl⟩
  have hlimits : (w.withStore store).limits = w.limits := rfl
  have hstore : (w.withStore store).store = store := rfl
  rw [Client.ask, Client.ask, hlimits, hstore]
  rcases Call.perform_alike w.limits.pageSize hsame.symm with
    ⟨failure, hfails, hfails'⟩ | ⟨answer, next, next', hanswers, hanswers', hnext⟩
  · rw [hfails, hfails']
    exact ⟨rfl, store, hsame, rfl⟩
  · rw [hanswers, hanswers']
    exact ⟨rfl, next', hnext.symm, rfl⟩

/-- **Calls about the bucket do not see the others.**  The answers laid down for them
are found by the slot of the call alone, so that they are the same in both worlds. -/
theorem invoke {call : Call} (hcall : call.bucket = bucket) :
    (Client.invoke call).Agrees (AlikeAt bucket) :=
  Agrees.invoke (fun h => h.script _) (fun h => h.visit _) rfl (ask hcall) fun h outcome =>
    h.update (f := (·.noteCall call outcome)) (fun _ _ => rfl) fun _ => rfl

/-- What a listing has left to do is the same. -/
theorem measure (h : AlikeAt bucket w v) (token : Option Document) :
    Listing.measure w bucket token = Listing.measure v bucket token := by
  obtain ⟨store, hsame, rfl⟩ := h
  have hkeys : store.keys bucket = w.store.keys bucket := by
    rw [Store.keys, Store.keys, Store.bucket, Store.bucket, hsame]
  have hremaining : Listing.remaining w.limits.pageSize store bucket token =
      Listing.remaining w.limits.pageSize w.store bucket token := by
    rw [Listing.remaining, Listing.remaining, hkeys]
  exact congrArg (Prod.mk _) hremaining.symm

theorem callsOf (bucket : String) :
    CallsOf (fun action => action.Agrees (AlikeAt bucket)) bucket where
  invoke _ hcall := invoke hcall
  keys := Agrees.keysFrom (fun _ => invoke rfl) (fun h token => h.measure token) none

theorem blocksOf (config : Config) :
    BlocksOf (fun action => action.Agrees (AlikeAt bucket)) config := by
  have hpass : ∀ slot, (Client.pass slot).Agrees (AlikeAt bucket) := fun slot =>
    Agrees.pass (fun h => h.script slot) fun h => h.visit slot
  have hnote : ∀ {f : World → World}, (∀ w store, f (w.withStore store) = (f w).withStore store) →
      (∀ w, (f w).store = w.store) → (Action.update f).Agrees (AlikeAt bucket) :=
    fun hf hstore _ _ h => ⟨rfl, h.update hf hstore⟩
  refine ⟨?_, ?_, ?_⟩
  · exact Agrees.bind (hnote (fun _ _ => rfl) fun _ => rfl) fun _ => hpass .client
  · exact Agrees.bind (hnote (fun _ _ => rfl) fun _ => rfl) fun _ => hpass .enter
  · exact Agrees.bind (hnote (fun _ _ => rfl) fun _ => rfl) fun _ => hpass .exit

end World.AlikeAt

namespace World.KeepsTo

variable {bucket : String} {w v : World}

/-- Neither the store nor the calls have to do with it. -/
theorem of_same (hstore : v.store = w.store) (hexchanges : v.trace.exchanges = w.trace.exchanges) :
    KeepsTo bucket w v := by
  refine ⟨fun name _ => by rw [hstore], [], ?_, fun e he => nomatch he⟩
  rw [hexchanges, List.append_nil]

/-- What keeps to a bucket for a while and then goes on keeping to it does so on the
whole; the calls of both parts add up. -/
theorem lasting : Lasting (KeepsTo bucket) where
  refl _ := .of_same rfl rfl
  trans := by
    intro w v u h hnext
    obtain ⟨made, hmade, habout⟩ := h.calls
    obtain ⟨more, hmore, habout'⟩ := hnext.calls
    refine ⟨fun name hne => (hnext.others name hne).trans (h.others name hne), made ++ more, ?_, ?_⟩
    · rw [hmore, hmade, List.append_assoc]
    · intro e he
      rcases List.mem_append.1 he with he | he
      · exact habout e he
      · exact habout' e he
  record _ _ := .of_same rfl rfl

/-- To keep to one bucket passes from the parts of an action to the whole. -/
theorem hereditary : Hereditary fun action => action.Along (KeepsTo bucket) :=
  Along.hereditary lasting

/-- A call about the bucket keeps to it: of the store at most this bucket is changed,
and the call that is noted down is about it. -/
theorem invoke {call : Call} (hcall : call.bucket = bucket) :
    (Client.invoke call).Along (KeepsTo bucket) := by
  refine Along.invoke lasting (fun w => .of_same rfl rfl) (fun w => ?_) fun w outcome => ?_
  · rw [Client.ask]
    split
    · rename_i answer store hperform
      refine ⟨fun name hne => ?_, [], (List.append_nil _).symm, List.forall_mem_nil _⟩
      exact Call.get?_of_perform_eq_ok hperform (hcall ▸ hne)
    · exact lasting.refl w
  · refine ⟨fun _ _ => rfl, [⟨call, outcome⟩], rfl, fun e he => ?_⟩
    obtain rfl : e = ⟨call, outcome⟩ := List.mem_singleton.1 he
    exact hcall

theorem callsOf (bucket : String) :
    CallsOf (fun action => action.Along (KeepsTo bucket)) bucket where
  invoke _ hcall := invoke hcall
  keys := Along.keys lasting fun _ => invoke rfl

theorem blocksOf (config : Config) :
    BlocksOf (fun action => action.Along (KeepsTo bucket)) config :=
  Along.blocksOf lasting (fun _ _ => .of_same rfl rfl) (fun _ _ => .of_same rfl rfl)
    (fun _ => .of_same rfl rfl) (fun _ => .of_same rfl rfl) config

end World.KeepsTo

/-- The bucket that an operation works on in a world.  A scenario works on the bucket of
the name that it finds there. -/
def Step.bucket? (w : World) : Step → Option String
  | createBucket _ bucket _ | putObject _ bucket .. | deleteObject _ bucket _
  | emptyBucket _ bucket | head _ bucket _ | fetch _ bucket _ | deleteBucket _ bucket => some bucket
  | serviceHead _ bucket _ | serviceDelete _ bucket => some bucket
  | headScenario config asked => (Scenario.bucketFor config asked.bucket w).1.toOption
  | deleteScenario config asked => (Scenario.bucketFor config asked w).1.toOption
  | request asked _ => asked.bucket?
  | _ => none

namespace Session

variable {s : Step} {w : World} {bucket : String}

/-- A scenario aside, an operation may concern its own bucket only. -/
theorem mayConcern_of_bucket? (hs : s.bucket? w = some bucket)
    (hhead : ∀ config asked, s ≠ .headScenario config asked)
    (hdelete : ∀ config asked, s ≠ .deleteScenario config asked) {name : String}
    (hname : s.mayConcern name) : name = bucket := by
  cases s with
  | headScenario config asked => exact absurd rfl (hhead config asked)
  | deleteScenario config asked => exact absurd rfl (hdelete config asked)
  | request asked standIn => exact Option.some.inj (hname.symm.trans hs)
  | seed | script | environment | clock | write | makeFolder | start | serviceConfig
  | environmentConfig | program | unfit => exact nomatch hs
  | _ => exact hname.symm.trans (Option.some.inj hs)

/-- Nothing is prepared by an operation on a bucket.  The steps that lay down answers,
write files or set the clock work on no bucket. -/
theorem prepares_of_bucket? (hs : s.bucket? w = some bucket) : s.prepares = false := by
  cases s with
  | seed | script | environment | clock | write | makeFolder | start => exact nomatch hs
  | _ => rfl

/-- **An operation on a bucket is an action with the calls of this bucket,** in every world
of the same time. -/
theorem perform_on {P : {α : Type} → Action α → Prop} (hP : Hereditary P)
    (hlog : P Action.setUpLog) (hlevel : P (setLevel closedLevel))
    (hblocks : ∀ config, BlocksOf P config) (hcalls : CallsOf P bucket)
    (hs : s.bucket? w = some bucket) :
    ∃ action : Action Report, P action ∧ ∀ v, v.clock = w.clock → perform s v = action v := by
  by_cases hhead : ∃ config asked, s = .headScenario config asked
  · obtain ⟨config, asked, rfl⟩ := hhead
    have hname : (Scenario.bucketFor config asked.bucket w).1 = .ok bucket :=
      Outcome.eq_ok_of_toOption hs
    have hrunOn : P (Scenario.Head.runOn .headScenario config bucket asked.key asked.upload) :=
      hP.headRunOn hcalls _ _
    refine ⟨_, hP.reporting hrunOn .flag, fun v hclock => ?_⟩
    have hrun : Scenario.Head.run .headScenario config asked v = _ :=
      Scenario.Head.run_of_bucketFor ((Scenario.bucketFor_of_clock hclock).trans hname)
    rw [perform, reporting, reporting, Action.andThen, Action.andThen, hrun]
  by_cases hdelete : ∃ config asked, s = .deleteScenario config asked
  · obtain ⟨config, asked, rfl⟩ := hdelete
    have hname : (Scenario.bucketFor config asked w).1 = .ok bucket :=
      Outcome.eq_ok_of_toOption hs
    have hrunOn : P (Scenario.Delete.runOn .deleteScenario config bucket) :=
      hP.deleteRunOn hcalls _
    refine ⟨_, hP.reporting hrunOn .flag, fun v hclock => ?_⟩
    have hrun : Scenario.Delete.run .deleteScenario config asked v = _ :=
      Scenario.Delete.run_of_bucketFor ((Scenario.bucketFor_of_clock hclock).trans hname)
    rw [perform, reporting, reporting, Action.andThen, Action.andThen, hrun]
  · -- All other operations are such actions as they stand.
    have hown : ∀ name, s.mayConcern name → CallsOf P name := by
      intro name hname
      have heq := mayConcern_of_bucket? hs (fun config asked h => hhead ⟨config, asked, h⟩)
        (fun config asked h => hdelete ⟨config, asked, h⟩) hname
      rw [heq]
      exact hcalls
    have hprepares : s.prepares = true → P (perform s) := fun h =>
      absurd ((prepares_of_bucket? hs).symm.trans h) Bool.false_ne_true
    exact ⟨perform s, hP.perform hown hprepares (hP.perform_opening hlog hlevel hblocks hown),
      fun _ _ => rfl⟩

/-- A step of a session that works on a bucket keeps to it.  The world it works in may
differ from the one in which the name was found, but not in the clock, since a
scenario makes up a name from the time. -/
theorem step_keepsTo {v : World} (hs : s.bucket? w = some bucket) (hclock : v.clock = w.clock) :
    World.KeepsTo bucket v.beginTrace (step v s).2 := by
  obtain ⟨action, haction, hperform⟩ := perform_on World.KeepsTo.hereditary
    (fun _ => .of_same rfl rfl) (fun _ => .of_same rfl rfl) World.KeepsTo.blocksOf
    (World.KeepsTo.callsOf bucket) hs
  have hrun : (step v s).2 = (action v.beginTrace).2 :=
    congrArg Prod.snd (hperform v.beginTrace hclock)
  rw [hrun]
  exact haction v.beginTrace

/-- What an operation does in a world is what it does in all that are alike at its bucket. -/
theorem perform_agrees {v u : World} (hs : s.bucket? w = some bucket) (hclock : v.clock = w.clock)
    (h : World.AlikeAt bucket v u) :
    (perform s v).1 = (perform s u).1 ∧ World.AlikeAt bucket (perform s v).2 (perform s u).2 := by
  have hroot : ∀ {f : World → World}, (∀ w store, f (w.withStore store) = (f w).withStore store) →
      (∀ w, (f w).store = w.store) → (Action.update f).Agrees (World.AlikeAt bucket) :=
    fun hf hstore _ _ h => ⟨rfl, h.update hf hstore⟩
  obtain ⟨action, haction, hperform⟩ := perform_on World.AlikeAt.hereditary
    (hroot (fun _ _ => rfl) fun _ => rfl) (hroot (fun _ _ => rfl) fun _ => rfl)
    World.AlikeAt.blocksOf (World.AlikeAt.callsOf bucket) hs
  rw [hperform v hclock, hperform u ((World.AlikeAt.paired.clock h).symm.trans hclock)]
  exact haction v u h

/-- **Operations are isolated by buckets.**  Whatever the world and whatever is laid down for
it, all calls of an operation are about its own bucket, and no other bucket changes.  With
any other store in which this bucket is in the same state, all that is seen of the operation
but the store is the same, what it ends in, its records, its calls and its clients, and the
bucket is in the same state afterwards. -/
theorem step_isolated (hs : s.bucket? w = some bucket) {store : Store}
    (hsame : store.get? bucket = w.store.get? bucket) :
    let seen := (step w s).1
    let other := (step (w.withStore store) s).1
    (∀ call ∈ seen.calls, call.bucket = bucket) ∧
      (∀ name, name ≠ bucket → seen.store.get? name = w.store.get? name) ∧
      (∀ name, name ≠ bucket → other.store.get? name = store.get? name) ∧
      other = { seen with store := other.store } ∧
      other.store.get? bucket = seen.store.get? bucket := by
  intro seen other
  have hkeeps := step_keepsTo hs (v := w) rfl
  have hkeeps' := step_keepsTo hs (v := w.withStore store) rfl
  have halike : World.AlikeAt bucket w.beginTrace (w.withStore store).beginTrace :=
    ⟨store, hsame, rfl⟩
  obtain ⟨hend, final, hfinal, hworld⟩ := perform_agrees (v := w.beginTrace) hs rfl halike
  -- What is observed of the second run differs from that of the first in the store only.
  have hother : other = { seen with store := final } := by
    have hobserve : observe (perform s (w.withStore store).beginTrace).1
        (perform s (w.withStore store).beginTrace).2 = { seen with store := final } := by
      rw [← hend, hworld]
      rfl
    exact hobserve
  refine ⟨?_, hkeeps.others, hkeeps'.others, ?_, ?_⟩
  · obtain ⟨made, hmade, habout⟩ := hkeeps.calls
    have hcalls : seen.calls = made.map Exchange.call := congrArg (List.map Exchange.call) hmade
    intro call hcall
    rw [hcalls] at hcall
    obtain ⟨e, he, rfl⟩ := List.mem_map.1 hcall
    exact habout e he
  · rw [hother]
  · rw [hother]
    exact hfinal

/-- The second bucket is not there for an operation on the first one, which is to be emptied
while its batch cannot be deleted. -/
theorem step_isolated_emptying :
    let refusal : Failure := .refused (Store.noSuchBucket "DeleteObjects")
    let w : World := {
      store := Emptying.twoBuckets
      script := Script.empty.append .deleteObjects [.fail refusal] }
    let store := Emptying.twoBuckets.erase "second"
    let s : Step := .emptyBucket .provision "first"
    s.bucket? w = some "first" ∧ store.get? "first" = w.store.get? "first" ∧
      (step (w.withStore store) s).1.calls = (step w s).1.calls ∧
      (step w s).1.store.get? "second" = Emptying.twoBuckets.get? "second" := by
  intro refusal w store s
  have hsame : store.get? "first" = w.store.get? "first" := by
    rw [Catalog.get?_erase, if_neg (by decide)]
  obtain ⟨-, hothers, -, hseen, -⟩ := step_isolated (s := s) (w := w) rfl hsame
  have hcalls : (step (w.withStore store) s).1.calls = (step w s).1.calls := by
    rw [hseen]
  exact ⟨rfl, hsame, hcalls, hothers "second" (by decide)⟩

end Session

end ZonalBucket
