import ZonalBucket.Proofs.CompleteEmptying

/-!
# Emptying that is interrupted

A failure ends the emptying of a bucket where it happens, and it is passed on as it is.
While the pages are listed nothing is lost: there is no deletion before the last page,
`emptyBucket_of_page_failed`.  Between two batches the bucket has lost the keys of the
batches before, which are the first ones of all its keys, and nothing else,
`emptyBucket_of_batch_failed`.

So it can be made up for: emptying the bucket again, however large the pages and batches are
then, deletes just the keys that were left, `emptyBucket_interrupted`.
-/

namespace ZonalBucket

namespace World

variable {w : World} {slot : Slot} {count : Nat} {failure : Failure} {later : List Answer}

/-- Before a failure that is laid down behind passes the visits pass. -/
theorem passesFor_of_failing
    (h : w.script slot = List.replicate count .pass ++ .fail failure :: later) :
    w.PassesFor slot count := by
  intro answer hanswer
  rw [h, List.take_left' List.length_replicate] at hanswer
  exact (List.mem_replicate.1 hanswer).2

/-- Behind so many visits that pass, the next one meets the failure that is laid down.
-/
theorem nextAnswer_of_failing
    (h : w.script slot = List.replicate count .pass ++ .fail failure :: later) :
    (w.visits slot count).nextAnswer slot = .fail failure := by
  rw [nextAnswer, visits_script_self, h, List.drop_left' List.length_replicate]
  rfl

end World

namespace Emptying

variable {w : World} {name : String} {bucket : Bucket} {failure : Failure} {count : Nat}
  {later : List Answer}

/-- The keys of the deletions that the store answered. -/
def deletedKeys (exchanges : List Exchange) : List String :=
  exchanges.flatMap fun e => match e.call with
    | .deleteObjects _ keys => if e.isAnswered then keys else []
    | _ => []

theorem deletedKeys_append (first second : List Exchange) :
    deletedKeys (first ++ second) = deletedKeys first ++ deletedKeys second :=
  List.flatMap_append

/-- A listing deletes nothing, as only calls for deleting count and a listing makes
none. -/
theorem deletedKeys_of_callsFrom {listed : List Exchange} {size start count : Nat}
    (h : listed.map (·.call) = Listing.callsFrom name size start count) :
    deletedKeys listed = [] := by
  refine List.flatMap_eq_nil_iff.2 fun e he => ?_
  have hcall : e.call ∈ Listing.callsFrom name size start count := h ▸ List.mem_map_of_mem he
  obtain ⟨i, -, hi⟩ := List.mem_map.1 hcall
  simp only [← hi]

/-- The batches that the store takes out are deleted, key by key and in the order of
the batches. -/
theorem deletedKeys_taken (name : String) (batches : List (List String)) :
    deletedKeys (batches.map (taken name)) = batches.flatten := by
  induction batches with
  | nil => rfl
  | cons batch rest ih =>
    rw [List.map_cons, List.flatten_cons, ← ih]
    rfl

/-- A page that fails ends it: no more pages are asked for, and nothing is deleted. -/
theorem emptyBucket_of_page_failed (source : Source)
    (hbucket : w.store.get? name = some bucket) {size : Nat} (hs : 0 < size)
    (hsize : w.limits.pageSize = size)
    (hscript : w.script .listObjects = List.replicate count .pass ++ .fail failure :: later)
    (hcount : count < pagesFor size bucket.names.length) :
    ∃ (listed : List Exchange) (records : List Record),
      emptyBucket source name w = (.error failure,
        (w.visits .listObjects listed.length).tell
          { exchanges := listed, records := records }) ∧
      listed.map (·.call) =
        (Listing.callsFrom name size 0 bucket.names.length).take (count + 1) := by
  have hwhole : count < pagesFor size (bucket.names.length - 0) := hcount
  obtain ⟨listed, v, hrounds, hcalls⟩ :=
    Listing.rounds_offset_failed hscript hs hsize hbucket hwhole
  have hkeys : Listing.keys name w = (.error failure, v) := hrounds.run (.inl (by omega))
  obtain ⟨records, hrun⟩ := emptyBucket_of_keys_error source hkeys
  refine ⟨listed, records, ?_, hcalls⟩
  rw [hrun, hrounds.world, World.tell_tell]
  simp [Trace.append]

/-- A failure behind batches that have gone through is passed on. -/
theorem deleteBatches_append_error {source : Source} {first second : List (List String)}
    {failed : Nat} {v u : World} (hfirst : deleteBatches source name first w = (.ok failed, v))
    (hsecond : deleteBatches source name second v = (.error failure, u)) :
    deleteBatches source name (first ++ second) w = (.error failure, u) := by
  induction first generalizing w failed with
  | nil =>
    cases hfirst
    exact hsecond
  | cons batch rest ih =>
    rw [deleteBatches] at hfirst
    rw [List.cons_append, deleteBatches]
    rcases hbatch : deleteBatch source name batch w with ⟨_ | here, between⟩
    · rw [Action.bind_of_error _ hbatch] at hfirst
      cases hfirst
    · rw [Action.bind_of_ok _ hbatch] at hfirst ⊢
      rcases hrest : deleteBatches source name rest between with ⟨_ | others, behind⟩
      · rw [Action.bind_of_error _ hrest] at hfirst
        cases hfirst
      · rw [Action.bind_of_ok _ hrest] at hfirst
        cases hfirst
        exact Action.bind_of_error _ (ih hrest)

/-- A batch that fails ends it: those before it are taken out, and no other one. -/
theorem deleteBatches_of_failed (source : Source) (hbucket : w.store.get? name = some bucket)
    {first : List (List String)} (batch : List String) (rest : List (List String))
    (hscript : w.script .deleteObjects =
      List.replicate first.length .pass ++ .fail failure :: later) :
    deleteBatches source name (first ++ batch :: rest) w = (.error failure,
      ((w.visits .deleteObjects (first.length + 1)).withStore
        (w.store.insert name (bucket.eraseAll first.flatten))).tell
        { exchanges := first.map (taken name) ++
            [⟨.deleteObjects name batch, .error failure⟩] }) := by
  have hfirst := deleteBatches_of_passes source (World.passesFor_of_failing hscript) hbucket
  have hnext : (((w.visits .deleteObjects first.length).withStore
      (w.store.insert name (bucket.eraseAll first.flatten))).tell
      { exchanges := first.map (taken name) }).nextAnswer .deleteObjects = .fail failure :=
    World.nextAnswer_of_failing hscript
  have hbatch := Client.invoke_of_fail (.deleteObjects name batch) hnext
  refine (deleteBatches_append_error hfirst (Action.bind_of_error _
    (Action.bind_of_error _ hbatch))).trans ?_
  rw [← World.visits_visits, World.visits_one]
  simp [World.tell, World.withStore, World.visit, World.visits, Trace.append, Call.slot]

section Failing

variable {batch : Nat} (hb : 0 < batch)
  (hscript : w.script .deleteObjects = List.replicate count .pass ++ .fail failure :: later)
  (hcount : count * batch < bucket.names.length)

include hb hscript hcount

/-- The batches before the one that fails hold the first keys. -/
theorem deleteBatches_chunks_of_failed (source : Source)
    (hbucket : w.store.get? name = some bucket) :
    ∃ keys, deleteBatches source name (chunks batch bucket.names) w = (.error failure,
      ((w.visits .deleteObjects (count + 1)).withStore
        (w.store.insert name (bucket.eraseAll (bucket.names.take (count * batch))))).tell
        { exchanges := ((chunks batch bucket.names).take count).map (taken name) ++
            [⟨.deleteObjects name keys, .error failure⟩] }) := by
  have hlt := lt_length_chunks hb hcount
  have hlength : ((chunks batch bucket.names).take count).length = count :=
    List.length_take_of_le (Nat.le_of_lt hlt)
  have hsplit : (chunks batch bucket.names).take count ++ (chunks batch bucket.names)[count] ::
      (chunks batch bucket.names).drop (count + 1) = chunks batch bucket.names := by
    rw [← List.drop_eq_getElem_cons hlt, List.take_append_drop]
  rw [← hlength] at hscript
  have hrun := deleteBatches_of_failed source hbucket (chunks batch bucket.names)[count]
    ((chunks batch bucket.names).drop (count + 1)) hscript
  rw [hsplit, hlength, flatten_take_chunks hb] at hrun
  exact ⟨_, hrun⟩

/-- **A batch that fails ends it,** and the bucket has lost the first keys, as many as there
were in the batches before. -/
theorem emptyBucket_of_batch_failed (source : Source)
    (hbucket : w.store.get? name = some bucket) {size : Nat} (hs : 0 < size)
    (hsize : w.limits.pageSize = size) (hbatch : w.limits.batchSize = batch)
    (hlisting : w.Passes .listObjects) :
    ∃ (listed : List Exchange) (keys : List String) (records : List Record),
      emptyBucket source name w = (.error failure,
        (((w.visits .listObjects listed.length).visits .deleteObjects (count + 1)).withStore
          (w.store.insert name (bucket.eraseAll (bucket.names.take (count * batch))))).tell
            { exchanges := listed ++ (((chunks batch bucket.names).take count).map (taken name) ++
                [⟨.deleteObjects name keys, .error failure⟩]),
              records := records }) ∧
      listed.map (·.call) = Listing.callsFrom name size 0 bucket.names.length := by
  obtain ⟨listed, hlisted, hcalls⟩ :=
    Listing.keysFrom_offset hlisting hs hsize hbucket (Nat.zero_le _)
  have hkeys : Listing.keys name w = (.ok bucket.names,
      (w.visits .listObjects listed.length).tell { exchanges := listed }) := hlisted
  have hlimits : ((w.visits .listObjects listed.length).tell
      { exchanges := listed }).limits.batchSize = batch := hbatch
  have hfailing : ((w.visits .listObjects listed.length).tell
      { exchanges := listed }).script .deleteObjects =
      List.replicate count .pass ++ .fail failure :: later := hscript
  obtain ⟨keys, hdeleted⟩ := deleteBatches_chunks_of_failed hb hfailing hcount source hbucket
  obtain ⟨records, hrun⟩ := deleteFound_of_error hlimits hb hdeleted
  refine ⟨listed, keys, records, ?_, hcalls⟩
  rw [emptyBucket_of_keys hkeys, hrun]
  simp [World.tell, World.withStore, World.visits, Trace.append]

end Failing

/-- A call for a page that fails ends it, wherever in the listing and for whatever reason:
only pages were asked for, and the store stays as it is. -/
theorem emptyBucket_of_listing_failed (source : Source) (hsize : w.limits.pageSize ≠ 0)
    {t : Trace} (ht : (emptyBucket source name w).2.trace = w.trace.append t) {e : Exchange}
    (he : e ∈ t.exchanges) (hslot : e.call.slot = .listObjects)
    (hfailed : e.outcome = .error failure) :
    (emptyBucket source name w).1 = .error failure ∧
      (emptyBucket source name w).2.store = w.store ∧
      ∀ other ∈ t.exchanges, other.call.slot = .listObjects := by
  obtain ⟨made, hrounds⟩ := Listing.exists_rounds name none hsize
  obtain ⟨s, deleted, hs, hmade, hdeleted⟩ := emptyBucket_of_rounds source hsize hrounds
  obtain rfl : t = s := Trace.append_left_cancel (ht.symm.trans hs)
  -- Behind the listing no call is for a page, so that the failure belongs to the listing.
  have hin : e ∈ made := by
    rw [hmade] at he
    rcases List.mem_append.1 he with he | he
    · exact he
    · obtain ⟨batch, hcall⟩ := hdeleted e he
      rw [hcall] at hslot
      cases hslot
  have hkeys : Listing.keys name w = (.error failure, (Listing.keys name w).2) :=
    Prod.ext (hrounds.outcome_of_failed hin hfailed) rfl
  have hworld : (Listing.keys name w).2 = _ := hrounds.world
  obtain ⟨records, hrun⟩ := emptyBucket_of_keys_error source hkeys
  rw [hworld, World.tell_tell] at hrun
  rw [hrun] at ht ⊢
  obtain rfl : _ = t := Trace.append_left_cancel ht
  refine ⟨rfl, rfl, fun other hother => ?_⟩
  have hother : other ∈ made := by simpa using hother
  obtain ⟨token, hcall⟩ := hrounds.call_eq hother
  rw [hcall]
  rfl

/-- Without hindrance each key is deleted once.  This is the run that comes after an
interrupted one and finishes its work. -/
theorem emptyBucket_deletes_all (source : Source) (hw : w.Unhindered)
    (hbucket : w.store.get? name = some bucket) :
    ∃ (v : World) (t : Trace), emptyBucket source name w = (.ok (bucket.names.length : Int), v) ∧
      v.trace = w.trace.append t ∧ v.store = w.store.insert name Catalog.empty ∧
      deletedKeys t.exchanges = bucket.names := by
  obtain ⟨size, hsize⟩ := hw.exists_pageSize
  obtain ⟨batch, hbatch⟩ := hw.exists_batchSize
  have hpos : 0 < batch := by
    have h := hw.batchSize
    omega
  obtain ⟨listed, hrun, hcalls⟩ := emptyBucket_of_passes source hw hbucket hsize hbatch
  refine ⟨_, _, hrun, rfl, rfl, ?_⟩
  rw [deletedKeys_append, deletedKeys_of_callsFrom hcalls, deletedKeys_taken,
    flatten_chunks hpos, List.nil_append]

/-- What an earlier run left is deleted by a later one, and no more than that. -/
theorem emptyBucket_of_left (source : Source) (hw : w.Unhindered)
    (hdone : count ≤ bucket.names.length)
    (hleft : w.store.get? name = some (bucket.eraseAll (bucket.names.take count))) :
    ∃ (v : World) (t : Trace),
      emptyBucket source name w = (.ok ((bucket.names.length : Int) - count), v) ∧
      v.trace = w.trace.append t ∧ v.store = w.store.insert name Catalog.empty ∧
      deletedKeys t.exchanges = bucket.names.drop count := by
  obtain ⟨v, t, hrun, ht, hstore, hdeleted⟩ := emptyBucket_deletes_all source hw hleft
  rw [Catalog.names_eraseAll_take] at hrun hdeleted
  rw [List.length_drop, Int.natCast_sub hdone] at hrun
  exact ⟨v, t, hrun, ht, hstore, hdeleted⟩

/-- **A failure while a bucket is emptied is precise and can be made up for.**  A call for a
page that fails, or the call for a page that a failure is laid down for, ends it before
anything is deleted.  A batch that fails leaves behind the keys from its first one on, with
their objects; emptying the bucket later without hindrance deletes just these. -/
theorem emptyBucket_interrupted (source : Source) (hbucket : w.store.get? name = some bucket)
    {size batch : Nat} (hsize : w.limits.pageSize = size) (hbatch : w.limits.batchSize = batch)
    (hsizepos : 1 ≤ size) (hbatchpos : 1 ≤ batch) :
    (∀ t e failure, (emptyBucket source name w).2.trace = w.trace.append t → e ∈ t.exchanges →
      e.call.slot = .listObjects → e.outcome = .error failure →
      (emptyBucket source name w).1 = .error failure ∧
      (emptyBucket source name w).2.store = w.store ∧
      ∀ other ∈ t.exchanges, other.call.slot = .listObjects) ∧
    (∀ count failure later,
      w.script .listObjects = List.replicate count .pass ++ .fail failure :: later →
      count < max 1 (piecesFor size bucket.names.length) →
      ∃ v t, emptyBucket source name w = (.error failure, v) ∧ v.store = w.store ∧
        v.trace = w.trace.append t ∧
        t.calls = (List.range (count + 1)).map fun i =>
          .listObjects name (if i = 0 then none else some (.text (toString (i * size))))) ∧
    (∀ count failure later, w.Passes .listObjects →
      w.script .deleteObjects = List.replicate count .pass ++ .fail failure :: later →
      count * batch < bucket.names.length →
      ∃ v t left, emptyBucket source name w = (.error failure, v) ∧
        v.trace = w.trace.append t ∧
        deletedKeys t.exchanges = bucket.names.take (count * batch) ∧
        v.store = w.store.insert name left ∧
        left.names = bucket.names.drop (count * batch) ∧
        (∀ key ∈ left.names, left.get? key = bucket.get? key) ∧
        ∀ source' u, u.Unhindered → u.store.get? name = v.store.get? name →
          ∃ u' t', emptyBucket source' name u =
              (.ok ((bucket.names.length : Int) - count * batch), u') ∧
            u'.trace = u.trace.append t' ∧
            u'.store = u.store.insert name Catalog.empty ∧
            deletedKeys t.exchanges ++ deletedKeys t'.exchanges = bucket.names) ∧
    bucket.names.Pairwise (· < ·) ∧ bucket.names.Nodup := by
  refine ⟨?_, ?_, ?_, bucket.pairwise_names, bucket.nodup_names⟩
  · intro t e failure ht he hslot hfailed
    exact emptyBucket_of_listing_failed source (by omega) ht he hslot hfailed
  · intro count failure later hscript hcount
    obtain ⟨listed, records, hrun, hcalls⟩ :=
      emptyBucket_of_page_failed source hbucket hsizepos hsize hscript hcount
    refine ⟨_, _, hrun, rfl, rfl, ?_⟩
    have htake : (Listing.callsFrom name size 0 bucket.names.length).take (count + 1) =
        _ := congrArg (List.take (count + 1)) (Listing.callsFrom_zero name hsizepos _)
    rw [Trace.calls, hcalls, htake, ← List.map_take, List.take_range]
    congr 2
    omega
  · intro count failure later hlisting hscript hcount
    obtain ⟨listed, keys, records, hrun, hcalls⟩ := emptyBucket_of_batch_failed hbatchpos hscript
      hcount source hbucket hsizepos hsize hbatch hlisting
    -- Only the batches that went through count; the one that failed deleted nothing.
    have hdeleted : deletedKeys (listed ++ (((chunks batch bucket.names).take count).map
        (taken name) ++ [⟨.deleteObjects name keys, .error failure⟩])) =
        bucket.names.take (count * batch) := by
      rw [deletedKeys_append, deletedKeys_append, deletedKeys_of_callsFrom hcalls,
        deletedKeys_taken, flatten_take_chunks hbatchpos]
      exact List.append_nil _
    have hthere : (w.store.insert name (bucket.eraseAll (bucket.names.take (count * batch)))).get?
        name = some (bucket.eraseAll (bucket.names.take (count * batch))) :=
      (Catalog.get?_insert _ _ _ _).trans (if_pos rfl)
    refine ⟨_, _, _, hrun, rfl, hdeleted, rfl, bucket.names_eraseAll_take (count * batch),
      fun key => Catalog.get?_eraseAll_of_mem, ?_⟩
    -- A later emptying, in any world that has the bucket in the state that was left.
    intro source' u hu hsame
    obtain ⟨u', t', hagain, ht', hstore, hrest⟩ :=
      emptyBucket_of_left source' hu (Nat.le_of_lt hcount) (hsame.trans hthere)
    rw [Int.natCast_mul] at hagain
    refine ⟨u', t', hagain, ht', hstore, ?_⟩
    rw [hdeleted, hrest, List.take_append_drop]

/-- A refusal that has to do with neither the bucket nor its keys. -/
def busy : Failure :=
  .refused (.plain "SlowDown" "Please reduce your request rate." "DeleteObjects")

/-- Pages of two keys and batches of one, and what is laid down at a slot. -/
def slowed (slot : Slot) (answers : List Answer) : World where
  store := twoBuckets
  limits := ⟨2, 1⟩
  script := Script.empty.append slot answers

/-- Of three keys one is deleted before the failure and two are deleted later; a failure at
the second page leaves all of them. -/
theorem emptyBucket_interrupted_twice :
    (∃ (v u : World) (left : Bucket) (t s : Trace),
      emptyBucket .provision "second" (slowed .deleteObjects [.pass, .fail busy]) =
        (.error busy, v) ∧
      deletedKeys t.exchanges = ["k0"] ∧
      v.store = twoBuckets.insert "second" left ∧ left.names = ["k1", "k2"] ∧
      emptyBucket .provision "second" { store := v.store, limits := ⟨1, 3⟩ } = (.ok 2, u) ∧
      u.store = v.store.insert "second" Catalog.empty ∧
      deletedKeys t.exchanges ++ deletedKeys s.exchanges = ["k0", "k1", "k2"]) ∧
    ∃ (v : World) (t : Trace),
      emptyBucket .provision "second" (slowed .listObjects [.pass, .fail busy]) =
        (.error busy, v) ∧
      v.store = twoBuckets ∧
      t.calls = [.listObjects "second" none, .listObjects "second" (some (.text "2"))] := by
  obtain ⟨bucket, hbucket, hnames⟩ := exists_twoBuckets
  have htwo : (2 : Int) = (2 : Nat) := rfl
  have hone : (1 : Int) = (1 : Nat) := rfl
  obtain ⟨-, -, hbatch, -, -⟩ := emptyBucket_interrupted
    (w := slowed .deleteObjects [.pass, .fail busy]) .provision hbucket htwo hone (by decide)
    (by decide)
  obtain ⟨-, hpage, -, -, -⟩ := emptyBucket_interrupted
    (w := slowed .listObjects [.pass, .fail busy]) .provision hbucket htwo hone (by decide)
    (by decide)
  rw [hnames] at hbatch hpage
  constructor
  · obtain ⟨v, t, left, hrun, ht, hdeleted, hstore, hleft, -, hlater⟩ :=
      hbatch 1 busy [] (World.passes_of_nil rfl) rfl (by decide)
    have hfree : World.Unhindered { store := v.store, limits := ⟨1, 3⟩ } :=
      ⟨Int.one_pos, Int.ofNat_succ_pos 2, World.passes_of_nil rfl, World.passes_of_nil rfl⟩
    obtain ⟨u, s, hagain, -, hempty, hall⟩ := hlater .provision _ hfree rfl
    exact ⟨v, u, left, t, s, hrun, hdeleted, hstore, hleft, hagain, hempty, hall⟩
  · obtain ⟨v, t, hrun, hstore, -, hcalls⟩ := hpage 1 busy [] rfl (by decide)
    exact ⟨v, t, hrun, hstore, hcalls⟩

end Emptying

end ZonalBucket
