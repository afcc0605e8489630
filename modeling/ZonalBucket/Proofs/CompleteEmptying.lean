import ZonalBucket.Proofs.EmptyingPhases
import ZonalBucket.Proofs.PagedListing

/-!
# Emptying is complete

When the calls for listing and deleting pass, emptying a bucket takes out all of its
objects and nothing else, whatever the sizes of pages and batches are.  The pages make up
the keys in order, `Listing.keysFrom_offset`, the batches make up what the pages gave,
`flatten_chunks`, and each batch takes its keys out of the bucket,
`deleteBatches_of_passes`.  So the two sizes never have to fit together,
`emptyBucket_of_passes`.
-/

namespace ZonalBucket.Emptying

variable {w : World} {name : String} {bucket : Bucket}

/-- A batch that the store takes out; it tells of no key that could not be deleted. -/
def taken (name : String) (batch : List String) : Exchange where
  call := .deleteObjects name batch
  outcome := .ok
    (.object [("Deleted", .list (batch.map fun key => .object [("Key", .text key)]))])

/-- One batch is taken out of the bucket.  The answer tells of no errors, since a
store of this kind has none to tell, and so no key counts as failed. -/
theorem deleteBatch_of_pass (source : Source) (hpass : w.nextAnswer .deleteObjects = .pass)
    (hbucket : w.store.get? name = some bucket) (batch : List String) :
    deleteBatch source name batch w = (.ok 0,
      ((w.visit .deleteObjects).withStore (w.store.insert name (bucket.eraseAll batch))).tell
        { exchanges := [taken name batch] }) := by
  have hperform : Call.perform w.limits.pageSize w.store (.deleteObjects name batch) =
      .ok (.object [("Deleted", .list (batch.map fun key => .object [("Key", .text key)]))],
        w.store.insert name (bucket.eraseAll batch)) := by
    simp [Call.perform, Store.deleteObjects, Store.bucket_of_some hbucket, Call.orRefused,
      Except.map]
  have hitems : itemsOf (.object [("Deleted", .list (batch.map fun key =>
      .object [("Key", .text key)]))]) = .ok [] := by
    simp [itemsOf, Document.needFields, Document.needItems, Page.fieldOr, lookup_cons_if,
      bind, Except.bind]
  rw [deleteBatch, Action.bind_of_ok _ (Client.invoke_of_pass _ hpass hperform), hitems]
  rfl

/-- The batches are taken out of the bucket one after the other. -/
theorem deleteBatches_of_passes (source : Source) {batches : List (List String)}
    (hpass : w.PassesFor .deleteObjects batches.length)
    (hbucket : w.store.get? name = some bucket) :
    deleteBatches source name batches w = (.ok 0,
      ((w.visits .deleteObjects batches.length).withStore
        (w.store.insert name (bucket.eraseAll batches.flatten))).tell
        { exchanges := batches.map (taken name) }) := by
  induction batches generalizing w bucket with
  | nil =>
    have hsame : w.store.insert name (bucket.eraseAll [].flatten) = w.store :=
      Catalog.insert_of_get? hbucket
    rw [hsame]
    simp [deleteBatches, Action.pure_apply, World.tell, World.withStore, World.visits]
  | cons batch rest ih =>
    have hbatch := deleteBatch_of_pass source hpass.nextAnswer hbucket batch
    have hleft : (w.store.insert name (bucket.eraseAll batch)).get? name =
        some (bucket.eraseAll batch) :=
      (Catalog.get?_insert _ _ _ _).trans (if_pos rfl)
    have hrest := ih (w := ((w.visit .deleteObjects).withStore
      (w.store.insert name (bucket.eraseAll batch))).tell { exchanges := [taken name batch] })
      hpass.visit hleft
    have hstore : Catalog.insert (Catalog.insert w.store name (bucket.eraseAll batch)) name
        ((bucket.eraseAll batch).eraseAll rest.flatten) =
        Catalog.insert w.store name ((bucket.eraseAll batch).eraseAll rest.flatten) :=
      Catalog.insert_insert _ _ _ _
    rw [deleteBatches, Action.bind_of_ok _ hbatch, Action.bind_of_ok _ hrest, List.length_cons,
      List.flatten_cons, Catalog.eraseAll_append, World.visits_succ]
    simp [Action.pure_apply, World.tell, World.withStore, World.visits, Trace.append, hstore]

/-- **Emptying is complete.**  All keys are listed, deleted in batches and counted, and the
bucket stays behind empty; of what was laid down only passes are used up. -/
theorem emptyBucket_of_passes (source : Source) (hw : w.Unhindered)
    (hbucket : w.store.get? name = some bucket) {size batch : Nat}
    (hsize : w.limits.pageSize = size) (hbatch : w.limits.batchSize = batch) :
    ∃ listed : List Exchange,
      emptyBucket source name w = (.ok (bucket.names.length : Int),
        (((w.visits .listObjects listed.length).visits .deleteObjects
            (chunks batch bucket.names).length).withStore
          (w.store.insert name Catalog.empty)).tell
            { exchanges := listed ++ (chunks batch bucket.names).map (taken name),
              records :=
                [conclusion source name bucket.names.length bucket.names.length] }) ∧
      listed.map (·.call) = Listing.callsFrom name size 0 bucket.names.length := by
  have hpositive : 0 < size ∧ 0 < batch := by
    have h1 := hw.pageSize
    have h2 := hw.batchSize
    omega
  obtain ⟨listed, hlisted, hcalls⟩ := Listing.keysFrom_offset hw.listing hpositive.1 hsize
    hbucket (Nat.zero_le _)
  have hkeys : Listing.keys name w = (.ok bucket.names,
      (w.visits .listObjects listed.length).tell { exchanges := listed }) := hlisted
  -- Behind the listing nothing is changed that the batches depend on.
  have hlimits : ((w.visits .listObjects listed.length).tell
      { exchanges := listed }).limits.batchSize = batch := hbatch
  have hpass : ((w.visits .listObjects listed.length).tell { exchanges := listed }).Passes
      .deleteObjects := hw.deleting
  have hdeleted := deleteBatches_of_passes source
    (hpass.passesFor (chunks batch bucket.names).length) hbucket
  rw [flatten_chunks hpositive.2, Catalog.eraseAll_names] at hdeleted
  refine ⟨listed, ?_, hcalls⟩
  rw [emptyBucket_of_keys hkeys,
    deleteFound_of_batches hlimits hpositive.2 hdeleted fun _ => rfl]
  simp [World.tell, World.withStore, World.visits, Trace.append]

/-- Where nothing is laid down, nothing is used up: emptying leaves the script as it
was, and with it the same for the next run. -/
theorem emptyBucket_of_some (source : Source) (hw : w.Undisturbed)
    (hbucket : w.store.get? name = some bucket) {size batch : Nat}
    (hsize : w.limits.pageSize = size) (hbatch : w.limits.batchSize = batch) :
    ∃ (listed deleted : List Exchange) (record : Record),
      emptyBucket source name w = (.ok (bucket.names.length : Int),
        (w.withStore (w.store.insert name Catalog.empty)).tell
          { exchanges := listed ++ deleted, records := [record] }) ∧
      listed.map (·.call) = Listing.callsFrom name size 0 bucket.names.length ∧
      deleted.map (·.call) = (chunks batch bucket.names).map (.deleteObjects name) := by
  obtain ⟨listed, hrun, hcalls⟩ :=
    emptyBucket_of_passes source hw.unhindered hbucket hsize hbatch
  rw [World.visits_of_nil hw.listing, World.visits_of_nil hw.deleting] at hrun
  exact ⟨listed, _, _, hrun, hcalls, List.map_map⟩

/-- In the store, emptying does nothing but to leave the bucket without objects. -/
theorem emptyBucket_store (source : Source) (hw : w.Undisturbed)
    (hbucket : w.store.get? name = some bucket) :
    ∃ count v, emptyBucket source name w = (.ok count, v) ∧
      v.store = w.store.insert name Catalog.empty ∧ v.script = w.script := by
  obtain ⟨size, hsize⟩ := hw.unhindered.exists_pageSize
  obtain ⟨batch, hbatch⟩ := hw.unhindered.exists_batchSize
  obtain ⟨listed, deleted, record, hrun, -, -⟩ :=
    emptyBucket_of_some source hw hbucket hsize hbatch
  exact ⟨_, _, hrun, rfl, rfl⟩

/-- A bucket that is not there cannot be emptied, and the store stays as it is. -/
theorem emptyBucket_of_none (source : Source) (hw : w.Undisturbed)
    (habsent : w.store.get? name = none) :
    ∃ t, emptyBucket source name w =
      (.error (.refused (Store.noSuchBucket "ListObjectsV2")), w.tell t) := by
  have hperform : Call.perform w.limits.pageSize w.store (.listObjects name none) =
      .error (.refused (Store.noSuchBucket "ListObjectsV2")) := by
    simp [Call.perform, Store.keys, Store.bucket_of_none habsent, Call.orRefused, Except.map,
      Except.bind]
  have hinvoke := Client.invoke_of_perform_error (.listObjects name none) hw.listing hperform
  have hpage := Action.bind_of_error
    (fun answer => Action.ofOutcome (Failure.ofMalformed (Page.ofReply answer))) hinvoke
  have hsize : w.limits.pageSize ≠ 0 := by
    have hpos := hw.pageSize
    omega
  have hkeys : Listing.keys name w = _ :=
    (Listing.keysFrom_eq hsize).trans (Action.andThen_of_error (Listing.keysAfter name) hpage)
  obtain ⟨records, hrun⟩ := emptyBucket_of_keys_error source hkeys
  rw [World.tell_tell] at hrun
  exact ⟨_, hrun⟩

/-- **Emptying is exact.**  The pages are asked for first, each at the offset that one
size behind the other gives; then the batches take out all keys in order, each once.
No other bucket is touched. -/
theorem emptyBucket_complete (source : Source) (hbucket : w.store.get? name = some bucket)
    {size batch : Nat} (hsize : w.limits.pageSize = size) (hbatch : w.limits.batchSize = batch)
    (hsizepos : 1 ≤ size) (hbatchpos : 1 ≤ batch) (hlisting : w.script .listObjects = [])
    (hdeleting : w.script .deleteObjects = []) :
    ∃ (v : World) (batches : List (List String)),
      emptyBucket source name w = (.ok (bucket.names.length : Int), v) ∧
      v.store.get? name = some Catalog.empty ∧
      (∀ other, other ≠ name → v.store.get? other = w.store.get? other) ∧
      v.trace.calls = w.trace.calls ++
        ((List.range (max 1 (piecesFor size bucket.names.length))).map fun i =>
          .listObjects name (if i = 0 then none else some (.text (toString (i * size))))) ++
        batches.map (.deleteObjects name) ∧
      batches.length = piecesFor batch bucket.names.length ∧
      (∀ keys ∈ batches, keys ≠ [] ∧ keys.length ≤ batch) ∧
      (∀ keys ∈ batches.dropLast, keys.length = batch) ∧
      batches.flatten = bucket.names ∧
      bucket.names.Pairwise (· < ·) ∧
      (∀ key, key ∈ bucket.names ↔ (bucket.get? key).isSome) := by
  have hw : w.Undisturbed := ⟨by omega, by omega, hlisting, hdeleting⟩
  obtain ⟨listed, deleted, record, hrun, hlistcalls, hdelcalls⟩ :=
    emptyBucket_of_some source hw hbucket hsize hbatch
  refine ⟨_, chunks batch bucket.names, hrun, ?_, ?_, ?_, length_chunks hbatchpos _, ?_, ?_,
    flatten_chunks hbatchpos _, bucket.pairwise_names, fun key => Catalog.mem_names⟩
  · exact (Catalog.get?_insert _ _ _ _).trans (if_pos rfl)
  · intro other hne
    exact (Catalog.get?_insert _ _ _ _).trans (if_neg hne)
  -- The offsets of the pages are written as tokens, except for the first one.
  · rw [World.tell_trace, Trace.calls_append, List.append_assoc,
      ← Listing.callsFrom_zero name hsizepos, ← hlistcalls, ← hdelcalls, ← List.map_append]
    rfl
  · intro keys hkeys
    have hlength := length_of_mem_chunks hkeys
    exact ⟨List.length_pos_iff.1 hlength.1, hlength.2⟩
  · intro keys hkeys
    exact length_of_mem_dropLast_chunks hkeys

/-- A store with two buckets, the second of which has three objects. -/
def twoBuckets : Store :=
  let object : Object := ⟨[0x78], "text/plain"⟩
  (Store.seed Catalog.empty "first" ["only"] object).seed "second" ["k1", "k0", "k2"] object

/-- The second of the two buckets has three keys, which are listed in order.  It takes
two pages of two keys, and two batches. -/
theorem exists_twoBuckets :
    ∃ bucket, twoBuckets.get? "second" = some bucket ∧ bucket.names = ["k0", "k1", "k2"] := by
  have hfound : (twoBuckets.get? "second").map Catalog.names = some ["k0", "k1", "k2"] := by
    decide
  exact Option.map_eq_some_iff.1 hfound

/-- Three keys on pages of two, in batches of two: the last page and the last batch are
short. -/
theorem emptyBucket_complete_three :
    ∃ (bucket : Bucket) (v : World) (batches : List (List String)),
      twoBuckets.get? "second" = some bucket ∧
      emptyBucket .provision "second" { store := twoBuckets, limits := ⟨2, 2⟩ } = (.ok 3, v) ∧
      v.store.get? "second" = some Catalog.empty ∧
      v.trace.calls = [.listObjects "second" none, .listObjects "second" (some (.text "2"))] ++
        batches.map (.deleteObjects "second") ∧
      batches.length = 2 ∧ batches.flatten = ["k0", "k1", "k2"] := by
  obtain ⟨bucket, hbucket, hnames⟩ := exists_twoBuckets
  have htwo : (2 : Int) = (2 : Nat) := rfl
  obtain ⟨v, batches, hrun, hempty, -, hcalls, hlength, -, -, hall, -, -⟩ :=
    emptyBucket_complete (w := { store := twoBuckets, limits := ⟨2, 2⟩ }) .provision hbucket
      htwo htwo (by decide) (by decide) rfl rfl
  rw [hnames] at hrun hcalls hlength hall
  exact ⟨bucket, v, batches, hbucket, hrun, hempty, hcalls, hlength, hall⟩

end ZonalBucket.Emptying
