import ZonalBucket.Proofs.EmptyingReports
import ZonalBucket.Proofs.RunsAlong

/-!
# The calls that emptying comes to

Which calls it takes to empty a bucket depends on what the calls before them come to.
`Emptying.Reaches` tells all of them, each with the world in which its turn comes: the page
without a token; behind a page that has a token, the page of that token; and behind a listing
and the batches that have gone through, the next batch.  It looks at single calls and at what
their answers hold, and does not ask what emptying itself makes of them.

Emptying makes every call that it comes to, and the call comes to what is laid down for it or
to what the store does with it then, `Emptying.gains_of_reaches`.  Since a run only adds to
the trace, `World.Grows`, it is enough to find the world of the call on the way of the run.
-/

namespace ZonalBucket

open ZonalBucket.Action (Along Lasting Leads)

namespace World

variable {w v u : World} {e : Exchange}

/-- A world that only adds to what the trace of an earlier one tells. -/
def Grows (w v : World) : Prop := ∃ t, v.trace = w.trace.append t

/-- Between the two worlds the exchange was made. -/
def Gains (e : Exchange) (w v : World) : Prop :=
  ∃ t, v.trace = w.trace.append t ∧ e ∈ t.exchanges

/-- Traces grow from run to run, so that it is enough to look at the parts of a run. -/
theorem Grows.lasting : Lasting Grows where
  refl w := ⟨{}, (Trace.append_empty _).symm⟩
  trans := by
    rintro w v u ⟨s, hs⟩ ⟨t, ht⟩
    exact ⟨s.append t, by rw [ht, hs, Trace.append_assoc]⟩
  record w record := ⟨_, congrArg World.trace (noteRecord_eq_tell w record)⟩

/-- What is made later was not made before, but it is part of the longer run. -/
theorem Grows.gains (h : w.Grows v) (hgains : Gains e v u) : Gains e w u := by
  obtain ⟨s, hs⟩ := h
  obtain ⟨t, ht, he⟩ := hgains
  refine ⟨s.append t, ?_, List.mem_append_right _ he⟩
  rw [ht, hs, Trace.append_assoc]

/-- Nothing of what was made is taken back.  A call that the first part of an action
made was made by the whole. -/
theorem Gains.grows (h : Gains e w v) (hgrows : v.Grows u) : Gains e w u := by
  obtain ⟨s, hs, he⟩ := h
  obtain ⟨t, ht⟩ := hgrows
  refine ⟨s.append t, ?_, List.mem_append_left _ he⟩
  rw [ht, hs, Trace.append_assoc]

/-- The exchange is found in any account of what was done in between. -/
theorem Gains.mem (h : Gains e w v) {t : Trace} (ht : v.trace = w.trace.append t) :
    e ∈ t.exchanges := by
  obtain ⟨s, hs, he⟩ := h
  obtain rfl : t = s := Trace.append_left_cancel (ht.symm.trans hs)
  exact he

end World

open ZonalBucket.World (Gains Grows)

/-- A call is made with what it comes to: the exchange in the trace has the outcome
that is laid down for it in the world in front of it. -/
theorem Client.invoke_gains (call : Call) (w : World) :
    Gains ⟨call, w.outcomeOf call⟩ w (Client.invoke call w).2 := by
  rw [Client.invoke_apply]
  exact ⟨_, rfl, List.mem_singleton_self _⟩

/-- Whatever is known of the piece that each run of an action adds, its traces grow. -/
theorem Action.Adds.grows {α : Type} {action : Action α} {P : Outcome α → Trace → Prop}
    (h : action.Adds P) : action.Along Grows := by
  intro w
  obtain ⟨t, ht, -⟩ := h w
  exact ⟨t, ht⟩

namespace Listing

variable {bucket : String} {token : Option Document} {w u v : World}

/-- The pages that a listing comes to ask for, with the tokens and the worlds in which it
does.  A page with a token is always followed by another one, unless pages have no keys and
the page was not laid down either. -/
inductive Reaches (bucket : String) (w : World) : Option Document → World → Prop
  /-- The listing begins without a token. -/
  | first : Reaches bucket w none w
  /-- The page is read, and it has a token to go on with. -/
  | next {token : Option Document} {u v : World} {answer next : Document} {page : Page}
      (hbefore : Reaches bucket w token u)
      (hgets : u.limits.pageSize ≠ 0 ∨ u.script .listObjects ≠ [])
      (hcall : Client.invoke (.listObjects bucket token) u = (.ok answer, v))
      (hread : Page.ofReply answer = .ok page) (hnext : page.next = some next) :
      Reaches bucket w (some next) v

/-- When a listing goes on behind a page, it ends in the world in which the pages behind
it end.  Only the keys of the page are put in front of theirs. -/
theorem keysFrom_world_of_getsOn {page : Page} {next : Document}
    (hfetch : fetchPage bucket token u = (.ok page, v)) (hnext : page.next = some next)
    (hon : getsOn bucket token (some next) u v = true) :
    (keysFrom bucket token u).2 = (keysFrom bucket (some next) v).2 := by
  rw [keysFrom, hfetch]
  simp only [hnext, dif_pos hon]
  rcases keysFrom bucket (some next) v with ⟨_ | keys, x⟩ <;> rfl

/-- Behind a page with a token, what is left of a listing is the listing from there on. -/
theorem keysFrom_world_of_next {answer next : Document} {page : Page}
    (hgets : u.limits.pageSize ≠ 0 ∨ u.script .listObjects ≠ [])
    (hcall : Client.invoke (.listObjects bucket token) u = (.ok answer, v))
    (hread : Page.ofReply answer = .ok page) (hnext : page.next = some next) :
    (keysFrom bucket token u).2 = (keysFrom bucket (some next) v).2 := by
  have hfetch := fetchPage_of_ok hcall hread
  refine keysFrom_world_of_getsOn hfetch hnext ?_
  rcases hgets with hsize | hscript
  · exact getsOn_of_next hsize hfetch hnext (by simp)
  · exact getsOn_of_script hscript hcall _

/-- A listing only adds to the trace, however many pages it has. -/
theorem keysFrom_grows (bucket : String) (token : Option Document) :
    Along Grows (keysFrom bucket token) :=
  (Action.Heeds.keysFrom bucket token).grows

/-- Whatever the first page comes to, a listing goes on from there.  It may end with the
page, or go on with the pages behind it. -/
theorem keysFrom_leads (bucket : String) (token : Option Document) :
    Leads Grows (fetchPage bucket token) (keysFrom bucket token) := by
  intro w
  rcases hfetch : fetchPage bucket token w with ⟨failure | page, v⟩
  · rw [keysFrom, hfetch]
    exact Grows.lasting.refl v
  · cases hnext : page.next with
    | none =>
      rw [keysFrom, hfetch]
      simp only [hnext]
      exact Grows.lasting.refl v
    | some next =>
      by_cases hon : getsOn bucket token (some next) w v = true
      · rw [keysFrom_world_of_getsOn hfetch hnext hon]
        exact keysFrom_grows bucket (some next) v
      · rw [keysFrom, hfetch]
        simp only [hnext, dif_neg hon]
        exact Grows.lasting.refl v

/-- The first call of a listing is made, without any condition.  All others depend on
what the ones before them came to. -/
theorem keysFrom_gains (bucket : String) (token : Option Document) (w : World) :
    Gains ⟨.listObjects bucket token, w.outcomeOf (.listObjects bucket token)⟩ w
      (keysFrom bucket token w).2 := by
  have hpage : Leads Grows (Client.invoke (.listObjects bucket token))
      (fetchPage bucket token) :=
    Leads.bind Grows.lasting fun _ => Along.ofOutcome Grows.lasting _
  exact ((Client.invoke_gains _ w).grows (hpage w)).grows (keysFrom_leads bucket token w)

/-- A page that a listing comes to lies on its way. -/
theorem Reaches.world (h : Reaches bucket w token u) :
    w.Grows u ∧ (keys bucket w).2 = (keysFrom bucket token u).2 := by
  induction h with
  | first => exact ⟨Grows.lasting.refl w, rfl⟩
  | @next token u v answer next page hbefore hgets hcall hread hnext ih =>
    obtain ⟨hgrows, hsame⟩ := ih
    have hmade := (Action.Heeds.invoke (.listObjects bucket token)).grows u
    rw [hcall] at hmade
    exact ⟨Grows.lasting.trans hgrows hmade,
      hsame.trans (keysFrom_world_of_next hgets hcall hread hnext)⟩

end Listing

namespace Emptying

variable {source : Source} {bucket : String} {batch : List String} {w v u : World} {call : Call}

/-- The calls that emptying a bucket comes to, with the worlds in which it does. -/
inductive Reaches (source : Source) (bucket : String) (w : World) : Call → World → Prop
  /-- A page of the keys, which are listed first. -/
  | page {token : Option Document} {u : World} (h : Listing.Reaches bucket w token u) :
      Reaches source bucket w (.listObjects bucket token) u
  /-- A batch of the keys that were listed, when those before it have gone through. -/
  | batch {made : List Exchange} {keys batch : List String} {first rest : List (List String)}
      {failed : Nat} {v u : World} (hlisted : Listing.Rounds bucket none w made (.ok keys) v)
      (hgets : w.limits.pageSize ≠ 0 ∨ made.length ≤ (w.script .listObjects).length)
      (hbatches : chunks v.limits.batchSize.toNat keys = first ++ batch :: rest)
      (hdeleted : deleteBatches source bucket first v = (.ok failed, u)) :
      Reaches source bucket w (.deleteObjects bucket batch) u

/-- Behind a batch that has gone through, what is left is to delete the others. -/
theorem deleteBatches_world_of_ok {rest : List (List String)} {here : Nat}
    (h : deleteBatch source bucket batch w = (.ok here, v)) :
    (deleteBatches source bucket (batch :: rest) w).2 = (deleteBatches source bucket rest v).2 := by
  rw [deleteBatches, Action.bind_of_ok _ h, Action.bind_pure_apply]

/-- The first batch is asked for, whatever is made of the answer and of the other ones. -/
theorem deleteBatches_gains_head (source : Source) (bucket : String) (batch : List String)
    (rest : List (List String)) (w : World) :
    Gains ⟨.deleteObjects bucket batch, w.outcomeOf (.deleteObjects bucket batch)⟩ w
      (deleteBatches source bucket (batch :: rest) w).2 := by
  have hgrows := Along.hereditary Grows.lasting
  have hcall : Leads Grows (Client.invoke (.deleteObjects bucket batch))
      (deleteBatch source bucket batch) := by
    refine Leads.bind Grows.lasting fun answer => hgrows.bind (hgrows.ofOutcome _) fun items => ?_
    exact Action.Adds.grows (reportItems_reports source items)
  have hbatch : Leads Grows (deleteBatch source bucket batch)
      (deleteBatches source bucket (batch :: rest)) := by
    refine Leads.bind Grows.lasting fun here => ?_
    exact hgrows.bind (deleteBatches_reports source bucket rest).grows fun _ => hgrows.pure _
  exact ((Client.invoke_gains _ w).grows (hcall w)).grows (hbatch w)

/-- A batch is asked for when those before it have gone through. -/
theorem deleteBatches_gains {first : List (List String)} {failed : Nat}
    (h : deleteBatches source bucket first w = (.ok failed, u)) (batch : List String)
    (rest : List (List String)) :
    Gains ⟨.deleteObjects bucket batch, u.outcomeOf (.deleteObjects bucket batch)⟩ w
      (deleteBatches source bucket (first ++ batch :: rest) w).2 := by
  induction first generalizing w failed with
  | nil =>
    cases h
    exact deleteBatches_gains_head source bucket batch rest _
  | cons head others ih =>
    rw [deleteBatches] at h
    rcases hhead : deleteBatch source bucket head w with ⟨_ | here, v⟩
    · rw [Action.bind_of_error _ hhead] at h
      cases h
    · rw [Action.bind_of_ok _ hhead] at h
      rcases hothers : deleteBatches source bucket others v with ⟨_ | later, x⟩
      · rw [Action.bind_of_error _ hothers] at h
        cases h
      · rw [Action.bind_of_ok _ hothers] at h
        cases h
        have hgrows := (deleteBatch_reports source bucket head).grows w
        rw [hhead] at hgrows
        rw [List.cons_append, deleteBatches_world_of_ok hhead]
        exact hgrows.gains (ih hothers)

/-- Whatever a listing comes to, emptying goes on from there. -/
theorem emptyBucket_leads (source : Source) (bucket : String) :
    Leads Grows (Listing.keys bucket) (emptyBucket source bucket) := by
  intro w
  rcases hkeys : Listing.keys bucket w with ⟨failure | keys, v⟩
  · obtain ⟨records, hrun⟩ := emptyBucket_of_keys_error source hkeys
    rw [hrun]
    exact ⟨_, rfl⟩
  · rw [emptyBucket_of_keys hkeys]
    exact (deleteFound_makes source bucket keys).grows v

/-- Emptying goes on from the deletion of the batches as well. -/
theorem deleteFound_grows {size : Nat} (hsize : w.limits.batchSize = size) (hpos : 0 < size)
    (keys : List String) :
    (deleteBatches source bucket (chunks size keys) w).2.Grows
      (deleteFound source bucket keys w).2 := by
  have hgrows := Along.hereditary Grows.lasting
  have hkeys : (deleteKeys source bucket keys w).2 =
      (deleteBatches source bucket (chunks size keys) w).2 := by
    rw [deleteKeys_apply hsize hpos, Action.bind_pure_apply]
  have hpassed : (deleteKeys source bucket keys w).2.Grows
      ((deleteKeys source bucket keys).onRefusal
        (Action.failRefused source "Failed to delete objects in bucket") w).2 := by
    rw [Action.passRefusal_eq_tell]
    exact ⟨_, rfl⟩
  have hconcluded : Leads Grows ((deleteKeys source bucket keys).onRefusal
      (Action.failRefused source "Failed to delete objects in bucket"))
      (deleteFound source bucket keys) :=
    Leads.bind Grows.lasting fun counts => hgrows.conclude source counts.1 counts.2
  rw [← hkeys]
  exact Grows.lasting.trans hpassed (hconcluded w)

/-- **Emptying makes every call that it comes to.**  These are the first page, each
page that an earlier one leads to, and each batch whose predecessors were answered.
The exchange has the outcome that is laid down for the call in the world where it is
reached. -/
theorem gains_of_reaches (h : Reaches source bucket w call u) :
    Gains ⟨call, u.outcomeOf call⟩ w (emptyBucket source bucket w).2 := by
  cases h with
  | @page token u h =>
    obtain ⟨hgrows, hsame⟩ := h.world
    have hlisted := Listing.keysFrom_gains bucket token u
    rw [← hsame] at hlisted
    exact hgrows.gains (hlisted.grows (emptyBucket_leads source bucket w))
  | @batch made keys batch first rest failed v u hlisted hgets hbatches hdeleted =>
    have hkeys : Listing.keys bucket w = (.ok keys, v) := hlisted.run hgets
    have hlisting : w.Grows v := by
      have hgrows := Listing.keysFrom_grows bucket none w
      rwa [show Listing.keysFrom bucket none w = (.ok keys, v) from hkeys] at hgrows
    -- A batch that was cut has some keys, so that the size of batches is positive.
    have hcut := length_of_mem_chunks (hbatches ▸ List.mem_append_right first List.mem_cons_self)
    have hsize : v.limits.batchSize = (v.limits.batchSize.toNat : Int) := by omega
    have hbatch := deleteBatches_gains hdeleted batch rest
    rw [← hbatches] at hbatch
    rw [emptyBucket_of_keys hkeys]
    exact hlisting.gains (hbatch.grows (deleteFound_grows hsize (by omega) keys))

end Emptying

end ZonalBucket
