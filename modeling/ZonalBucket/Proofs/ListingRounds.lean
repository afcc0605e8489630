import ZonalBucket.Listing
import ZonalBucket.Proofs.PlainCalls

/-!
# The rounds of a listing

A listing is a loop: a page is asked for, and as long as its answer has a token, the next
page is asked for with it.  `Listing.Rounds` is this loop as it is, with nothing that could
make it stop early: its rules only tell what follows an answer.  So a listing ends when
there are rounds for it at all.

Unless pages have no keys, there are rounds for every listing, whatever is laid down for it,
`Listing.exists_rounds`, and it runs as they do, `Listing.Rounds.run`.  Rounds do nothing
but to make their calls, `Listing.Rounds.world`; a call that fails is the last one,
`Listing.Rounds.outcome_of_failed`.
-/

namespace ZonalBucket

namespace Listing

variable {bucket : String} {token : Option Document} {w v : World}

/-- To be asked for a page of its keys does not change a bucket. -/
theorem storeAfter_listObjects (bucket : String) (token : Option Document) (w : World) :
    w.storeAfter (.listObjects bucket token) = w.store := by
  rw [World.storeAfter]
  split
  · split
    · rename_i hperform
      exact (Call.perform_listObjects_eq_ok hperform).1
    · rfl
  · rfl

/-- What a call for a page leaves behind.  The store is not changed by it, since a
listing only reads. -/
theorem world_of_invoke {outcome : Outcome Document}
    (h : Client.invoke (.listObjects bucket token) w = (outcome, v)) :
    v = (w.visit .listObjects).tell { exchanges := [⟨.listObjects bucket token, outcome⟩] } := by
  rw [Client.invoke_apply, storeAfter_listObjects] at h
  cases h
  rfl

/-- A page comes from a call that was answered, by an answer that can be read. -/
theorem fetchPage_eq_ok {page : Page} (h : fetchPage bucket token w = (.ok page, v)) :
    ∃ answer, Client.invoke (.listObjects bucket token) w = (.ok answer, v) ∧
      Page.ofReply answer = .ok page := by
  rw [fetchPage] at h
  rcases hcall : Client.invoke (.listObjects bucket token) w with ⟨failure | answer, u⟩
  · rw [Action.bind_of_error _ hcall] at h
    cases h
  · rw [Action.bind_of_ok _ hcall] at h
    cases hread : Page.ofReply answer with
    | error cause =>
      rw [hread] at h
      cases h
    | ok found =>
      rw [hread] at h
      cases h
      exact ⟨answer, rfl, hread⟩

/-- Without a page, the call failed or its answer cannot be read. -/
theorem fetchPage_eq_error {failure : Failure}
    (h : fetchPage bucket token w = (.error failure, v)) :
    Client.invoke (.listObjects bucket token) w = (.error failure, v) ∨
      ∃ answer cause, Client.invoke (.listObjects bucket token) w = (.ok answer, v) ∧
        Page.ofReply answer = .error cause ∧ failure = .malformed cause := by
  rw [fetchPage] at h
  rcases hcall : Client.invoke (.listObjects bucket token) w with ⟨found | answer, u⟩
  · rw [Action.bind_of_error _ hcall] at h
    cases h
    exact .inl rfl
  · rw [Action.bind_of_ok _ hcall] at h
    cases hread : Page.ofReply answer with
    | error cause =>
      rw [hread] at h
      cases h
      exact .inr ⟨answer, cause, rfl, hread, rfl⟩
    | ok found =>
      rw [hread] at h
      cases h

/-- A page is fetched by a call that is answered and an answer that can be read; the
reading leaves the world alone. -/
theorem fetchPage_of_ok {answer : Document} {page : Page}
    (hcall : Client.invoke (.listObjects bucket token) w = (.ok answer, v))
    (hread : Page.ofReply answer = .ok page) : fetchPage bucket token w = (.ok page, v) := by
  rw [fetchPage, Action.bind_of_ok _ hcall, hread]
  rfl

/-- The loop of a listing from a token on: the calls that it makes, what it ends in, and the
world that it leaves behind. -/
inductive Rounds (bucket : String) :
    Option Document → World → List Exchange → Outcome (List String) → World → Prop
  /-- The call fails. -/
  | failed {token : Option Document} {w v : World} {failure : Failure}
      (hcall : Client.invoke (.listObjects bucket token) w = (.error failure, v)) :
      Rounds bucket token w [⟨.listObjects bucket token, .error failure⟩] (.error failure) v
  /-- The answer cannot be read. -/
  | unread {token : Option Document} {w v : World} {answer : Document} {cause : Malformed}
      (hcall : Client.invoke (.listObjects bucket token) w = (.ok answer, v))
      (hread : Page.ofReply answer = .error cause) :
      Rounds bucket token w [⟨.listObjects bucket token, .ok answer⟩]
        (.error (.malformed cause)) v
  /-- The page has no token to go on with. -/
  | last {token : Option Document} {w v : World} {answer : Document} {page : Page}
      (hcall : Client.invoke (.listObjects bucket token) w = (.ok answer, v))
      (hread : Page.ofReply answer = .ok page) (hnext : page.next = none) :
      Rounds bucket token w [⟨.listObjects bucket token, .ok answer⟩] (.ok page.keys) v
  /-- The page has a token, and the listing goes on with it. -/
  | more {token : Option Document} {w v u : World} {answer next : Document} {page : Page}
      {made : List Exchange} {outcome : Outcome (List String)}
      (hcall : Client.invoke (.listObjects bucket token) w = (.ok answer, v))
      (hread : Page.ofReply answer = .ok page) (hnext : page.next = some next)
      (hrest : Rounds bucket (some next) v made outcome u) :
      Rounds bucket token w (⟨.listObjects bucket token, .ok answer⟩ :: made)
        (outcome.map (page.keys ++ ·)) u

/-- **Every listing ends,** unless pages have no keys: there are rounds for it, with a
row of calls that is the one it makes.  The rounds know nothing of the measure by
which the listing was seen to end. -/
theorem exists_rounds (bucket : String) (token : Option Document)
    (hsize : w.limits.pageSize ≠ 0) :
    ∃ made, Rounds bucket token w made (keysFrom bucket token w).1 (keysFrom bucket token w).2 := by
  fun_induction keysFrom bucket token w with
  | case1 token w failure v hfetch =>
    rcases fetchPage_eq_error hfetch with hcall | ⟨answer, cause, hcall, hread, rfl⟩
    · exact ⟨_, .failed hcall⟩
    · exact ⟨_, .unread hcall hread⟩
  | case2 token w page v hfetch hnext =>
    obtain ⟨answer, hcall, hread⟩ := fetchPage_eq_ok hfetch
    exact ⟨_, .last hcall hread hnext⟩
  | case3 token w page v hfetch next hnext hless failure u hrest ih =>
    obtain ⟨answer, hcall, hread⟩ := fetchPage_eq_ok hfetch
    rw [hrest] at ih
    obtain ⟨made, hrounds⟩ := ih (world_of_invoke hcall ▸ hsize)
    exact ⟨_, .more hcall hread hnext hrounds⟩
  | case4 token w page v hfetch next hnext hless keys u hrest ih =>
    obtain ⟨answer, hcall, hread⟩ := fetchPage_eq_ok hfetch
    rw [hrest] at ih
    obtain ⟨made, hrounds⟩ := ih (world_of_invoke hcall ▸ hsize)
    exact ⟨_, .more hcall hread hnext hrounds⟩
  | case5 token w page v hfetch next hnext hless =>
    exact absurd (getsOn_of_next hsize hfetch hnext (by simp)) hless

/-- A call for a page uses up one answer, if there is one. -/
theorem length_script_of_invoke {outcome : Outcome Document}
    (h : Client.invoke (.listObjects bucket token) w = (outcome, v)) :
    (v.script .listObjects).length = (w.script .listObjects).length - 1 := by
  rw [world_of_invoke h, World.tell_script, ← World.visits_one, World.visits_script_self,
    List.length_drop]

/-- A listing gets on when an answer that was laid down for it is used up. -/
theorem getsOn_of_script {outcome : Outcome Document} (hscript : w.script .listObjects ≠ [])
    (hcall : Client.invoke (.listObjects bucket token) w = (outcome, v)) (next : Option Document) :
    getsOn bucket token next w v = true := by
  have hpos := List.length_pos_iff.2 hscript
  have hlength := length_script_of_invoke hcall
  have hless : (v.script .listObjects).length < (w.script .listObjects).length := by omega
  simp [getsOn, smaller, measure, hless]

namespace Rounds

variable {made : List Exchange} {outcome : Outcome (List String)}

/-- **Rounds do nothing but to make their calls.**  The world behind them is the one
in front with as many visits to the slot and the exchanges in the trace. -/
theorem world (h : Rounds bucket token w made outcome v) :
    v = (w.visits .listObjects made.length).tell { exchanges := made } := by
  induction h with
  | failed hcall | unread hcall | last hcall =>
    rw [world_of_invoke hcall, List.length_singleton, World.visits_one]
  | @more token w v u answer next page made outcome hcall hread hnext hrest ih =>
    have hvisits : ∀ t, (((w.visit .listObjects).tell t).visits .listObjects made.length) =
        (w.visits .listObjects (made.length + 1)).tell t := by
      intro t
      rw [World.visits_succ]
      rfl
    rw [ih, world_of_invoke hcall, hvisits, World.tell_tell]
    rfl

/-- The first call has the token with which the rounds began, whatever it came to. -/
theorem exists_first (h : Rounds bucket token w made outcome v) :
    ∃ ending rest, made = ⟨.listObjects bucket token, ending⟩ :: rest := by
  cases h with
  | failed | unread | last | more => exact ⟨_, _, rfl⟩

/-- All calls are for pages of keys of the one bucket.  They differ in nothing but
their tokens. -/
theorem call_eq (h : Rounds bucket token w made outcome v) {e : Exchange} (he : e ∈ made) :
    ∃ asked, e.call = .listObjects bucket asked := by
  induction h with
  | failed | unread | last =>
    obtain rfl := List.mem_singleton.1 he
    exact ⟨_, rfl⟩
  | more hcall hread hnext hrest ih =>
    rcases List.mem_cons.1 he with rfl | he
    · exact ⟨_, rfl⟩
    · exact ih he

/-- A call that fails is the last one, and the listing fails as it does. -/
theorem outcome_of_failed (h : Rounds bucket token w made outcome v) {e : Exchange} (he : e ∈ made)
    {failure : Failure} (hfailed : e.outcome = .error failure) : outcome = .error failure := by
  induction h with
  | failed hcall =>
    obtain rfl := List.mem_singleton.1 he
    cases hfailed
    rfl
  | unread | last =>
    obtain rfl := List.mem_singleton.1 he
    cases hfailed
  | more hcall hread hnext hrest ih =>
    rcases List.mem_cons.1 he with rfl | he
    · cases hfailed
    · rw [ih he]
      rfl

/-- **A listing runs as its rounds do.**  Pages must have some keys; or all rounds are
answered by what is laid down, and then their size does not matter. -/
theorem run (h : Rounds bucket token w made outcome v)
    (hgets : w.limits.pageSize ≠ 0 ∨ made.length ≤ (w.script .listObjects).length) :
    keysFrom bucket token w = (outcome, v) := by
  induction h with
  | failed hcall =>
    rw [keysFrom, fetchPage, Action.bind_of_error _ hcall]
  | unread hcall hread =>
    rw [keysFrom, fetchPage, Action.bind_of_ok _ hcall, hread]
    rfl
  | last hcall hread hnext =>
    rw [keysFrom, fetchPage_of_ok hcall hread]
    simp only [hnext]
  | @more token w v u answer next page made outcome hcall hread hnext hrest ih =>
    have hfetch := fetchPage_of_ok hcall hread
    have hworld := world_of_invoke hcall
    have hon : getsOn bucket token (some next) w v = true := by
      rcases hgets with hsize | hscript
      · exact getsOn_of_next hsize hfetch hnext (by simp)
      · refine getsOn_of_script (fun hnil => ?_) hcall _
        rw [hnil] at hscript
        cases hscript
    have hleft : v.limits.pageSize ≠ 0 ∨ made.length ≤ (v.script .listObjects).length := by
      refine hgets.imp (fun hsize => hworld ▸ hsize) fun hscript => ?_
      rw [length_script_of_invoke hcall]
      exact Nat.le_sub_of_add_le hscript
    rw [keysFrom, hfetch]
    simp only [hnext, dif_pos hon, ih hleft]
    cases outcome <;> rfl

end Rounds

end Listing

end ZonalBucket
