import Mathlib
import ZonalBucket.Proofs.EmptyingPhases

/-!
# How a listing ends

Whatever answers are laid down for a listing, be their tokens repeated, out of range or
below zero, it ends: there are rounds for it, and these have no rule to stop them early.

An answer that was laid down is used up by its call.  Where none is left, a page that the
store gives starts one size before the page that is asked for next, and it has a token only
when keys are left behind it, `offset_of_next`.  So the calls go forward through the keys and
are over when these are, `Rounds.advances`.  As all pages are asked for before anything is
deleted, the same is true of the calls that empty a bucket.
-/

namespace ZonalBucket

namespace Listing

variable {bucket : String} {token : Option Document} {w v : World} {size : Nat}

/-- The offset at which the page of a call starts, if the bucket is there and the token can
be read. -/
def startOf (store : Store) : Call → Option Int
  | .listObjects bucket token => match store.keys bucket with
    | .ok keys => (Page.offset keys.length token).toOption
    | .error _ => none
  | _ => none

/-- A call behind which a listing goes on: it was answered, the next page starts one size
behind its own, and even the last one starts before the end of the keys. -/
def Advances (store : Store) (bucket : String) (size : Nat) (e : Exchange)
    (later : List Exchange) : Prop :=
  ∃ (keys : List String) (start : Int) (next : Exchange) (rest : List Exchange),
    later = next :: rest ∧ store.keys bucket = .ok keys ∧ e.isAnswered = true ∧
    startOf store e.call = some start ∧ startOf store next.call = some (start + size) ∧
    start + size * later.length < keys.length

/-- For a bucket that is there and a token that can be read, a page starts where its
token says. -/
theorem startOf_of_ok {store : Store} {keys : List String} {start : Int}
    (hkeys : store.keys bucket = .ok keys) (hoffset : Page.offset keys.length token = .ok start) :
    startOf store (.listObjects bucket token) = some start := by
  rw [startOf, hkeys]
  exact congrArg Except.toOption hoffset

/-- A page that the store gives has the token of the page one size behind it, and only when
keys are left for that. -/
theorem offset_of_next {answer next : Document} {page : Page} (hsize : w.limits.pageSize = size)
    (hscript : w.script .listObjects = [])
    (hcall : Client.invoke (.listObjects bucket token) w = (.ok answer, v))
    (hread : Page.ofReply answer = .ok page) (hnext : page.next = some next) :
    ∃ (keys : List String) (start : Int), w.store.keys bucket = .ok keys ∧
      startOf w.store (.listObjects bucket token) = some start ∧
      startOf w.store (.listObjects bucket (some next)) = some (start + size) ∧
      start + size < keys.length := by
  rcases invoke_eq_ok hcall with
    hless | ⟨-, -, -, -, keys, start, hkeys, hoffset, hreply⟩
  · rw [hscript] at hless
    exact absurd hless (Nat.not_lt_zero _)
  · rw [hsize] at hreply
    rw [Page.ofReply_of_reply hreply] at hread
    cases hread
    obtain ⟨hmore, rfl⟩ : start + size < keys.length ∧ Page.tokenFor (start + size) = next := by
      simpa [Page.nextToken] using hnext
    have hshort := Page.isLongOffset_of_reply hreply hmore
    exact ⟨keys, start, hkeys, startOf_of_ok hkeys hoffset,
      startOf_of_ok hkeys (Page.offset_tokenFor hshort), hmore⟩

/-- **A listing goes forward** as soon as no answers are left that were laid down for it. -/
theorem Rounds.advances {made : List Exchange} {outcome : Outcome (List String)}
    (h : Rounds bucket token w made outcome v) (hsize : w.limits.pageSize = size)
    {before later : List Exchange} {e : Exchange} (hmade : made = before ++ e :: later)
    (hscript : (w.script .listObjects).length ≤ before.length) :
    later = [] ∨ Advances w.store bucket size e later := by
  induction h generalizing before e later with
  | failed | unread | last =>
    -- There is only one call, and nothing behind it.
    cases before with
    | nil => exact .inl (List.cons.inj hmade).2.symm
    | cons first before => exact absurd (List.cons.inj hmade).2.symm (by simp)
  | @more token w v u answer next page made outcome hcall hread hnext hrest ih =>
    have hworld := world_of_invoke hcall
    have hstore : v.store = w.store := by
      rw [hworld]
      rfl
    have hleft : v.limits.pageSize = size := hworld ▸ hsize
    rw [hstore, length_script_of_invoke hcall] at ih
    cases before with
    | cons first before =>
      exact ih hleft (List.cons.inj hmade).2 (Nat.sub_le_of_le_add hscript)
    | nil =>
      obtain ⟨rfl, rfl⟩ := List.cons.inj hmade
      have hnil : w.script .listObjects = [] := List.length_eq_zero_iff.1 (Nat.le_zero.1 hscript)
      obtain ⟨keys, start, hkeys, hstart, hbehind, hmore⟩ :=
        offset_of_next hsize hnil hcall hread hnext
      obtain ⟨ending, rest, rfl⟩ := hrest.exists_first
      refine .inr ⟨keys, start, _, rest, rfl, hkeys, rfl, hstart, hbehind, ?_⟩
      -- The calls behind the next one start from it, and so they tell where the last one is.
      rcases @ih hleft [] rest _ rfl (by simp [hnil]) with
        rfl | ⟨all, from', -, -, -, hall, -, hfrom, -, hend⟩
      · simpa using hmore
      · rw [hkeys] at hall
        cases hall
        rw [hbehind] at hfrom
        cases hfrom
        rw [List.length_cons, Int.natCast_add, Int.mul_add]
        omega

end Listing

namespace Emptying

/-- **Every listing ends, and so does the emptying of every bucket.**  Its calls are those of
the loop that asks for one page after the other, and behind them deletions.  Where no answers
are left that were laid down, a call is the last one, as it is when it fails, or the next one
reads from one page behind it, and all calls read from before the last key. -/
theorem emptyBucket_listing_ends (source : Source) (name : String) (w : World) {size : Nat}
    (hsize : w.limits.pageSize = size) (hpos : 1 ≤ size) :
    ∃ (made deleted : List Exchange) (listed : Outcome (List String)) (v : World) (t : Trace),
      Listing.Rounds name none w made listed v ∧
      (emptyBucket source name w).2.trace = w.trace.append t ∧
      t.exchanges = made ++ deleted ∧
      (∀ e ∈ made, ∃ token, e.call = .listObjects name token) ∧
      (∀ e ∈ deleted, Deletes name e) ∧
      ∀ before e later, made = before ++ e :: later →
        (w.script .listObjects).length ≤ before.length →
        later = [] ∨ Listing.Advances w.store name size e later := by
  have hnonzero : w.limits.pageSize ≠ 0 := by omega
  obtain ⟨made, hrounds⟩ := Listing.exists_rounds name none hnonzero
  obtain ⟨t, deleted, ht, hmade, hdeleted⟩ := emptyBucket_of_rounds source hnonzero hrounds
  exact ⟨made, deleted, _, _, t, hrounds, ht, hmade, fun e he => hrounds.call_eq he, hdeleted,
    fun before e later hsplit hscript => hrounds.advances hsize hsplit hscript⟩

/-- A bucket with three objects on pages of one, and an answer laid down in advance whose
token counts from the end. -/
def misled : World where
  store := Store.seed Catalog.empty "deep" ["k0", "k1", "k2"] ⟨[0x78], "text/plain"⟩
  limits := ⟨1, 2⟩
  script := Script.empty.append .listObjects [.reply (Page.answer [] (some (.text "-2")))]

/-- Behind the answer that was laid down the pages start at two and one before the end, and
then at the beginning; two keys are listed twice, and the listing ends all the same. -/
theorem emptyBucket_listing_ends_misled :
    ∃ (made deleted : List Exchange) (t : Trace),
      t.exchanges = made ++ deleted ∧
      t.calls = [.listObjects "deep" none, .listObjects "deep" (some (.text "-2")),
        .listObjects "deep" (some (.text "-1")), .listObjects "deep" (some (.text "0")),
        .listObjects "deep" (some (.text "1")), .listObjects "deep" (some (.text "2")),
        .deleteObjects "deep" ["k1", "k0"], .deleteObjects "deep" ["k1", "k2"]] ∧
      (∀ e ∈ deleted, Deletes "deep" e) ∧
      ∀ before e later, made = before ++ e :: later → 1 ≤ before.length →
        later = [] ∨ Listing.Advances misled.store "deep" 1 e later := by
  have hone : misled.limits.pageSize = (1 : Nat) := rfl
  obtain ⟨made, deleted, listed, v, t, -, ht, hmade, -, hdeleted, hforward⟩ :=
    emptyBucket_listing_ends .provision "deep" misled hone (Nat.le_refl 1)
  have hcalls : t.calls = (emptyBucket .provision "deep" misled).2.trace.calls := by
    rw [ht, Trace.calls_append]
    rfl
  refine ⟨made, deleted, t, hmade, ?_, hdeleted, hforward⟩
  rw [hcalls]
  cbv

end Emptying

end ZonalBucket
