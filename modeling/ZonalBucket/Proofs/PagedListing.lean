import ZonalBucket.Chunks
import ZonalBucket.Proofs.ListingRounds

/-!
# Listing page by page

When calls for pages pass, the pages of a bucket fit together.  The page that starts at an
offset has the keys from there on, as many as fit on a page, and a token for the next
offset exactly when keys are left, `invoke_of_offset`.  So all keys from an offset on are
found, whatever the size of a page is, and the pages start at that offset and one size
after the other behind it, `rounds_offset` and `keysFrom_offset`.
-/

namespace ZonalBucket

/-- The part of a row between two offsets that are not below zero. -/
theorem slice_of_nat {α : Type} (xs : List α) (start size : Nat) :
    slice xs start ((start : Int) + size) = (xs.drop start).take size := by
  have hstop : place xs.length ((start : Int) + size) = min (start + size) xs.length := by
    rw [place, if_neg (by omega)]
    congr 1
  have hstart : place xs.length (start : Int) = min start xs.length := by
    rw [place, if_neg (by omega), Int.toNat_natCast]
  rw [slice, hstop, hstart, List.drop_take]
  by_cases hlt : start ≤ xs.length
  · rw [Nat.min_eq_left hlt]
    have hlength : (xs.drop start).length = xs.length - start := List.length_drop
    rw [List.take_eq_take_iff]
    omega
  · have hnil : xs.drop start = [] := List.drop_eq_nil_of_le (by omega)
    have hzero : min (start + size) xs.length - min start xs.length = 0 := by omega
    rw [hnil, hzero, List.take_zero, List.take_nil]

namespace Page

/-- The token with which the page at an offset is asked for; the first page has none. -/
def tokenAt (start : Nat) : Option Document :=
  if start = 0 then none else some (tokenFor start)

/-- The token that stands for an offset is read as this offset, as long as it lies
within the row of keys.  The first page has none. -/
theorem offset_tokenAt {count start : Nat} (h : start ≤ count) :
    offset count (tokenAt start) = .ok start := by
  rw [tokenAt]
  split
  · rename_i hzero
    rw [hzero]
    rfl
  · exact offset_tokenFor (isLongOffset_eq_false h)

/-- The token for the next page, when pages have some keys. -/
theorem nextToken_of_nat (keys : List String) {size : Nat} (hs : 0 < size) (start : Nat) :
    nextToken keys size start =
      if start + size < keys.length then tokenAt (start + size) else none := by
  rw [nextToken, tokenAt, if_neg (by omega : ¬start + size = 0), ← Int.natCast_add]
  by_cases hmore : start + size < keys.length
  · rw [if_pos hmore, if_pos (by omega)]
  · rw [if_neg hmore, if_neg (by omega)]

/-- The store has an answer for every offset into the keys. -/
theorem reply_of_nat (keys : List String) {size : Nat} (hs : 0 < size) (start : Nat) :
    ∃ found, reply keys size start = .ok found ∧
      ofReply found = .ok ⟨(keys.drop start).take size,
        if start + size < keys.length then tokenAt (start + size) else none⟩ := by
  have hshort : ¬((start : Int) + size < keys.length ∧
      isLongOffset keys.length ((start : Int) + size) = true) := by
    rintro ⟨hmore, hlong⟩
    have hfalse := isLongOffset_eq_false (show start + size ≤ keys.length by omega)
    rw [Int.natCast_add, hlong] at hfalse
    exact Bool.noConfusion hfalse
  have hreply : reply keys size start = .ok (answer
      (slice keys start ((start : Int) + size)) (nextToken keys size start)) := by
    rw [reply, if_neg hshort]
  refine ⟨_, hreply, ?_⟩
  rw [ofReply_of_reply hreply, slice_of_nat, nextToken_of_nat keys hs]

end Page

/-- How many pages a listing of so many keys takes; there is always one. -/
def pagesFor (size count : Nat) : Nat := max 1 (piecesFor size count)

/-- Keys that fit on one page take one, and so does a bucket without keys, since the
first page is always asked for. -/
theorem pagesFor_of_le {size count : Nat} (hs : 0 < size) (hle : count ≤ size) :
    pagesFor size count = 1 := by
  rcases Nat.eq_zero_or_pos count with rfl | hpos
  · rw [pagesFor, piecesFor_zero hs]
    rfl
  · rw [pagesFor, piecesFor_of_le hpos hle]
    rfl

/-- More keys take one page first, and then as many as the rest does. -/
theorem pagesFor_of_lt {size count : Nat} (hs : 0 < size) (hlt : size < count) :
    pagesFor size count = pagesFor size (count - size) + 1 := by
  have hrest : 1 ≤ piecesFor size (count - size) :=
    (Nat.le_div_iff_mul_le hs).2 (by omega)
  rw [pagesFor, pagesFor, piecesFor_of_lt hs hlt]
  omega

namespace Listing

/-- The calls that list a row of `count` keys from an offset on. -/
def callsFrom (bucket : String) (size start count : Nat) : List Call :=
  (List.range (pagesFor size (count - start))).map fun i =>
    .listObjects bucket (Page.tokenAt (start + i * size))

/-- The last call is for the page on which the keys end. -/
theorem callsFrom_of_le {bucket : String} {size start count : Nat} (hs : 0 < size)
    (hle : count ≤ start + size) :
    callsFrom bucket size start count = [.listObjects bucket (Page.tokenAt start)] := by
  rw [callsFrom, pagesFor_of_le hs (by omega)]
  simp

/-- The calls behind the first one are those from the next offset on. -/
theorem callsFrom_of_lt {bucket : String} {size start count : Nat} (hs : 0 < size)
    (hlt : start + size < count) :
    callsFrom bucket size start count =
      .listObjects bucket (Page.tokenAt start) :: callsFrom bucket size (start + size) count := by
  rw [callsFrom, pagesFor_of_lt hs (by omega), List.range_succ_eq_map, List.map_cons,
    List.map_map, callsFrom, Nat.sub_sub]
  congr 1
  · simp
  · refine List.map_congr_left fun i _ => ?_
    simp only [Function.comp_apply, Nat.succ_mul]
    congr 2
    omega

/-- A whole listing begins without a token, and each later call has the numeral of the
offset at which its page starts. -/
theorem callsFrom_zero (bucket : String) {size : Nat} (hs : 0 < size) (count : Nat) :
    callsFrom bucket size 0 count =
      (List.range (max 1 (piecesFor size count))).map fun i => .listObjects bucket
        (if i = 0 then none else some (.text (toString (i * size)))) := by
  refine List.map_congr_left fun i _ => ?_
  rcases Nat.eq_zero_or_pos i with rfl | hi
  · simp [Page.tokenAt]
  · have hpos : 0 < i * size := Nat.mul_pos hi hs
    rw [Nat.zero_add, Page.tokenAt, if_neg (by omega), if_neg (by omega)]
    rfl

section Plain

variable {w : World} {name : String} {bucket : Bucket} {size : Nat}

/-- The page that starts at an offset is answered when the offset is one inside of the
row of keys, or its end.  Its entries are the next keys, as many as a page takes. -/
theorem invoke_of_offset (hpass : w.nextAnswer .listObjects = .pass) (hs : 0 < size)
    (hsize : w.limits.pageSize = size) (hbucket : w.store.get? name = some bucket) {start : Nat}
    (hstart : start ≤ bucket.names.length) :
    ∃ answer v, Client.invoke (.listObjects name (Page.tokenAt start)) w = (.ok answer, v) ∧
      Page.ofReply answer = .ok ⟨(bucket.names.drop start).take size,
        if start + size < bucket.names.length then Page.tokenAt (start + size) else none⟩ := by
  obtain ⟨found, hreply, hread⟩ := Page.reply_of_nat bucket.names hs start
  have hperform : Call.perform w.limits.pageSize w.store
      (.listObjects name (Page.tokenAt start)) = .ok (found, w.store) := by
    simp [Call.perform, Store.keys_of_some hbucket, Page.offset_tokenAt hstart, hsize, hreply,
      Call.orRefused, Failure.ofMalformed, Except.bind, Except.map]
  exact ⟨found, _, Client.invoke_of_pass _ hpass hperform, hread⟩

/-- The world after the page at an offset was given. -/
def pageGiven (w : World) (name : String) (start : Nat) (answer : Document) : World :=
  (w.visit .listObjects).tell
    { exchanges := [⟨.listObjects name (Page.tokenAt start), .ok answer⟩] }

/-- When keys are left behind a page, the rounds go on from the next offset. -/
theorem rounds_of_more (hpass : w.nextAnswer .listObjects = .pass) (hs : 0 < size)
    (hsize : w.limits.pageSize = size) (hbucket : w.store.get? name = some bucket) {start : Nat}
    (hmore : start + size < bucket.names.length) :
    ∃ answer, ∀ made outcome u,
      Rounds name (Page.tokenAt (start + size)) (pageGiven w name start answer) made outcome u →
      Rounds name (Page.tokenAt start) w
        (⟨.listObjects name (Page.tokenAt start), .ok answer⟩ :: made)
        (outcome.map ((bucket.names.drop start).take size ++ ·)) u := by
  have hstart : start ≤ bucket.names.length := by omega
  obtain ⟨answer, v, hcall, hread⟩ := invoke_of_offset hpass hs hsize hbucket hstart
  have htoken : Page.tokenAt (start + size) = some (Page.tokenFor (start + size : Nat)) :=
    if_neg (by omega)
  rw [if_pos hmore, htoken] at hread
  refine ⟨answer, fun made outcome u hrest => ?_⟩
  rw [htoken, pageGiven, ← world_of_invoke hcall] at hrest
  exact .more hcall hread rfl hrest

/-- From an offset on there are rounds that list all keys, page by page. -/
theorem rounds_offset (hpass : w.Passes .listObjects) (hs : 0 < size)
    (hsize : w.limits.pageSize = size) (hbucket : w.store.get? name = some bucket)
    {start : Nat} (hstart : start ≤ bucket.names.length) :
    ∃ (made : List Exchange) (v : World),
      Rounds name (Page.tokenAt start) w made (.ok (bucket.names.drop start)) v ∧
      made.map (·.call) = callsFrom name size start bucket.names.length := by
  -- The induction is on the number of keys that are not listed yet.
  induction hrest : bucket.names.length - start using Nat.strongRecOn generalizing w start with
  | ind rest ih =>
    by_cases hmore : start + size < bucket.names.length
    · obtain ⟨answer, hgo⟩ := rounds_of_more hpass.nextAnswer hs hsize hbucket hmore
      have hleft : (pageGiven w name start answer).Passes .listObjects := by
        have hvisit := hpass.visits 1
        rw [World.visits_one] at hvisit
        exact hvisit
      obtain ⟨made, u, hrounds, hcalls⟩ :=
        ih (bucket.names.length - (start + size)) (by omega) hleft hsize hbucket (by omega) rfl
      have hall : (Except.ok (bucket.names.drop (start + size)) : Outcome (List String)).map
          ((bucket.names.drop start).take size ++ ·) = .ok (bucket.names.drop start) := by
        rw [Except.map, ← List.drop_drop, List.take_append_drop]
      refine ⟨_, u, hall ▸ hgo made _ u hrounds, ?_⟩
      rw [callsFrom_of_lt hs hmore, List.map_cons, hcalls]
    · obtain ⟨answer, v, hcall, hread⟩ :=
        invoke_of_offset hpass.nextAnswer hs hsize hbucket hstart
      have hall : (bucket.names.drop start).take size = bucket.names.drop start :=
        List.take_of_length_le (by rw [List.length_drop]; omega)
      rw [if_neg hmore, hall] at hread
      refine ⟨_, v, .last hcall hread rfl, ?_⟩
      rw [callsFrom_of_le hs (by omega)]
      rfl

/-- When one of the calls fails, the rounds end with it, and those before it are made as if
nothing was to happen. -/
theorem rounds_offset_failed {failure : Failure} {count : Nat} {later : List Answer}
    (hscript : w.script .listObjects = List.replicate count .pass ++ .fail failure :: later)
    (hs : 0 < size) (hsize : w.limits.pageSize = size)
    (hbucket : w.store.get? name = some bucket) {start : Nat}
    (hcount : count < pagesFor size (bucket.names.length - start)) :
    ∃ (made : List Exchange) (v : World),
      Rounds name (Page.tokenAt start) w made (.error failure) v ∧
      made.map (·.call) = (callsFrom name size start bucket.names.length).take (count + 1) := by
  induction count generalizing w start with
  | zero =>
    have hnext : w.nextAnswer .listObjects = .fail failure :=
      World.nextAnswer_of_cons hscript
    refine ⟨_, _, .failed (Client.invoke_of_fail (.listObjects name _) hnext), ?_⟩
    by_cases hmore : start + size < bucket.names.length
    · rw [callsFrom_of_lt hs hmore]
      rfl
    · rw [callsFrom_of_le hs (by omega)]
      rfl
  | succ count ih =>
    have hnext : w.nextAnswer .listObjects = .pass :=
      World.nextAnswer_of_cons hscript
    have hmore : start + size < bucket.names.length := by
      refine Nat.lt_of_not_le fun hle => ?_
      rw [pagesFor_of_le hs (by omega)] at hcount
      omega
    rw [pagesFor_of_lt hs (by omega), Nat.sub_sub] at hcount
    obtain ⟨answer, hgo⟩ := rounds_of_more hnext hs hsize hbucket hmore
    -- The page that was given uses up one answer, and the failure comes closer by one.
    have hleft : (pageGiven w name start answer).script .listObjects =
        List.replicate count .pass ++ .fail failure :: later :=
      World.visit_script_of_cons hscript
    obtain ⟨made, u, hrounds, hcalls⟩ := ih hleft hsize hbucket (Nat.lt_of_succ_lt_succ hcount)
    refine ⟨_, u, hgo made _ u hrounds, ?_⟩
    rw [callsFrom_of_lt hs hmore, List.map_cons, hcalls]
    rfl

/-- From an offset on all keys are listed, page by page. -/
theorem keysFrom_offset (hpass : w.Passes .listObjects) (hs : 0 < size)
    (hsize : w.limits.pageSize = size) (hbucket : w.store.get? name = some bucket)
    {start : Nat} (hstart : start ≤ bucket.names.length) :
    ∃ made : List Exchange,
      keysFrom name (Page.tokenAt start) w = (.ok (bucket.names.drop start),
        (w.visits .listObjects made.length).tell { exchanges := made }) ∧
      made.map (·.call) = callsFrom name size start bucket.names.length := by
  obtain ⟨made, v, hrounds, hcalls⟩ := rounds_offset hpass hs hsize hbucket hstart
  refine ⟨made, ?_, hcalls⟩
  rw [← hrounds.world]
  exact hrounds.run (.inl (by omega))

end Plain

end Listing

end ZonalBucket
