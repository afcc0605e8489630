import ZonalBucket.Client

/-!
# Listing a bucket

The keys of a bucket are fetched page by page, each page with the token of the one
before, until a page has none.  This always ends, whatever the store answers: an
answer laid down in advance is used up, and once there are none left every page
starts later than the one before and not behind the last key, `getsOn_of_next`.
Pages of fewer keys than none start earlier and earlier, until a token gets too long.

Only pages of no keys at all could be asked for again and again.  A listing that does
not get on any more ends with the keys that it has.
-/

namespace ZonalBucket.Listing

/-- Fetches one page. -/
def fetchPage (bucket : String) (token : Option Document) : Action Page := do
  let answer ← Client.invoke (.listObjects bucket token)
  Action.ofOutcome (Failure.ofMalformed (Page.ofReply answer))

/-- How far a listing can still go from the page on that a token asks for.  Pages of some
keys can go up to the last key, and pages of fewer than none can go down to the lowest
offset that has a token. -/
def remaining (size : Int) (store : Store) (bucket : String) (token : Option Document) : Nat :=
  match store.keys bucket with
  | .ok keys => match Page.offset keys.length token with
    | .ok offset =>
      if 0 < size then (keys.length - offset).toNat
      else (offset + Decimal.tenTo (Page.mostDigits keys.length)).toNat
    | .error _ => 0
  | .error _ => 0

/-- What gets smaller from page to page: the answers laid down, then the way left. -/
def measure (w : World) (bucket : String) (token : Option Document) : Nat × Nat :=
  ((w.script .listObjects).length, remaining w.limits.pageSize w.store bucket token)

/-- What a page comes from: an answer laid down in advance, or else the keys that the
bucket has. -/
theorem invoke_eq_ok {bucket : String} {token : Option Document} {answer : Document}
    {w v : World} (h : Client.invoke (.listObjects bucket token) w = (.ok answer, v)) :
    (v.script .listObjects).length < (w.script .listObjects).length ∨
      (w.script .listObjects = [] ∧ v.script .listObjects = [] ∧ v.store = w.store ∧
        v.limits = w.limits ∧
        ∃ keys offset, w.store.keys bucket = .ok keys ∧
          Page.offset keys.length token = .ok offset ∧
          Page.reply keys w.limits.pageSize offset = .ok answer) := by
  simp only [Client.invoke, Call.slot] at h
  cases hs : w.script .listObjects with
  | nil =>
    refine .inr ⟨rfl, ?_⟩
    simp only [World.nextAnswer, hs, List.headD_nil, Client.answered, Client.ask] at h
    split at h
    · rename_i found store hperform
      simp only [Prod.mk.injEq, Except.ok.injEq] at h
      obtain ⟨rfl, rfl⟩ := h
      obtain ⟨rfl, keys, offset, hkeys, hoffset, hreply⟩ :=
        Call.perform_listObjects_eq_ok hperform
      exact ⟨by simp [World.withStore, World.visit, World.noteCall, Script.drop, hs], rfl, rfl,
        keys, offset, hkeys, hoffset, hreply⟩
    · simp at h
  | cons next rest =>
    -- An answer that is laid down is used up, whether it lets the call pass or not.
    refine .inl ?_
    have hlt : ((w.script.drop .listObjects) .listObjects).length < (next :: rest).length := by
      simp [Script.drop, hs]
    simp only [World.nextAnswer, hs, List.headD_cons] at h
    cases next with
    | pass =>
      simp only [Client.answered, Client.ask] at h
      split at h
      · simp only [Prod.mk.injEq] at h
        rw [← h.2]
        exact hlt
      · simp at h
    | fail failure => simp [Client.answered, Action.fail] at h
    | reply given =>
      simp only [Client.answered, Action.value, Prod.mk.injEq] at h
      rw [← h.2]
      exact hlt

/-- One measure is smaller than another. -/
def smaller (a b : Nat × Nat) : Bool := a.1 < b.1 || (a.1 == b.1 && a.2 < b.2)

/-- Whether a listing that has come from one page to the next has less left to do. -/
def getsOn (bucket : String) (token next : Option Document) (w v : World) : Bool :=
  smaller (measure v bucket next) (measure w bucket token)

/-- The comparison that a listing computes decides the order along which it ends. -/
theorem lex_of_smaller {a b : Nat × Nat} (h : smaller a b = true) :
    Prod.Lex (· < ·) (· < ·) a b := by
  obtain ⟨a₁, a₂⟩ := a
  obtain ⟨b₁, b₂⟩ := b
  simp only [smaller, Bool.or_eq_true, decide_eq_true_eq, Bool.and_eq_true, beq_iff_eq] at h
  rcases h with h | ⟨rfl, h⟩
  · exact .left _ _ h
  · exact .right _ h

/-- A page of some keys, or of fewer than none, leaves less to do when it has a token. -/
theorem remaining_lt {size : Int} {store : Store} {bucket : String} {token : Option Document}
    {keys : List String} {offset : Int} {found : Document} (hsize : size ≠ 0)
    (hkeys : store.keys bucket = .ok keys)
    (hoffset : Page.offset keys.length token = .ok offset)
    (hreply : Page.reply keys size offset = .ok found) (hmore : offset + size < keys.length) :
    remaining size store bucket (some (Page.tokenFor (offset + size))) <
      remaining size store bucket token := by
  have hlong := Page.isLongOffset_of_reply hreply hmore
  have hbound := Page.natAbs_lt_of_isLongOffset hlong
  simp only [remaining, hkeys, hoffset, Page.offset_tokenFor hlong]
  by_cases hpos : 0 < size
  · simp only [if_pos hpos]
    omega
  · simp only [if_neg hpos]
    omega

/-- A page with a token is followed by a smaller rest, unless pages have no keys. -/
theorem getsOn_of_next {bucket : String} {token next : Option Document} {page : Page}
    {w v : World} (hsize : w.limits.pageSize ≠ 0)
    (h : fetchPage bucket token w = (.ok page, v)) (hnext : page.next = next)
    (hsome : next ≠ none) : getsOn bucket token next w v = true := by
  simp only [fetchPage, Action.bind_apply, Action.andThen] at h
  split at h
  · rename_i answer u hinvoke
    simp only [Action.ofOutcome, Prod.mk.injEq] at h
    obtain ⟨hpage, rfl⟩ := h
    rcases invoke_eq_ok hinvoke with
      hlt | ⟨hw, hu, hstore, hlimits, keys, offset, hkeys, hoffset, hreply⟩
    · simp [getsOn, smaller, measure, hlt]
    · rw [Page.ofReply_of_reply hreply] at hpage
      simp only [Failure.ofMalformed, Except.ok.injEq] at hpage
      subst hpage
      subst hnext
      by_cases hmore : offset + w.limits.pageSize < keys.length
      · have hlt := remaining_lt hsize hkeys hoffset hreply hmore
        simp [getsOn, smaller, measure, hw, hu, hstore, hlimits, Page.nextToken, hmore, hlt]
      · exact absurd (by simp [Page.nextToken, hmore]) hsome
  · simp at h

/-- The keys of a bucket from the page on that a token asks for. -/
def keysFrom (bucket : String) (token : Option Document) (w : World) :
    Outcome (List String) × World :=
  match fetchPage bucket token w with
  | (.error failure, v) => (.error failure, v)
  | (.ok page, v) => match page.next with
    | none => (.ok page.keys, v)
    | some next =>
      if _h : getsOn bucket token (some next) w v = true then
        match keysFrom bucket (some next) v with
        | (.error failure, u) => (.error failure, u)
        | (.ok keys, u) => (.ok (page.keys ++ keys), u)
      else (.ok page.keys, v)
termination_by measure w bucket token
decreasing_by
  exact lex_of_smaller _h

/-- The keys of a bucket. -/
def keys (bucket : String) : Action (List String) := keysFrom bucket none

/-- What follows a page: nothing, or the keys from its token on. -/
def keysAfter (bucket : String) (page : Page) : Action (List String) :=
  match page.next with
  | none => pure page.keys
  | some next => do
    let keys ← (keysFrom bucket (some next) : Action (List String))
    pure (page.keys ++ keys)

/-- One step of a listing, unless pages have no keys. -/
theorem keysFrom_eq {bucket : String} {token : Option Document} {w : World}
    (hsize : w.limits.pageSize ≠ 0) :
    keysFrom bucket token w = (fetchPage bucket token).andThen (keysAfter bucket) w := by
  rw [keysFrom, Action.andThen]
  split
  · rename_i failure v h
    simp [h]
  · rename_i page v h
    simp only [h, keysAfter]
    split
    · rename_i hnext
      simp [hnext, Action.pure_apply]
    · rename_i next hnext
      rw [dif_pos (getsOn_of_next hsize h hnext (by simp))]
      simp only [hnext]
      change _ = Action.andThen (keysFrom bucket (some next)) _ v
      simp only [Action.andThen]
      cases keysFrom bucket (some next) v with
      | mk outcome u => cases outcome <;> rfl

end ZonalBucket.Listing
