import ZonalBucket.Proofs.Continuations

/-!
# Two runs side by side

An action agrees along a relation between worlds when from related worlds it ends in
the same way and in related worlds again, `Action.Agrees`.  When related worlds look the
same to operations and stay related by reports, `Action.Paired`, this passes from the parts
of an action to the whole, `Agrees.closed` and `Agrees.hereditary`; so it is enough to look
at single calls, `Agrees.invoke`, at listings, `Agrees.keys`, and at the points of client
blocks, `Agrees.pass`.

One such relation is `World.AlikeOn`: the worlds may differ in what was done so far
and in what is laid down for slots that the action never visits.
-/

namespace ZonalBucket

namespace Action

variable {α β : Type} {R : World → World → Prop}

/-- Two runs of the action in related worlds end alike, and in related worlds. -/
def Agrees (R : World → World → Prop) (action : Action α) : Prop :=
  ∀ w v, R w v → (action w).1 = (action v).1 ∧ R (action w).2 (action v).2

/-- Related worlds look the same to operations, and reports do not matter. -/
structure Paired (R : World → World → Prop) : Prop where
  files : ∀ {w v}, R w v → w.files = v.files
  limits : ∀ {w v}, R w v → w.limits = v.limits
  clock : ∀ {w v}, R w v → w.clock = v.clock
  record : ∀ {w v}, R w v → ∀ record, R (w.noteRecord record) (v.noteRecord record)

namespace Agrees

/-- An action that changes nothing, and ends alike in related worlds. -/
theorem of_same {action : Action α} (hworld : ∀ w, (action w).2 = w)
    (hend : ∀ w v, R w v → (action w).1 = (action v).1) : action.Agrees R := by
  intro w v h
  refine ⟨hend w v h, ?_⟩
  rw [hworld, hworld]
  exact h

/-- What is known beforehand is the same in both worlds. -/
theorem ofOutcome (outcome : Outcome α) : (ofOutcome outcome).Agrees R :=
  .of_same (fun _ => rfl) fun _ _ _ => rfl

/-- Both runs see the same when what is looked at does not differ. -/
theorem look {f : World → α} (hf : ∀ w v, R w v → f w = f v) : (look f).Agrees R :=
  .of_same (fun _ => rfl) fun w v h => congrArg Except.ok (hf w v h)

/-- Both runs go on with the same action, as they ended in the same way. -/
theorem followedBy {first : Action α} {rest : Outcome α → Action β} (h : first.Agrees R)
    (hrest : ∀ outcome, (rest outcome).Agrees R) : (first.followedBy rest).Agrees R := by
  intro w v hwv
  obtain ⟨hend, hworlds⟩ := h w v hwv
  have hgo := hrest (first w).1 _ _ hworlds
  rw [Action.followedBy, Action.followedBy, ← hend]
  exact hgo

/-- The second parts start from worlds that are still alike, and with the same value. -/
theorem bind {action : Action α} {next : α → Action β} (h : action.Agrees R)
    (hnext : ∀ a, (next a).Agrees R) : (action >>= next).Agrees R := by
  rw [bind_eq_followedBy]
  exact h.followedBy (fromValue_of ofOutcome hnext)

/-- To keep a refusal changes the ending only, and it changes it alike. -/
theorem attempt {action : Action α} (h : action.Agrees R) : action.attempt.Agrees R := by
  rw [attempt_eq_followedBy]
  exact h.followedBy fun _ => ofOutcome _

/-- **Agreement passes from the parts of an operation to the whole.**  The relation
between the worlds has to show the same files, limits and clock, and not to mind a
report that is made in both. -/
theorem closed (hR : Paired R) : Closed fun action => action.Agrees R :=
  Closed.of_followedBy followedBy ofOutcome
    (fun _ hf => look fun w v h => hf w v (hR.files h) (hR.limits h) (hR.clock h))
    fun _ _ _ _ _ h => ⟨rfl, hR.record h _⟩

/-- **Agreement passes to programs and requests,** if related worlds have the same
environment.  It is looked at when a configuration is loaded. -/
theorem hereditary (hR : Paired R) (henvironment : ∀ {w v}, R w v → w.environment = v.environment) :
    Hereditary fun action => action.Agrees R :=
  Hereditary.of_followedBy (closed hR) followedBy
    (fun _ hf => look fun w v h => hf w v (henvironment h))
    fun _ _ _ _ h => ⟨rfl, hR.record h _⟩

section Calls

variable {slot : Slot} (hscript : ∀ {w v}, R w v → w.script slot = v.script slot)
  (hvisit : ∀ {w v}, R w v → R (w.visit slot) (v.visit slot))

include hscript hvisit

/-- A slot that is no call is passed alike.  Visits of the client, to be requested,
entered and left, are of this kind. -/
theorem pass : (Client.pass slot).Agrees R := by
  intro w v h
  have hanswer : w.nextAnswer slot = v.nextAnswer slot := by
    rw [World.nextAnswer, World.nextAnswer, hscript h]
  rw [Client.pass, Client.pass, hanswer]
  cases v.nextAnswer slot with
  | fail failure => exact ⟨rfl, hvisit h⟩
  | pass => exact ⟨rfl, hvisit h⟩
  | reply answer => exact ⟨rfl, hvisit h⟩

/-- A call is answered alike when the store answers alike. -/
theorem invoke {call : Call} (hslot : call.slot = slot) (hask : (Client.ask call).Agrees R)
    (hnote : ∀ {w v}, R w v → ∀ outcome, R (w.noteCall call outcome) (v.noteCall call outcome)) :
    (Client.invoke call).Agrees R := by
  subst hslot
  intro w v h
  have hanswer : w.nextAnswer call.slot = v.nextAnswer call.slot := by
    rw [World.nextAnswer, World.nextAnswer, hscript h]
  have hanswered : (Client.answered call (w.nextAnswer call.slot)).Agrees R := by
    cases w.nextAnswer call.slot with
    | pass => exact hask
    | fail failure => exact ofOutcome (.error failure)
    | reply answer => exact ofOutcome (.ok answer)
  obtain ⟨hend, hworlds⟩ := hanswered _ _ (hvisit h)
  rw [hanswer] at hend hworlds
  simp only [Client.invoke, hanswer]
  exact ⟨hend, hend ▸ hnote hworlds _⟩

end Calls

/-- A run in one world leads to one in the related world. -/
theorem run {action : Action α} (h : action.Agrees R) {w v w' : World} (hwv : R w v)
    {outcome : Outcome α} (hrun : action w = (outcome, w')) :
    ∃ v', action v = (outcome, v') ∧ R w' v' := by
  obtain ⟨hend, hworlds⟩ := h w v hwv
  rw [hrun] at hend hworlds
  exact ⟨(action v).2, Prod.ext hend.symm rfl, hworlds⟩

/-- Both runs of a listing fetch the same pages, and stop at the same one. -/
theorem keysFrom {bucket : String}
    (hcall : ∀ token, (Client.invoke (.listObjects bucket token)).Agrees R)
    (hmeasure : ∀ {w v}, R w v → ∀ token,
      Listing.measure w bucket token = Listing.measure v bucket token)
    (token : Option Document) : Agrees R (Listing.keysFrom bucket token) := by
  have hpage : ∀ token, (Listing.fetchPage bucket token).Agrees R := fun token =>
    (hcall token).bind fun _ => ofOutcome _
  have hgets : ∀ {w v w' v'}, R w v → R w' v' → ∀ token next,
      Listing.getsOn bucket token next w w' = Listing.getsOn bucket token next v v' := by
    intro w v w' v' h h' token next
    rw [Listing.getsOn, Listing.getsOn, hmeasure h, hmeasure h']
  intro w v h
  -- One page, and the pages behind it by induction along the listing in the first world.
  fun_induction Listing.keysFrom bucket token w generalizing v with
  | case1 token w failure w' hfetch =>
    obtain ⟨v', hfetch', h'⟩ := (hpage token).run h hfetch
    rw [Listing.keysFrom, hfetch']
    exact ⟨rfl, h'⟩
  | case2 token w page w' hfetch hnext =>
    obtain ⟨v', hfetch', h'⟩ := (hpage token).run h hfetch
    rw [Listing.keysFrom, hfetch']
    simp only [hnext]
    exact ⟨trivial, h'⟩
  | case3 token w page w' hfetch next hnext hless failure u hrest ih =>
    obtain ⟨v', hfetch', h'⟩ := (hpage token).run h hfetch
    obtain ⟨hend, hworlds⟩ := ih v' h'
    rcases hrest' : Listing.keysFrom bucket (some next) v' with ⟨ending, u'⟩
    rw [hrest, hrest'] at hend hworlds
    obtain rfl : .error failure = ending := hend
    rw [hgets h h'] at hless
    rw [Listing.keysFrom, hfetch']
    simp only [hnext, hless, dif_pos, hrest']
    exact ⟨trivial, hworlds⟩
  | case4 token w page w' hfetch next hnext hless keys u hrest ih =>
    obtain ⟨v', hfetch', h'⟩ := (hpage token).run h hfetch
    obtain ⟨hend, hworlds⟩ := ih v' h'
    rcases hrest' : Listing.keysFrom bucket (some next) v' with ⟨ending, u'⟩
    rw [hrest, hrest'] at hend hworlds
    obtain rfl : .ok keys = ending := hend
    rw [hgets h h'] at hless
    rw [Listing.keysFrom, hfetch']
    simp only [hnext, hless, dif_pos, hrest']
    exact ⟨trivial, hworlds⟩
  | case5 token w page w' hfetch next hnext hless =>
    obtain ⟨v', hfetch', h'⟩ := (hpage token).run h hfetch
    rw [hgets h h'] at hless
    rw [Listing.keysFrom, hfetch']
    simp only [hnext, hless]
    exact ⟨rfl, h'⟩

end Agrees

end Action

/-- Worlds that differ only in what was done, and in what is laid down for the slots that
are not visited. -/
structure World.AlikeOn (visited : List Slot) (w v : World) : Prop where
  store : w.store = v.store
  limits : w.limits = v.limits
  files : w.files = v.files
  clock : w.clock = v.clock
  script : ∀ slot ∈ visited, w.script slot = v.script slot

namespace World.AlikeOn

open ZonalBucket.Action (Agrees Paired)

variable {visited : List Slot} {w v : World}

/-- Worlds that are alike on some slots have the same files, limits and clock, and
stay alike behind the same report. -/
theorem paired : Paired (AlikeOn visited) where
  files h := h.files
  limits h := h.limits
  clock h := h.clock
  record h _ := ⟨h.store, h.limits, h.files, h.clock, h.script⟩

/-- A visit to a slot uses up the same answer in both. -/
theorem visit (h : AlikeOn visited w v) (slot : Slot) :
    AlikeOn visited (w.visit slot) (v.visit slot) := by
  refine ⟨h.store, h.limits, h.files, h.clock, fun other hother => ?_⟩
  simp only [World.visit, Script.drop, h.script other hother]

/-- They also stay alike when both get the same store. -/
theorem withStore (h : AlikeOn visited w v) (store : Store) :
    AlikeOn visited (w.withStore store) (v.withStore store) :=
  ⟨rfl, h.limits, h.files, h.clock, h.script⟩

/-- A call whose slot is among the visited ones is answered alike. -/
theorem invoke {call : Call} (hslot : call.slot ∈ visited) :
    (Client.invoke call).Agrees (AlikeOn visited) := by
  have hask : (Client.ask call).Agrees (AlikeOn visited) := by
    intro w v h
    simp only [Client.ask, h.store, h.limits]
    split
    · exact ⟨rfl, h.withStore _⟩
    · exact ⟨rfl, h⟩
  refine Agrees.invoke (fun h => h.script _ hslot) (fun h => h.visit _) rfl hask fun h _ => ?_
  exact ⟨h.store, h.limits, h.files, h.clock, h.script⟩

end World.AlikeOn

end ZonalBucket
