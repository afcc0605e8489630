import ZonalBucket.Proofs.Continuations

/-!
# What holds between the ends of a run

An action runs along a relation when the relation holds between the world that any run
starts in and the world that it leaves, `Action.Along`.  What comes behind a run may follow
a relation of its own, `Action.Leads`.

When the relation passes from run to run and reports do not matter to it, `Action.Lasting`,
this is a property that passes from the parts of an action to the whole, `Along.hereditary`;
so it is enough to look at single calls and at the points of client blocks.
-/

namespace ZonalBucket

namespace Action

variable {α β : Type} {R : World → World → Prop}

/-- Wherever a run starts, the relation holds between this world and the one it leaves. -/
def Along (R : World → World → Prop) (action : Action α) : Prop := ∀ w, R w (action w).2

/-- A relation that passes from run to run, and to which reports do not matter. -/
structure Lasting (R : World → World → Prop) : Prop where
  refl : ∀ w, R w w
  trans : ∀ {w v u}, R w v → R v u → R w u
  record : ∀ w record, R w (w.noteRecord record)

/-- Wherever a run of the whole starts, the relation holds between the world that a run of
the first action leaves there and the one that the whole leaves. -/
def Leads (R : World → World → Prop) (first : Action α) (whole : Action β) : Prop :=
  ∀ w, R (first w).2 (whole w).2

namespace Leads

variable {first : Action α}

/-- What follows runs along the relation from the world that the first action left. -/
theorem followedBy {rest : Outcome α → Action β} (hrest : ∀ outcome, (rest outcome).Along R) :
    Leads R first (first.followedBy rest) :=
  fun w => hrest (first w).1 (first w).2

/-- Nothing follows a failure, so that the relation must hold between a world and
itself. -/
theorem bind (hR : Lasting R) {next : α → Action β} (hnext : ∀ a, (next a).Along R) :
    Leads R first (first >>= next) := by
  rw [bind_eq_followedBy]
  exact followedBy (fromValue_of (fun _ => hR.refl) hnext)

/-- What a handler does comes behind what it handles. -/
theorem onRefusal (hR : Lasting R) {handler : ServiceFault → Action α}
    (hhandler : ∀ fault, (handler fault).Along R) : Leads R first (first.onRefusal handler) := by
  rw [onRefusal_eq_followedBy]
  exact followedBy (fromRefusal_of (fun _ => hR.refl) hhandler)

theorem onTransport (hR : Lasting R) {handler : TransportFault → Action α}
    (hhandler : ∀ fault, (handler fault).Along R) :
    Leads R first (first.onTransport handler) := by
  rw [onTransport_eq_followedBy]
  exact followedBy (fromUnreached_of (fun _ => hR.refl) hhandler)

end Leads

namespace Along

/-- An outcome that is known leaves the world as it is. -/
theorem ofOutcome (hR : Lasting R) (outcome : Outcome α) : (ofOutcome outcome).Along R := hR.refl

/-- A look at the world leaves it as it is, too. -/
theorem look (hR : Lasting R) (f : World → α) : (look f).Along R := hR.refl

theorem report (hR : Lasting R) (level : Level) (source : Source) (message : String) :
    (report level source message).Along R := fun w => hR.record w _

/-- A run along one relation, and behind it a run along another one. -/
theorem follow {S : World → World → Prop} {action : Action α} {whole : Action β}
    (h : action.Along R) (hbehind : Leads S action whole)
    (htrans : ∀ {w v u}, R w v → S v u → R w u) : whole.Along R :=
  fun w => htrans (h w) (hbehind w)

/-- Both parts run along the relation, and it passes from the first to the second. -/
theorem followedBy (hR : Lasting R) {first : Action α} {rest : Outcome α → Action β}
    (h : first.Along R) (hrest : ∀ outcome, (rest outcome).Along R) :
    (first.followedBy rest).Along R :=
  h.follow (.followedBy hrest) hR.trans

/-- **To run along a lasting relation passes from the parts of an action to the
whole.**  It has to hold between a world and itself, to pass from run to run, and not
to mind a report. -/
theorem hereditary (hR : Lasting R) : Hereditary fun action => action.Along R := by
  have hclosed : Closed fun action => action.Along R :=
    Closed.of_followedBy (followedBy hR) (ofOutcome hR) (fun f _ => look hR f) (report hR)
  exact Hereditary.of_followedBy hclosed (followedBy hR) (fun f _ => look hR f)
    fun source message w => hR.record w _

/-- A call runs along a relation when the visit to its slot, the store's own work on it
and its note in the trace do. -/
theorem invoke (hR : Lasting R) {call : Call} (hvisit : ∀ w, R w (w.visit call.slot))
    (hask : (Client.ask call).Along R) (hnote : ∀ w outcome, R w (w.noteCall call outcome)) :
    (Client.invoke call).Along R := by
  intro w
  have hanswered : R (w.visit call.slot)
      (Client.answered call (w.nextAnswer call.slot) (w.visit call.slot)).2 := by
    cases w.nextAnswer call.slot with
    | pass => exact hask _
    | fail failure => exact hR.refl _
    | reply answer => exact hR.refl _
  exact hR.trans (hvisit w) (hR.trans hanswered (hnote _ _))

/-- A client block runs along a relation when visits to its slots do, and what it notes
down. -/
theorem blocksOf (hR : Lasting R) (hvisit : ∀ w slot, R w (w.visit slot))
    (hrequest : ∀ w request, R w (w.noteRequest request)) (hentry : ∀ w, R w w.noteEntry)
    (hexit : ∀ w, R w w.noteExit) (config : Config) :
    BlocksOf (fun action => action.Along R) config := by
  have hpass : ∀ slot, (Client.pass slot).Along R := by
    intro slot w
    rw [Client.pass]
    split
    · exact hvisit w slot
    · exact hvisit w slot
  refine ⟨fun w => ?_, fun w => ?_, fun w => ?_⟩
  · exact hR.trans (hrequest w _) (hpass .client _)
  · exact hR.trans (hentry w) (hpass .enter _)
  · exact hR.trans (hexit w) (hpass .exit _)

/-- However many pages a listing has, it runs along a relation along which each call
for a page runs.  The induction follows the listing itself, page by page. -/
theorem keys (hR : Lasting R) {bucket : String}
    (hcall : ∀ token, (Client.invoke (.listObjects bucket token)).Along R) :
    Along R (Listing.keys bucket) := by
  have hpage : ∀ token, (Listing.fetchPage bucket token).Along R := fun token =>
    (hereditary hR).bind (hcall token) fun _ => ofOutcome hR _
  suffices hfrom : ∀ token w, R w (Listing.keysFrom bucket token w).2 from hfrom none
  intro token w
  -- One page, and the pages behind it by induction along the listing.
  fun_induction Listing.keysFrom bucket token w with
  | case1 token w failure v hfetch =>
    have hfirst := hpage token w
    rw [hfetch] at hfirst
    exact hfirst
  | case2 token w page v hfetch hnext =>
    have hfirst := hpage token w
    rw [hfetch] at hfirst
    exact hfirst
  | case3 token w page v hfetch next hnext hless failure u hrest ih =>
    have hfirst := hpage token w
    rw [hfetch] at hfirst
    rw [hrest] at ih
    exact hR.trans hfirst ih
  | case4 token w page v hfetch next hnext hless keys u hrest ih =>
    have hfirst := hpage token w
    rw [hfetch] at hfirst
    rw [hrest] at ih
    exact hR.trans hfirst ih
  | case5 token w page v hfetch next hnext hless =>
    have hfirst := hpage token w
    rw [hfetch] at hfirst
    exact hfirst

end Along

end Action

end ZonalBucket
