import ZonalBucket.Proofs.CompleteEmptying
import ZonalBucket.Proofs.InspectionOutcomes
import ZonalBucket.Service

/-!
# How the service reports failures

The service turns the failure that leaves its client block into an error of its own.
`Service.headObject_outcome` and `Service.deleteBucket_outcome` say what its operations
end in: a call that did not get through is reported by both, and a refusal by the
deletion alone.

A deletion reports both families, whatever point of the block the failure comes from,
`Service.deleteBucket_classified`.  A fetch makes a result of a refusal of its call; but
a refusal on requesting, entering or leaving the client passes by both handlers and
reaches the caller as it is, `Service.headObject_reports_iff`.
-/

namespace ZonalBucket

/-- A fault as a failure. -/
def Fault.failure : Fault → Failure
  | refused fault => .refused fault
  | unreached fault => .unreached fault

/-- No record of a trace comes with the failure that caused it. -/
def Trace.Plain (t : Trace) : Prop := ∀ record ∈ t.records, record.hasTrace = false

/-- Two pieces without records that carry a failure make a piece without them. -/
theorem Trace.Plain.append {s t : Trace} (hs : s.Plain) (ht : t.Plain) : (s.append t).Plain := by
  intro record hrecord
  rcases List.mem_append.1 hrecord with hrecord | hrecord
  · exact hs record hrecord
  · exact ht record hrecord

theorem Trace.plain_of_nil {t : Trace} (h : t.records = []) : t.Plain := by
  intro record hrecord
  rw [h] at hrecord
  cases hrecord

namespace Action

/-- A trace without failures is put together from such traces. -/
theorem Adds.plain_closed : Closed fun action => action.Adds fun _ t => t.Plain where
  ofOutcome _ := Adds.of_trace_eq (fun _ => rfl) fun _ => Trace.plain_of_nil rfl
  look _ _ := Adds.of_trace_eq (fun _ => rfl) fun _ => Trace.plain_of_nil rfl
  report _ _ _ := Adds.report fun record hrecord => by
    obtain rfl := List.mem_singleton.1 hrecord
    rfl
  bind h hnext := Adds.bind_append (fun _ _ hs ht => hs.append ht) h hnext
  passRefusal source what h := by
    refine Adds.passRefusal h fun outcome t ht => ht.append fun record hrecord => ?_
    cases outcome with
    | ok a => cases hrecord
    | error failure =>
      cases failure with
      | refused fault =>
        obtain rfl := List.mem_singleton.1 hrecord
        rfl
      | _ => cases hrecord

/-- A client block adds no record of its own, so that its records are plain when those
of its body are. -/
theorem Adds.plain_during {α : Type} {config : Config} {body : Action α}
    (h : body.Adds fun _ t => t.Plain) :
    (Client.during config body).Adds fun _ t => t.Plain := by
  have hopening : (Client.opening config).Plain := Trace.plain_of_nil rfl
  have hleft : ∀ t : Trace, t.Plain →
      ((Client.opening config).append (t.append { exited := 1 })).Plain := fun t ht =>
    hopening.append (ht.append (Trace.plain_of_nil rfl))
  exact Adds.during h (fun _ => Trace.plain_of_nil rfl) (fun _ => hopening)
    (fun _ t ht => hleft t ht) fun _ t _ ht => hleft t ht

end Action

namespace Service

variable {α : Type} {s : Service} {bucket key : String} {w : World}

/-- An ending in which a call that did not get through is reported. -/
def reportUnreached (operation : String) : Outcome α → Outcome α
  | .error (.unreached fault) => .error (.reported (.ofTransport fault operation))
  | ending => ending

/-- An ending in which a refusal is reported. -/
def reportRefused (operation : String) : Outcome α → Outcome α
  | .error (.refused fault) => .error (.reported (.ofRefusal fault operation))
  | ending => ending

/-- A call that did not get through never leaves the service as such. -/
theorem reportUnreached_ne_unreached (operation : String) (ending : Outcome α)
    (fault : TransportFault) : reportUnreached operation ending ≠ .error (.unreached fault) := by
  intro h
  cases ending with
  | ok a => cases h
  | error failure => cases failure <;> cases h

/-- Refusals are let be.  The handler for calls that did not get through neither makes
a refusal nor takes one. -/
theorem reportUnreached_eq_refused_iff {operation : String} {ending : Outcome α}
    {fault : ServiceFault} :
    reportUnreached operation ending = .error (.refused fault) ↔
      ending = .error (.refused fault) := by
  cases ending with
  | ok a => exact Iff.rfl
  | error failure =>
    cases failure with
    | unreached other => simp [reportUnreached]
    | _ => exact Iff.rfl

/-- A refusal never leaves the service as such. -/
theorem reportRefused_ne_refused (operation : String) (ending : Outcome α)
    (fault : ServiceFault) : reportRefused operation ending ≠ .error (.refused fault) := by
  intro h
  cases ending with
  | ok a => cases h
  | error failure => cases failure <;> cases h

/-- Calls that did not get through are let be, by the handler that stands outside of
the one for them. -/
theorem reportRefused_eq_unreached_iff {operation : String} {ending : Outcome α}
    {fault : TransportFault} :
    reportRefused operation ending = .error (.unreached fault) ↔
      ending = .error (.unreached fault) := by
  cases ending with
  | ok a => exact Iff.rfl
  | error failure =>
    cases failure with
    | refused other => simp [reportRefused]
    | _ => exact Iff.rfl

/-- The record of a call that did not get through. -/
def unreachedRecord (s : Service) (what : String) : Record where
  level := Level.error
  source := s.source
  message := what
  hasTrace := true

/-- A call that did not get through is reported in one record, together with the
failure, and passed on under the name of the operation. -/
theorem failUnreached_apply (s : Service) (what operation : String) (fault : TransportFault)
    (w : World) : (s.failUnreached what operation fault : Action α) w =
      (.error (.reported (.ofTransport fault operation)),
        w.tell { records := [s.unreachedRecord what] }) :=
  congrArg (Prod.mk _) (World.noteRecord_eq_tell w _)

/-- Calls that did not get through are reported, and everything else is let be. -/
theorem onTransport_cases (s : Service) (what operation : String) (action : Action α)
    (w : World) :
    (∃ fault, (action w).1 = .error (.unreached fault) ∧
        action.onTransport (s.failUnreached what operation) w =
          (reportUnreached operation (action w).1,
            (action w).2.tell { records := [s.unreachedRecord what] })) ∨
      ((∀ fault, (action w).1 ≠ .error (.unreached fault)) ∧
        action.onTransport (s.failUnreached what operation) w =
          (reportUnreached operation (action w).1, (action w).2)) := by
  cases hrun : action w with
  | mk ending v =>
    by_cases hfault : ∃ fault, ending = .error (.unreached fault)
    · obtain ⟨fault, rfl⟩ := hfault
      refine .inl ⟨fault, rfl, ?_⟩
      rw [Action.onTransport_of_unreached _ hrun]
      exact failUnreached_apply s what operation fault v
    · have hother : ∀ fault, ending ≠ .error (.unreached fault) := fun fault heq =>
        hfault ⟨fault, heq⟩
      refine .inr ⟨hother, ?_⟩
      rw [Action.onTransport_of_other _ hrun hother]
      cases ending with
      | ok a => rfl
      | error failure =>
        cases failure with
        | unreached fault => exact absurd rfl (hother fault)
        | _ => rfl

/-- Reporting refusals changes how a run ends, and nothing else. -/
theorem onRefusal_apply {action : Action α} (operation : String) (w : World) :
    action.onRefusal (fun fault => Action.fail (.reported (.ofRefusal fault operation))) w =
      (reportRefused operation (action w).1, (action w).2) := by
  cases hrun : action w with
  | mk ending v =>
    rcases Action.onRefusal_cases
      (fun fault => Action.fail (.reported (.ofRefusal fault operation))) hrun with
      ⟨fault, rfl, hend⟩ | ⟨hother, hend⟩
    · exact hend
    · rw [hend]
      cases ending with
      | ok a => rfl
      | error failure =>
        cases failure with
        | refused fault => exact absurd rfl (hother fault)
        | _ => rfl

section Fetch

/-- **What a fetch of the service ends in.**  A fault of the transport is told in the
words of the service; a refusal of the client itself is not, as the only handler is
for the other family. -/
theorem headObject_outcome (s : Service) (hbucket : bucket ≠ "") (hkey : key ≠ "") (w : World) :
    (s.headObject bucket key w).1 = reportUnreached headOperation
      (w.blockEnd (Inspection.fetched bucket key (w.outcomeOf (.headObject bucket key)))) := by
  rw [headObject, if_neg hbucket, if_neg hkey, ← Inspection.during_fetch s.config s.source]
  rcases s.onTransport_cases _ headOperation
    (Client.during s.config (Inspection.fetch s.source bucket key)) w with
    ⟨fault, -, hrun⟩ | ⟨-, hrun⟩
  · rw [hrun]
  · rw [hrun]

/-- **A fetch reports what leaves its client block exactly when that is a call that did
not get through.**  Then it ends in a result, or in an error of the service that names the
operation and the fault behind it.  A fault of that family never reaches the caller as it
is; a refusal does exactly when it comes from the client itself. -/
theorem headObject_reports_iff (s : Service) (hbucket : bucket ≠ "") (hkey : key ≠ "")
    (w : World) :
    let left := w.blockEnd (Inspection.fetched bucket key (w.outcomeOf (.headObject bucket key)))
    let ending := (s.headObject bucket key w).1
    (((∃ result, ending = .ok result) ∨
        ∃ error fault, ending = .error (.reported error) ∧ error.operation = some "HeadObject" ∧
          error.cause = some fault ∧ left = .error fault.failure) ↔
      ∀ failure, left = .error failure → ∃ fault, failure = .unreached fault) ∧
    (∀ fault, ending ≠ .error (.unreached fault)) ∧
    ∀ fault, ending = .error (.refused fault) ↔ w.clientFailure = some (.refused fault) := by
  intro left ending
  have hending : ending = reportUnreached headOperation left := s.headObject_outcome hbucket hkey w
  -- A fetch ends in no refusal, so that one that leaves the block comes from the client.
  have hclient : ∀ fault, left = .error (.refused fault) ↔
      w.clientFailure = some (.refused fault) := fun fault =>
    World.blockEnd_eq_refused_iff fun fault => Inspection.fetched_ne_refused bucket key _ fault
  refine ⟨⟨?_, ?_⟩, fun fault => ?_, fun fault => ?_⟩
  · rintro (⟨result, hok⟩ | ⟨error, fault, hreported, -, -, hleft⟩) failure hfailure
    · rw [hending, hfailure] at hok
      cases failure <;> cases hok
    · obtain rfl : fault.failure = failure := Except.error.inj (hleft.symm.trans hfailure)
      cases fault with
      | unreached fault => exact ⟨fault, rfl⟩
      | refused fault =>
        rw [hending, hleft] at hreported
        cases hreported
  · intro hunreached
    cases hleft : left with
    | ok result =>
      refine .inl ⟨result, ?_⟩
      rw [hending, hleft]
      rfl
    | error failure =>
      obtain ⟨fault, rfl⟩ := hunreached failure hleft
      refine .inr ⟨.ofTransport fault headOperation, .unreached fault, ?_, rfl, rfl, rfl⟩
      rw [hending, hleft]
      rfl
  · rw [hending]
    exact reportUnreached_ne_unreached headOperation left fault
  · rw [hending, reportUnreached_eq_refused_iff]
    exact hclient fault

/-- The call is refused, but what leaves the block is the failure to leave the client. -/
theorem headObject_reports_iff_exit :
    let fault : TransportFault := ⟨.connectionClosed, "Connection was closed"⟩
    let script : Script := fun slot =>
      if slot = .exit then [.fail (.unreached fault)]
      else if slot = .headObject then [.fail (.refused Store.noSuchObject)] else []
    let s : Service := { config := { region := "us-west-2", zone := "usw2-az1" } }
    ("b" ≠ "" ∧ "k" ≠ "") ∧
      ∃ error, (s.headObject "b" "k" { script := script }).1 = .error (.reported error) ∧
        error.operation = some "HeadObject" ∧ error.cause = some (.unreached fault) := by
  intro fault script s
  have hb : "b" ≠ "" := by decide
  have hk : "k" ≠ "" := by decide
  have hleft : ({ script := script } : World).blockEnd (Inspection.fetched "b" "k"
      (({ script := script } : World).outcomeOf (.headObject "b" "k"))) =
      .error (.unreached fault) := rfl
  refine ⟨⟨hb, hk⟩, ?_⟩
  obtain ⟨hiff, -, -⟩ := headObject_reports_iff s hb hk { script := script }
  have hunreached := hiff.2 fun failure hfailure =>
    ⟨fault, Except.error.inj (hfailure.symm.trans hleft)⟩
  rcases hunreached with ⟨result, hok⟩ | ⟨error, cause, hreported, hoperation, hcause, hsame⟩
  · rw [s.headObject_outcome hb hk, hleft] at hok
    cases hok
  · refine ⟨error, hreported, hoperation, ?_⟩
    have hfailure : cause.failure = .unreached fault := Except.error.inj (hsame.symm.trans hleft)
    cases cause <;> cases hfailure
    exact hcause

/-- A refusal on entering the client reaches the caller of a fetch as it is. -/
theorem headObject_lets_refusal_through :
    let fault : ServiceFault :=
      .plain "ExpiredToken" "The provided token has expired." "CreateSession"
    let script : Script := fun slot => if slot = .enter then [.fail (.refused fault)] else []
    let w : World := {
      store := Store.seed Catalog.empty "b" ["k"] ⟨[0x78], "text/plain"⟩, script := script }
    let s : Service := { config := { region := "us-west-2", zone := "usw2-az1" } }
    (s.headObject "b" "k" w).1 = .error (.refused fault) := by
  intro fault script w s
  have hleft : w.blockEnd (Inspection.fetched "b" "k" (w.outcomeOf (.headObject "b" "k"))) =
      .error (.refused fault) := rfl
  rw [s.headObject_outcome (by decide) (by decide), hleft]
  rfl

end Fetch

section Deletion

/-- **What a deletion of the service ends in.**  Here both families of faults are told
in the words of the service, one handler around the other. -/
theorem deleteBucket_outcome (s : Service) (hbucket : bucket ≠ "") (w : World) :
    (s.deleteBucket bucket w).1 = reportRefused deleteOperation (reportUnreached deleteOperation
      ((w.blockEnd (w.outcomeOf (.deleteBucket bucket))).map fun _ => ())) := by
  rw [deleteBucket, if_neg hbucket, onRefusal_apply, ← World.blockEnd_map,
    ← Inspection.during_deleteBucket s.config s.source]
  rcases s.onTransport_cases _ deleteOperation
    (Client.during s.config (Inspection.deleteBucket s.source bucket)) w with
    ⟨fault, -, hrun⟩ | ⟨-, hrun⟩
  · rw [hrun]
  · rw [hrun]

/-- **What a deletion of the service does to the store:** what its call does, if it comes to
that. -/
theorem deleteBucket_store (s : Service) (hbucket : bucket ≠ "") (w : World) :
    (s.deleteBucket bucket w).2.store =
      if w.failureAt .client = none ∧ w.failureAt .enter = none
      then w.storeAfter (.deleteBucket bucket) else w.store := by
  have hslot : (Client.inside s.config w).script .deleteBucket = w.script .deleteBucket :=
    Client.inside_script (by decide) (by decide)
  have hcall : (Client.inside s.config w).storeAfter (.deleteBucket bucket) =
      w.storeAfter (.deleteBucket bucket) := World.storeAfter_of_alike hslot rfl rfl
  rw [← hcall, ← Inspection.deleteBucket_store s.source, ← Client.during_store, deleteBucket,
    if_neg hbucket, onRefusal_apply]
  rcases s.onTransport_cases _ deleteOperation
    (Client.during s.config (Inspection.deleteBucket s.source bucket)) w with
    ⟨fault, -, hrun⟩ | ⟨-, hrun⟩
  · rw [hrun]
    rfl
  · rw [hrun]

/-- A deletion whose call fails leaves the store as it is. -/
theorem deleteBucket_store_of_error (s : Service) {failure : Failure}
    (h : w.outcomeOf (.deleteBucket bucket) = .error failure) :
    (s.deleteBucket bucket w).2.store = w.store := by
  by_cases hbucket : bucket = ""
  · subst hbucket
    rfl
  · rw [s.deleteBucket_store hbucket, World.storeAfter_of_error h, ite_self]

/-- A deletion records a failure with its trace only when its call did not get through,
and then as the last thing that it does. -/
theorem deleteBucket_records (s : Service) (hbucket : bucket ≠ "") (w : World) :
    ∃ t, (s.deleteBucket bucket w).2.trace = w.trace.append t ∧
      ((∃ fault, w.blockEnd (w.outcomeOf (.deleteBucket bucket)) = .error (.unreached fault)) →
        ∃ earlier, t.records = earlier ++
            [s.unreachedRecord s!"S3 delete_bucket failed (bucket={bucket})"] ∧
          ∀ record ∈ earlier, record.hasTrace = false) ∧
      ((∀ fault, w.blockEnd (w.outcomeOf (.deleteBucket bucket)) ≠ .error (.unreached fault)) →
        t.Plain) := by
  have hcall : (Client.invoke (.deleteBucket bucket)).Adds fun _ t => t.Plain :=
    Action.Adds.invoke fun _ => Trace.plain_of_nil rfl
  have hbody : (Client.during s.config (Inspection.deleteBucket s.source bucket)).Adds
      fun _ t => t.Plain :=
    Action.Adds.plain_during (Action.Adds.plain_closed.deleteBucket hcall s.source)
  obtain ⟨t, ht, hplain⟩ := hbody w
  have hblock : (Client.during s.config (Inspection.deleteBucket s.source bucket) w).1 =
      (w.blockEnd (w.outcomeOf (.deleteBucket bucket))).map fun _ => () :=
    (Inspection.during_deleteBucket s.config s.source bucket w).trans (World.blockEnd_map w _ _)
  rw [deleteBucket, if_neg hbucket, onRefusal_apply]
  rcases s.onTransport_cases s!"S3 delete_bucket failed (bucket={bucket})" deleteOperation
    (Client.during s.config (Inspection.deleteBucket s.source bucket)) w with
    ⟨fault, hfault, hrun⟩ | ⟨hother, hrun⟩
  · rw [hrun]
    refine ⟨t.append {
      records := [s.unreachedRecord s!"S3 delete_bucket failed (bucket={bucket})"] }, ?_,
      fun _ => ⟨t.records, rfl, hplain⟩, fun hother => ?_⟩
    · rw [World.tell_trace, ht, Trace.append_assoc]
    · rw [hblock] at hfault
      cases hleft : w.blockEnd (w.outcomeOf (.deleteBucket bucket)) with
      | ok answer => simp [hleft, Except.map] at hfault
      | error failure =>
        obtain rfl : failure = .unreached fault := by simpa [hleft, Except.map] using hfault
        exact absurd hleft (hother fault)
  · rw [hrun]
    refine ⟨t, ht, ?_, fun _ => hplain⟩
    rintro ⟨fault, hfault⟩
    rw [hblock, hfault] at hother
    exact absurd rfl (hother fault)

/-- **A deletion is classified by what leaves its client block.**  Nothing is done for an
empty name.  Otherwise the deletion succeeds when nothing leaves the block; it reports a
fault of either family, with code and message of its own and as the cause; and any other
failure passes as it is.  A call that did not get through is recorded together with the
failure, as the last thing that is done, and nothing else is.  No fault reaches the caller
as it is, and when the call fails the store stays as it was. -/
theorem deleteBucket_classified (s : Service) (bucket : String) (w : World) :
    (bucket = "" → s.deleteBucket bucket w = (.error (.emptyArgument .bucket), w)) ∧
    (bucket ≠ "" → ∃ t, (s.deleteBucket bucket w).2.trace = w.trace.append t ∧
      match w.blockEnd (w.outcomeOf (.deleteBucket bucket)) with
      | .ok _ => (s.deleteBucket bucket w).1 = .ok () ∧ t.Plain
      | .error (.refused fault) =>
        (s.deleteBucket bucket w).1 = .error (.reported {
          code := fault.detail.code, message := fault.detail.message
          operation := some "DeleteBucket", cause := some (.refused fault) }) ∧ t.Plain
      | .error (.unreached fault) =>
        (s.deleteBucket bucket w).1 = .error (.reported {
          code := fault.kind.name, message := fault.text
          operation := some "DeleteBucket", cause := some (.unreached fault) }) ∧
        ∃ earlier record, t.records = earlier ++ [record] ∧
          record.level = Level.error ∧ record.hasTrace = true ∧
          ∀ record ∈ earlier, record.hasTrace = false
      | .error failure => (s.deleteBucket bucket w).1 = .error failure ∧ t.Plain) ∧
    (∀ fault : Fault, (s.deleteBucket bucket w).1 ≠ .error fault.failure) ∧
    (∀ failure, w.outcomeOf (.deleteBucket bucket) = .error failure →
      (s.deleteBucket bucket w).2.store = w.store) := by
  refine ⟨?_, ?_, ?_, fun failure h => s.deleteBucket_store_of_error h⟩
  · rintro rfl
    rfl
  · intro hbucket
    obtain ⟨t, ht, hrecorded, hplain⟩ := s.deleteBucket_records hbucket w
    refine ⟨t, ht, ?_⟩
    rw [s.deleteBucket_outcome hbucket w]
    cases hleft : w.blockEnd (w.outcomeOf (.deleteBucket bucket)) with
    | ok answer => exact ⟨rfl, hplain fun fault h => by simp [hleft] at h⟩
    | error failure =>
      cases failure with
      | unreached fault =>
        obtain ⟨earlier, hearlier, hquiet⟩ := hrecorded ⟨fault, hleft⟩
        exact ⟨rfl, earlier, _, hearlier, rfl, rfl, hquiet⟩
      | _ => exact ⟨rfl, hplain fun fault h => by simp [hleft] at h⟩
  -- Each family of faults has a handler that lets no fault of it through.
  · intro fault hraw
    by_cases hbucket : bucket = ""
    · subst hbucket
      cases fault <;> cases hraw
    · rw [s.deleteBucket_outcome hbucket w] at hraw
      cases fault with
      | refused fault => exact reportRefused_ne_refused deleteOperation _ fault hraw
      | unreached fault =>
        rw [Fault.failure, reportRefused_eq_unreached_iff] at hraw
        exact reportUnreached_ne_unreached deleteOperation _ fault hraw

/-- The store refuses to delete a bucket with objects, and then the client cannot be left:
the second failure is the one that is reported. -/
theorem deleteBucket_classified_exit :
    let fault : TransportFault := ⟨.connectionClosed, "Connection was closed"⟩
    let script : Script := fun slot => if slot = .exit then [.fail (.unreached fault)] else []
    let w : World := { store := Emptying.twoBuckets, script := script }
    let s : Service := { config := { region := "us-west-2", zone := "usw2-az1" } }
    "second" ≠ "" ∧
      w.outcomeOf (.deleteBucket "second") = .error (.refused Store.notEmpty) ∧
      (s.deleteBucket "second" w).1 = .error (.reported {
        code := "ConnectionClosedError", message := "Connection was closed"
        operation := some "DeleteBucket", cause := some (.unreached fault) }) ∧
      (s.deleteBucket "second" w).2.store = Emptying.twoBuckets := by
  intro fault script w s
  have hname : "second" ≠ "" := by decide
  have hcall : w.outcomeOf (.deleteBucket "second") = .error (.refused Store.notEmpty) := rfl
  obtain ⟨-, hclassified, -, hstore⟩ := deleteBucket_classified s "second" w
  obtain ⟨t, -, hreported, -⟩ := hclassified hname
  exact ⟨hname, hcall, hreported, hstore _ hcall⟩

end Deletion

end Service

end ZonalBucket
