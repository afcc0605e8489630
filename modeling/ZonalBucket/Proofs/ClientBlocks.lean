import ZonalBucket.Proofs.TraceGrowth

/-!
# Client blocks

An action that runs with a client of its own is a block with four points of failure:
requesting the client, entering it, the action itself, and leaving the client.
`Client.during_cases` goes through all that can happen.  It follows that the block ends
in `World.blockEnd`: in the first failure among those of the client itself, whatever the
action ended in, and otherwise as the action did.

What a single call comes to is known before it is made, `World.outcomeOf`.
-/

namespace ZonalBucket

namespace World

/-- The failure that is laid down for the next visit to a slot. -/
def failureAt (w : World) (slot : Slot) : Option Failure :=
  match w.nextAnswer slot with
  | .fail failure => some failure
  | _ => none

/-- The failure of the client itself: to be requested, to be entered or to be left, in
this order. -/
def clientFailure (w : World) : Option Failure :=
  [Slot.client, .enter, .exit].findSome? w.failureAt

/-- What a client block ends in whose body ends so. -/
def blockEnd {α : Type} (w : World) (inner : Outcome α) : Outcome α :=
  match w.clientFailure with
  | some failure => .error failure
  | none => inner

/-- What a call comes to: what is laid down for it, or else what the store does with it. -/
def outcomeOf (w : World) (call : Call) : Outcome Document :=
  match w.nextAnswer call.slot with
  | .fail failure => .error failure
  | .reply answer => .ok answer
  | .pass => (call.perform w.limits.pageSize w.store).map (·.1)

/-- The store that a call leaves behind. -/
def storeAfter (w : World) (call : Call) : Store :=
  match w.nextAnswer call.slot with
  | .pass => match call.perform w.limits.pageSize w.store with
    | .ok (_, store) => store
    | .error _ => w.store
  | _ => w.store

variable {w v : World}

/-- Only the script decides which failure comes next.  Neither the store nor what was
done before can make a visit fail. -/
theorem failureAt_of_script {slot : Slot} (h : v.script slot = w.script slot) :
    v.failureAt slot = w.failureAt slot := by
  rw [failureAt, failureAt, nextAnswer, nextAnswer, h]

/-- A call comes to the same in worlds that are alike for it. -/
theorem outcomeOf_of_alike {call : Call} (hscript : v.script call.slot = w.script call.slot)
    (hlimits : v.limits = w.limits) (hstore : v.store = w.store) :
    v.outcomeOf call = w.outcomeOf call := by
  rw [outcomeOf, outcomeOf, nextAnswer, nextAnswer, hscript, hlimits, hstore]

/-- A call comes to the answer that is laid down for it. -/
theorem outcomeOf_of_reply {call : Call} {answer : Document}
    (h : w.nextAnswer call.slot = .reply answer) : w.outcomeOf call = .ok answer := by
  rw [outcomeOf, h]

/-- A call that passes comes to what the store does with it. -/
theorem outcomeOf_of_pass {call : Call} (h : w.nextAnswer call.slot = .pass) :
    w.outcomeOf call = (call.perform w.limits.pageSize w.store).map (·.1) := by
  rw [outcomeOf, h]

theorem storeAfter_of_pass {call : Call} (h : w.nextAnswer call.slot = .pass) {answer : Document}
    {store : Store} (hperform : call.perform w.limits.pageSize w.store = .ok (answer, store)) :
    w.storeAfter call = store := by
  rw [storeAfter, h]
  simp only [hperform]

/-- Of the world only the script, the limits and the store count for what a call
leaves behind.  What was reported or called before has no influence. -/
theorem storeAfter_of_alike {call : Call} (hscript : v.script call.slot = w.script call.slot)
    (hlimits : v.limits = w.limits) (hstore : v.store = w.store) :
    v.storeAfter call = w.storeAfter call := by
  rw [storeAfter, storeAfter, nextAnswer, nextAnswer, hscript, hlimits, hstore]

/-- A call that fails leaves the store as it is. -/
theorem storeAfter_of_error {call : Call} {failure : Failure}
    (h : w.outcomeOf call = .error failure) : w.storeAfter call = w.store := by
  rw [outcomeOf] at h
  rw [storeAfter]
  cases hanswer : w.nextAnswer call.slot with
  | pass =>
    rw [hanswer] at h
    cases hperform : call.perform w.limits.pageSize w.store with
    | ok answered => simp [hperform, Except.map] at h
    | error cause => rfl
  | fail failure => rfl
  | reply answer => rfl

/-- A visit to one slot leaves the script at all other slots as it is. -/
theorem visit_script_of_ne {slot other : Slot} (h : other ≠ slot) :
    (w.visit slot).script other = w.script other :=
  if_neg h

/-- A block whose client does not fail ends as its body does. -/
theorem blockEnd_of_none {α : Type} (h : w.clientFailure = none) (inner : Outcome α) :
    w.blockEnd inner = inner := by
  rw [blockEnd, h]

/-- What is made of the value that a body ends in is made of the one that the block ends in. -/
theorem blockEnd_map {α β : Type} (w : World) (inner : Outcome α) (f : α → β) :
    w.blockEnd (inner.map f) = (w.blockEnd inner).map f := by
  rw [blockEnd, blockEnd]
  cases w.clientFailure <;> rfl

/-- A block whose body is never refused is left with a refusal only by the client itself. -/
theorem blockEnd_eq_refused_iff {α : Type} {inner : Outcome α} {fault : ServiceFault}
    (h : ∀ fault, inner ≠ .error (.refused fault)) :
    w.blockEnd inner = .error (.refused fault) ↔ w.clientFailure = some (.refused fault) := by
  rw [blockEnd]
  cases w.clientFailure with
  | some failure => simp
  | none => simpa using h fault

end World

namespace Client

variable {α : Type} {config : Config} {body : Action α} {w v : World}

/-- **A call is known from what it comes to.**  It uses up one answer at its slot, leaves
its store behind and adds itself to the trace. -/
theorem invoke_apply (call : Call) (w : World) :
    invoke call w = (w.outcomeOf call,
      ((w.visit call.slot).withStore (w.storeAfter call)).tell
        { exchanges := [⟨call, w.outcomeOf call⟩] }) := by
  rw [World.outcomeOf, World.storeAfter, invoke, ← World.noteCall_eq_tell]
  cases w.nextAnswer call.slot with
  | pass =>
    simp only [answered, ask, World.visit]
    cases call.perform w.limits.pageSize w.store <;> rfl
  | fail failure => rfl
  | reply answer => rfl

/-- A call ends in what it comes to.  The right side can be worked out from the world
in front of the call, without running it. -/
theorem invoke_outcome (call : Call) (w : World) : (invoke call w).1 = w.outcomeOf call :=
  congrArg Prod.fst (invoke_apply call w)

theorem invoke_store (call : Call) (w : World) :
    (invoke call w).2.store = w.storeAfter call := by
  rw [invoke_apply]
  rfl

/-- The world in which the body of a block runs. -/
def inside (config : Config) (w : World) : World :=
  (((w.noteRequest ⟨config.region, config.endpoint⟩).visit .client).noteEntry).visit .enter

/-- What requesting and entering a client leave in the trace. -/
def opening (config : Config) : Trace where
  requests := [⟨config.region, config.endpoint⟩]
  entered := 1

/-- The world after a client was left. -/
def outside (v : World) : World := v.noteExit.visit .exit

/-- In the body of a block the script is the one in front of it, except where the
client itself has used up an answer. -/
theorem inside_script {slot : Slot} (hclient : slot ≠ .client) (henter : slot ≠ .enter) :
    (inside config w).script slot = w.script slot :=
  (World.visit_script_of_ne henter).trans (World.visit_script_of_ne hclient)

/-- Before the body begins, the trace tells of the request and of the entry and of
nothing else. -/
theorem inside_trace : (inside config w).trace = w.trace.append (opening config) := by
  simp [inside, opening, World.visit, World.noteEntry, World.noteRequest, Trace.append]

/-- Leaving a client is noted down however it goes, as it is noted before the visit
that may fail. -/
theorem outside_trace : (outside v).trace = v.trace.append { exited := 1 } := by
  simp [outside, World.visit, World.noteExit, Trace.append]

/-- Passing a slot fails with what is laid down for it. -/
theorem pass_of_some {slot : Slot} {failure : Failure} (h : w.failureAt slot = some failure) :
    pass slot w = (.error failure, w.visit slot) := by
  rw [World.failureAt] at h
  cases hnext : w.nextAnswer slot with
  | fail cause =>
    obtain rfl : cause = failure := by simpa [hnext] using h
    simp only [pass, hnext]
  | pass => simp [hnext] at h
  | reply answer => simp [hnext] at h

/-- A slot for which no failure is laid down is passed, and the visit uses up an
answer all the same. -/
theorem pass_of_none {slot : Slot} (h : w.failureAt slot = none) :
    pass slot w = (.ok (), w.visit slot) := by
  rw [World.failureAt] at h
  cases hnext : w.nextAnswer slot with
  | fail cause => simp [hnext] at h
  | pass => simp only [pass, hnext]
  | reply answer => simp only [pass, hnext]

/-- **All that can happen to a client block.**  The client cannot be requested; or it
cannot be entered; or the body runs, and afterwards the client is left, where a failure
takes the place of what the body ended in. -/
theorem during_cases (config : Config) (body : Action α) (w : World) :
    (∃ failure, w.failureAt .client = some failure ∧
      during config body w =
        (.error failure, (w.noteRequest ⟨config.region, config.endpoint⟩).visit .client)) ∨
    (∃ failure, w.failureAt .client = none ∧ w.failureAt .enter = some failure ∧
      during config body w = (.error failure, inside config w)) ∨
    (w.failureAt .client = none ∧ w.failureAt .enter = none ∧
      ∃ outcome v, body (inside config w) = (outcome, v) ∧
        ((∃ failure, v.failureAt .exit = some failure ∧
            during config body w = (.error failure, outside v)) ∨
          (v.failureAt .exit = none ∧ during config body w = (outcome, outside v)))) := by
  have hrequest : request config w =
      pass .client (w.noteRequest ⟨config.region, config.endpoint⟩) := rfl
  cases hclient : w.failureAt .client with
  | some failure =>
    have hfails := hrequest.trans (pass_of_some hclient)
    exact .inl ⟨failure, rfl, Action.bind_of_error _ hfails⟩
  | none =>
    have hpasses := hrequest.trans (pass_of_none hclient)
    refine .inr ?_
    rw [during, Action.bind_of_ok _ hpasses]
    have hentry : enter ((w.noteRequest ⟨config.region, config.endpoint⟩).visit .client) =
        pass .enter
          (((w.noteRequest ⟨config.region, config.endpoint⟩).visit .client).noteEntry) := rfl
    cases henter : w.failureAt .enter with
    | some failure =>
      have hfails := hentry.trans (pass_of_some henter)
      exact .inl ⟨failure, rfl, rfl, Action.bind_of_error _ hfails⟩
    | none =>
      have hpasses := hentry.trans (pass_of_none henter)
      refine .inr ⟨rfl, rfl, ?_⟩
      rw [Action.bind_of_ok _ hpasses]
      -- The body may end as it will: the client is left in any case.
      cases hbody : body (inside config w) with
      | mk outcome v =>
        refine ⟨outcome, v, rfl, ?_⟩
        have hexit : leave v = pass .exit v.noteExit := rfl
        cases hleave : v.failureAt .exit with
        | some failure =>
          refine .inl ⟨failure, rfl, ?_⟩
          exact Action.ensuring_of_error hbody (hexit.trans (pass_of_some hleave))
        | none =>
          refine .inr ⟨rfl, ?_⟩
          exact Action.ensuring_of_ok hbody (hexit.trans (pass_of_none hleave))

/-- **What a block ends in,** when its body does not visit the slot of leaving.  The
failure that comes first in requesting and entering counts, then one of leaving, and
only then what the body ends in. -/
theorem during_outcome (config : Config) {inner : Outcome α}
    (hbody : (body (inside config w)).1 = inner)
    (hexit : (body (inside config w)).2.script .exit = w.script .exit) :
    (during config body w).1 = w.blockEnd inner := by
  rw [World.blockEnd, World.clientFailure]
  rcases during_cases config body w with ⟨failure, hclient, hrun⟩ |
    ⟨failure, hclient, henter, hrun⟩ | ⟨hclient, henter, outcome, v, hinside, hleft⟩
  · simp [hrun, hclient]
  · simp [hrun, hclient, henter]
  · rw [hinside] at hbody hexit
    have hsame := World.failureAt_of_script hexit
    rcases hleft with ⟨failure, hleave, hrun⟩ | ⟨hleave, hrun⟩
    · simp [hrun, hclient, henter, hsame.symm.trans hleave]
    · simp [hrun, hclient, henter, hsame.symm.trans hleave, hbody]

/-- **What a block does to the store:** what its body does, if it comes to that.  A
client that cannot be left does not undo it. -/
theorem during_store (config : Config) (body : Action α) (w : World) :
    (during config body w).2.store =
      if w.failureAt .client = none ∧ w.failureAt .enter = none
      then (body (inside config w)).2.store else w.store := by
  rcases during_cases config body w with ⟨failure, hclient, hrun⟩ |
    ⟨failure, hclient, henter, hrun⟩ | ⟨hclient, henter, outcome, v, hinside, hleft⟩
  · rw [hrun, if_neg (by simp [hclient])]
    rfl
  · rw [hrun, if_neg (by simp [henter])]
    rfl
  · rw [if_pos ⟨hclient, henter⟩, hinside]
    rcases hleft with ⟨failure, -, hrun⟩ | ⟨-, hrun⟩
    · rw [hrun]
      rfl
    · rw [hrun]
      rfl

end Client

namespace Action

/-- What a block adds to the trace: the request, then the entry, then what its body adds,
and then the leaving. -/
theorem Adds.during {α : Type} {config : Config} {body : Action α}
    {P Q : Outcome α → Trace → Prop} (hbody : body.Adds P)
    (hrequest : ∀ failure, Q (.error failure)
      { requests := [⟨config.region, config.endpoint⟩] })
    (henter : ∀ failure, Q (.error failure) (Client.opening config))
    (hstay : ∀ outcome t, P outcome t →
      Q outcome ((Client.opening config).append (t.append { exited := 1 })))
    (hexit : ∀ outcome t failure, P outcome t →
      Q (.error failure) ((Client.opening config).append (t.append { exited := 1 }))) :
    (Client.during config body).Adds Q := by
  intro w
  rcases Client.during_cases config body w with ⟨failure, -, hrun⟩ |
    ⟨failure, -, -, hrun⟩ | ⟨-, -, outcome, v, hinside, hleft⟩
  · refine ⟨{ requests := [⟨config.region, config.endpoint⟩] }, ?_, ?_⟩
    · simp [hrun, World.visit, World.noteRequest, Trace.append]
    · rw [hrun]
      exact hrequest failure
  · rw [hrun]
    exact ⟨Client.opening config, Client.inside_trace, henter failure⟩
  · obtain ⟨t, ht, hP⟩ := hbody (Client.inside config w)
    rw [hinside] at ht hP
    have htrace : (Client.outside v).trace =
        w.trace.append ((Client.opening config).append (t.append { exited := 1 })) := by
      rw [Client.outside_trace, ht, Client.inside_trace]
      simp only [Trace.append_assoc]
    rcases hleft with ⟨failure, -, hrun⟩ | ⟨-, hrun⟩
    · rw [hrun]
      exact ⟨_, htrace, hexit outcome t failure hP⟩
    · rw [hrun]
      exact ⟨_, htrace, hstay outcome t hP⟩

end Action

end ZonalBucket
