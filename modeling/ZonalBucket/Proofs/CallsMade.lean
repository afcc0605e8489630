import ZonalBucket.Proofs.PartsOfOperations
import ZonalBucket.Proofs.TraceGrowth

/-!
# The calls that operations make

What is true of the single calls of an operation is true of all its calls, and this is
so for a listing too, however many pages it has: what a listing adds to the trace is known
from what one page adds, `Listing.keysFrom_adds`.

Operations that pass refusals on heed every call that fails, `Action.Heeds`: they fail as it
did.
-/

namespace ZonalBucket

open ZonalBucket.Action (Adds Makes)

variable {done failed : Exchange → Prop}

/-- What the calls of a run are like passes from its parts to the whole, when a failure
may follow whatever went well. -/
theorem Action.Makes.closed (himp : ∀ e, done e → failed e) :
    Action.Closed fun action => action.Makes done failed where
  ofOutcome := Makes.ofOutcome
  look f _ := Makes.look f
  report := Makes.report
  bind := Makes.bind himp
  passRefusal source what h := h.passRefusal source what

namespace Listing

/-- **What a listing adds** follows from what one page does, however many pages there
are.  The property has to pass from a page and the pages behind it to both together. -/
theorem keysFrom_adds {bucket : String} {Q : Outcome Page → Trace → Prop}
    {P : Outcome (List String) → Trace → Prop} (hpage : ∀ token, (fetchPage bucket token).Adds Q)
    (hfail : ∀ failure t, Q (.error failure) t → P (.error failure) t)
    (hlast : ∀ page t, Q (.ok page) t → P (.ok page.keys) t)
    (hmore : ∀ page outcome s t, Q (.ok page) s → P outcome t →
      P (outcome.map (page.keys ++ ·)) (s.append t))
    (token : Option Document) : Adds (keysFrom bucket token) P := by
  intro w
  -- One page, and the pages behind it by induction along the listing.
  fun_induction keysFrom bucket token w with
  | case1 token w failure v hfetch =>
    obtain ⟨t, ht, hQ⟩ := hpage token w
    rw [hfetch] at ht hQ
    exact ⟨t, ht, hfail failure t hQ⟩
  | case2 token w page v hfetch hnext =>
    obtain ⟨t, ht, hQ⟩ := hpage token w
    rw [hfetch] at ht hQ
    exact ⟨t, ht, hlast page t hQ⟩
  | case3 token w page v hfetch next hnext hless failure u hrest ih =>
    obtain ⟨s, hs, hQ⟩ := hpage token w
    rw [hfetch] at hs hQ
    rw [hrest] at ih
    obtain ⟨t, ht, hP⟩ := ih
    exact ⟨s.append t, by rw [ht, hs, Trace.append_assoc], hmore page _ s t hQ hP⟩
  | case4 token w page v hfetch next hnext hless keys u hrest ih =>
    obtain ⟨s, hs, hQ⟩ := hpage token w
    rw [hfetch] at hs hQ
    rw [hrest] at ih
    obtain ⟨t, ht, hP⟩ := ih
    exact ⟨s.append t, by rw [ht, hs, Trace.append_assoc], hmore page _ s t hQ hP⟩
  | case5 token w page v hfetch next hnext hless =>
    obtain ⟨t, ht, hQ⟩ := hpage token w
    rw [hfetch] at ht hQ
    exact ⟨t, ht, hlast page t hQ⟩

/-- What the calls for pages are like, all calls of a listing are. -/
theorem keysFrom_makes (himp : ∀ e, done e → failed e) {bucket : String}
    (hcall : ∀ token, (Client.invoke (.listObjects bucket token)).Makes done failed)
    (token : Option Document) :
    Makes (keysFrom bucket token) done failed := by
  have hpage : ∀ token, (fetchPage bucket token).Makes done failed := fun token =>
    Makes.bind himp (hcall token) fun _ => Makes.ofOutcome _
  refine keysFrom_adds hpage (fun _ _ ht => ht) (fun _ _ ht => ht)
    (fun page outcome s t hs ht => ?_) token
  refine Makes.join himp hs fun e he => ?_
  cases outcome <;> exact ht e he

end Listing

namespace Action

variable {α : Type}

/-- When a run ends in a value, all its calls were answered: a call that fails makes the
run fail. -/
theorem Makes.answered (call : Call) :
    (Client.invoke call).Makes (·.isAnswered = true) fun _ => True :=
  Makes.invoke (fun _ => rfl) fun _ => trivial

/-- When a call fails, the run fails as the call did. -/
def Heeds (action : Action α) : Prop :=
  action.Adds fun outcome t =>
    ∀ e ∈ t.exchanges, ∀ failure, e.outcome = .error failure → outcome = .error failure

/-- Nothing is heeded where nothing is called, which is so for whatever leaves the
trace as it is. -/
theorem Heeds.of_trace_eq {action : Action α} (htrace : ∀ w, (action w).2.trace = w.trace) :
    action.Heeds :=
  Adds.of_trace_eq htrace fun w e he => by simp at he

/-- A single call heeds itself: it fails as it does. -/
theorem Heeds.invoke (call : Call) : (Client.invoke call).Heeds := by
  refine Adds.invoke fun outcome e he failure hfailed => ?_
  obtain rfl : e = ⟨call, outcome⟩ := by simpa using he
  exact hfailed

/-- Whoever passes refusals on heeds them.  Reporting comes first, but a report cannot
fail, so that the refusal is what the whole ends in. -/
theorem Heeds.passRefusal {action : Action α} (h : action.Heeds) (source : Source)
    (what : String) : (action.onRefusal (failRefused source what)).Heeds := by
  refine Adds.onRefusal h (fun outcome s hs _ => hs) fun fault => ?_
  refine Adds.failRefused fun record s hs e he => ?_
  have he' : e ∈ s.exchanges := by simpa using he
  exact hs e he'

/-- **To heed what fails passes from the parts of an action to the whole.**  None of
the ways in which operations are put together drops a failure, so that it is enough to
look at their calls. -/
theorem Heeds.closed : Closed fun action => action.Heeds where
  ofOutcome _ := of_trace_eq fun _ => rfl
  look _ _ := of_trace_eq fun _ => rfl
  report _ _ _ := Adds.report fun e he => by simp at he
  bind h hnext := by
    refine Adds.bind h (fun _ s hs e he failure hfailed => ?_) fun a => ?_
    · exact congrArg Except.error (Except.error.inj (hs e he failure hfailed))
    refine (hnext a).weaken fun outcome t ht s hs e he failure hfailed => ?_
    rcases List.mem_append.1 he with he | he
    · -- No call of a run that went on has failed.
      cases hs e he failure hfailed
    · exact ht e he failure hfailed
  passRefusal source what h := h.passRefusal source what

/-- A listing heeds what fails, at whatever page.  The keys of the pages in front of
it are lost with it. -/
theorem Heeds.keysFrom (bucket : String) (token : Option Document) :
    Heeds (Listing.keysFrom bucket token) := by
  have hpage : ∀ token, (Listing.fetchPage bucket token).Heeds := fun token =>
    closed.bind (.invoke _) fun _ => closed.ofOutcome _
  refine Listing.keysFrom_adds hpage (fun _ t ht e he failure hfailed => ?_)
    (fun page t ht e he failure hfailed => nomatch ht e he failure hfailed)
    (fun page outcome s t hs ht e he failure hfailed => ?_) token
  · exact congrArg Except.error (Except.error.inj (ht e he failure hfailed))
  rcases List.mem_append.1 he with he | he
  · cases hs e he failure hfailed
  · rw [ht e he failure hfailed]
    rfl

end Action

end ZonalBucket
