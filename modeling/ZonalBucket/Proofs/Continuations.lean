import ZonalBucket.Proofs.PartsOfPrograms

/-!
# What goes on behind an action

All the ways in which actions are put together are one: an action runs, and what goes on
behind it is chosen by what the run ended in, `Action.followedBy`.  A value, a refusal, a
fault on the way or any failure may be gone on from, and what is not gone on from is passed
on.

So to see that a property passes from the parts of an action to the whole, it is enough to
look at this one way, `Closed.of_followedBy` and `Hereditary.of_followedBy`.
-/

namespace ZonalBucket.Action

variable {α β : Type}

/-- Runs an action, and behind it the one that belongs to what the run ended in. -/
def followedBy (first : Action α) (rest : Outcome α → Action β) : Action β := fun w =>
  rest (first w).1 (first w).2

/-- Goes on from a value. -/
def fromValue (next : α → Action β) : Outcome α → Action β
  | .ok a => next a
  | .error failure => fail failure

/-- Goes on from a refusal. -/
def fromRefusal (handler : ServiceFault → Action α) : Outcome α → Action α
  | .error (.refused fault) => handler fault
  | outcome => ofOutcome outcome

/-- Goes on from a call that did not get through. -/
def fromUnreached (handler : TransportFault → Action α) : Outcome α → Action α
  | .error (.unreached fault) => handler fault
  | outcome => ofOutcome outcome

/-- Goes on from any failure. -/
def fromFailure (handler : Failure → Action α) : Outcome α → Action α
  | .error failure => handler failure
  | outcome => ofOutcome outcome

variable {first : Action α}

/-- To go on with a value is to go on with an outcome, where a failure is simply
passed on. -/
theorem bind_eq_followedBy (next : α → Action β) :
    first >>= next = first.followedBy (fromValue next) := by
  funext w
  rw [followedBy]
  cases hrun : first w with
  | mk outcome v =>
    cases outcome with
    | ok a => exact bind_of_ok next hrun
    | error failure => exact bind_of_error next hrun

/-- Reporting a refusal cannot fail, so that what follows the report is always the
failure. -/
theorem failRefused_eq_followedBy (source : Source) (what : String) (fault : ServiceFault) :
    (failRefused source what fault : Action α) =
      (reportRefusal source what fault).followedBy (fromValue fun _ => fail (.refused fault)) :=
  bind_eq_followedBy _

/-- Keeping a refusal as a value is a matter of the outcome alone; nothing is done for
it. -/
theorem attempt_eq_followedBy :
    first.attempt = first.followedBy fun outcome => ofOutcome (keepRefusal outcome) := by
  funext w
  exact attempt_of_run rfl

theorem onRefusal_eq_followedBy (handler : ServiceFault → Action α) :
    first.onRefusal handler = first.followedBy (fromRefusal handler) := by
  funext w
  rw [followedBy, onRefusal]
  rcases first w with ⟨failure | a, v⟩
  · cases failure <;> rfl
  · rfl

theorem onTransport_eq_followedBy (handler : TransportFault → Action α) :
    first.onTransport handler = first.followedBy (fromUnreached handler) := by
  funext w
  rw [followedBy, onTransport]
  rcases first w with ⟨failure | a, v⟩
  · cases failure <;> rfl
  · rfl

theorem recovering_eq_followedBy (handler : Failure → Action α) :
    first.recovering handler = first.followedBy (fromFailure handler) := by
  funext w
  rw [followedBy, recovering]
  rcases first w with ⟨_ | failure, v⟩ <;> rfl

/-- A last action follows whatever the outcome is, and then the outcome is taken up
again, unless the last action failed. -/
theorem ensuring_eq_followedBy (last : Action Unit) :
    first.ensuring last = first.followedBy fun outcome => last >>= fun _ => ofOutcome outcome := by
  funext w
  rw [followedBy]
  rcases hrun : first w with ⟨outcome, v⟩
  rcases hlast : last v with ⟨failure | done, u⟩
  · rw [ensuring_of_error hrun hlast, bind_of_error _ hlast]
  · rw [ensuring_of_ok hrun hlast, bind_of_ok _ hlast]
    rfl

section Properties

variable {Q : Action α → Prop} (hofOutcome : ∀ outcome : Outcome α, Q (ofOutcome outcome))

include hofOutcome

/-- To have a property of what follows, it is enough to have it of what follows a
value.  A failure is passed on, which is an outcome that is known. -/
theorem fromValue_of {next : β → Action α} (hnext : ∀ b, Q (next b)) (outcome : Outcome β) :
    Q (fromValue next outcome) := by
  cases outcome with
  | ok b => exact hnext b
  | error failure => exact hofOutcome (.error failure)

/-- To have a property of what follows a handler of refusals, it is enough to have it
of what follows a refusal: all other outcomes are kept as they are. -/
theorem fromRefusal_of {handler : ServiceFault → Action α} (hhandler : ∀ fault, Q (handler fault))
    (outcome : Outcome α) : Q (fromRefusal handler outcome) := by
  unfold fromRefusal
  split
  · exact hhandler _
  · exact hofOutcome _

theorem fromUnreached_of {handler : TransportFault → Action α}
    (hhandler : ∀ fault, Q (handler fault)) (outcome : Outcome α) :
    Q (fromUnreached handler outcome) := by
  unfold fromUnreached
  split
  · exact hhandler _
  · exact hofOutcome _

theorem fromFailure_of {handler : Failure → Action α} (hhandler : ∀ failure, Q (handler failure))
    (outcome : Outcome α) : Q (fromFailure handler outcome) := by
  cases outcome with
  | ok a => exact hofOutcome (.ok a)
  | error failure => exact hhandler failure

end Properties

section Passing

variable {P : {α : Type} → Action α → Prop}

/-- **A property that passes on behind an action passes to operations.**  All ways of
going on, with a value, a refusal or any failure, are cases of one, so that one
condition is enough for them. -/
theorem Closed.of_followedBy
    (hfollowed : ∀ {α β : Type} {first : Action α} {rest : Outcome α → Action β},
      P first → (∀ outcome, P (rest outcome)) → P (first.followedBy rest))
    (hofOutcome : ∀ {α : Type} (outcome : Outcome α), P (Action.ofOutcome outcome))
    (hlook : ∀ {α : Type} (f : World → α),
      (∀ w v, w.files = v.files → w.limits = v.limits → w.clock = v.clock → f w = f v) →
      P (Action.look f))
    (hreport : ∀ (level : Level) (source : Source) (message : String),
      P (Action.report level source message)) : Closed P where
  ofOutcome := hofOutcome
  look := hlook
  report := hreport
  bind h hnext := by
    rw [bind_eq_followedBy]
    exact hfollowed h (fromValue_of hofOutcome hnext)
  passRefusal source what h := by
    rw [onRefusal_eq_followedBy]
    refine hfollowed h (fromRefusal_of hofOutcome fun fault => ?_)
    rw [failRefused_eq_followedBy]
    exact hfollowed (hreport _ _ _) (fromValue_of hofOutcome fun _ => hofOutcome _)

/-- **A property that passes on behind an action passes to programs and requests,**
too.  Besides going on, these look at the environment and do something last. -/
theorem Hereditary.of_followedBy (hclosed : Closed P)
    (hfollowed : ∀ {α β : Type} {first : Action α} {rest : Outcome α → Action β},
      P first → (∀ outcome, P (rest outcome)) → P (first.followedBy rest))
    (hlookAround : ∀ {α : Type} (f : World → α),
      (∀ w v, w.environment = v.environment → f w = f v) → P (Action.look f))
    (htrace : ∀ (source : Source) (message : String), P (Action.trace source message)) :
    Hereditary P where
  toClosed := hclosed
  lookAround := hlookAround
  trace := htrace
  attempt h := attempt_eq_followedBy ▸ hfollowed h fun _ => hclosed.ofOutcome _
  onRefusal h hhandler := onRefusal_eq_followedBy _ ▸
    hfollowed h (fromRefusal_of hclosed.ofOutcome hhandler)
  onTransport h hhandler := onTransport_eq_followedBy _ ▸
    hfollowed h (fromUnreached_of hclosed.ofOutcome hhandler)
  recovering h hhandler := recovering_eq_followedBy _ ▸
    hfollowed h (fromFailure_of hclosed.ofOutcome hhandler)
  ensuring h hlast := ensuring_eq_followedBy _ ▸
    hfollowed h fun outcome => hclosed.bind hlast fun _ => hclosed.ofOutcome outcome

end Passing

end ZonalBucket.Action
