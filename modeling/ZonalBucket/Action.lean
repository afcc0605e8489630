import ZonalBucket.World

/-!
# Actions

An action runs in a world; it ends in a value or in a failure, and leaves a world
behind either way.  What an action did before it failed stays done.

Failures are caught in three ways: only refusals by the store, `onRefusal` and
`attempt`; only faults on the way to the store, `onTransport`; or every failure,
`recovering`.
`ensuring` runs a second action after the first one, however that ended, and a
failure of the second one takes the place of what the first one ended in.
-/

namespace ZonalBucket

/-- A run that starts in a world and ends in a value or a failure, and in a world. -/
def Action (α : Type) : Type := World → Outcome α × World

namespace Action

variable {α β γ : Type}

/-- The action that does nothing. -/
def value (a : α) : Action α := fun w => (.ok a, w)

/-- The action that fails and does nothing else. -/
def fail (failure : Failure) : Action α := fun w => (.error failure, w)

/-- Runs one action and then another on its value. -/
def andThen (action : Action α) (next : α → Action β) : Action β := fun w =>
  match action w with
  | (.ok a, w) => next a w
  | (.error failure, w) => (.error failure, w)

instance : Monad Action where
  pure := value
  bind := andThen

/-- An outcome that is known beforehand. -/
def ofOutcome (outcome : Outcome α) : Action α := fun w => (outcome, w)

/-- Something about the world. -/
def look (f : World → α) : Action α := fun w => (.ok (f w), w)

/-- Changes the world. -/
def update (f : World → World) : Action Unit := fun w => (.ok (), f w)

/-- Hands over to another action when the store refuses a call. -/
def onRefusal (action : Action α) (handler : ServiceFault → Action α) : Action α := fun w =>
  match action w with
  | (.error (.refused fault), w) => handler fault w
  | ending => ending

/-- Keeps a refusal by the store as part of the value. -/
def attempt (action : Action α) : Action (Except ServiceFault α) := fun w =>
  match action w with
  | (.ok a, w) => (.ok (.ok a), w)
  | (.error (.refused fault), w) => (.ok (.error fault), w)
  | (.error failure, w) => (.error failure, w)

/-- Hands over to another action when a call does not get through. -/
def onTransport (action : Action α) (handler : TransportFault → Action α) :
    Action α := fun w =>
  match action w with
  | (.error (.unreached fault), w) => handler fault w
  | ending => ending

/-- Hands over to another action when one fails. -/
def recovering (action : Action α) (handler : Failure → Action α) : Action α := fun w =>
  match action w with
  | (.error failure, w) => handler failure w
  | ending => ending

/-- Runs a second action after a first one, however that ended. -/
def ensuring (action : Action α) (last : Action Unit) : Action α := fun w =>
  match action w with
  | (outcome, w) => match last w with
    | (.ok (), w) => (outcome, w)
    | (.error failure, w) => (.error failure, w)

/-- Sets up the log, from the level of plain information on. -/
def setUpLog : Action Unit := update fun w =>
  { w with root := (w.root.ensure Level.info.toDocument).2 }

/-- Reports a record. -/
def report (level : Level) (source : Source) (message : String) : Action Unit :=
  update fun w => w.noteRecord { level := level, source := source, message := message }

/-- Reports something that happened. -/
def info (source : Source) (message : String) : Action Unit := report Level.info source message

/-- Reports something that went wrong. -/
def error (source : Source) (message : String) : Action Unit := report Level.error source message

/-- Reports something that went wrong, together with the failure. -/
def trace (source : Source) (message : String) : Action Unit :=
  update fun w => w.noteRecord {
    level := Level.error, source := source, message := message, hasTrace := true }

/-- Reports a refusal in the words of its detail. -/
def reportRefusal (source : Source) (what : String) (fault : ServiceFault) : Action Unit :=
  error source (what ++ ": " ++ fault.detail.message ++ " - Error code: " ++ fault.detail.code)

/-- Reports a refusal and fails with it. -/
def failRefused (source : Source) (what : String) (fault : ServiceFault) : Action α :=
  (reportRefusal source what fault).andThen fun _ => fail (.refused fault)

/-- What a run in `do` notation that only gives a value comes to; stated so that `rw`
finds it behind the notation. -/
theorem pure_apply (a : α) (w : World) : (pure a : Action α) w = (.ok a, w) := rfl

/-- The bind of the notation is `andThen`, which can be opened by its two cases below.
-/
theorem bind_apply (action : Action α) (next : α → Action β) (w : World) :
    (action >>= next) w = action.andThen next w := rfl

/-- A run that ended in a value goes on with it in the world that it left behind. -/
theorem andThen_of_ok {action : Action α} {a : α} {w v : World} (next : α → Action β)
    (h : action w = (.ok a, v)) : action.andThen next w = next a v := by
  rw [andThen, h]

/-- What was to follow a run that failed is not even looked at, and the world is the
one that the failure left behind. -/
theorem andThen_of_error {action : Action α} {failure : Failure} {w v : World}
    (next : α → Action β) (h : action w = (.error failure, v)) :
    action.andThen next w = (.error failure, v) := by
  rw [andThen, h]

/-- A run that ended in a value goes on with it. -/
theorem bind_of_ok {action : Action α} {a : α} {w v : World} (next : α → Action β)
    (h : action w = (.ok a, v)) : (action >>= next) w = next a v :=
  andThen_of_ok next h

/-- A run that failed does not go on.  Whatever was to come next is not even looked
at, so that the failure and the world that it left behind are those of the whole. -/
theorem bind_of_error {action : Action α} {failure : Failure} {w v : World}
    (next : α → Action β) (h : action w = (.error failure, v)) :
    (action >>= next) w = (.error failure, v) :=
  andThen_of_error next h

/-- Runs may be put into brackets as it suits a proof: three actions one behind the
other are the same action either way. -/
theorem bind_assoc (action : Action α) (next : α → Action β) (last : β → Action γ) :
    action >>= next >>= last = action >>= fun a => next a >>= last := by
  funext w
  cases hrun : action w with
  | mk outcome v =>
    cases outcome with
    | ok a =>
      rw [bind_of_ok _ hrun, bind_apply, andThen, bind_of_ok _ hrun]
      rfl
    | error failure =>
      rw [bind_of_error _ hrun, bind_of_error _ (bind_of_error _ hrun)]

/-- Something is made of the value in the end.  The world is not touched by this, and
a failure is kept as it is. -/
theorem bind_pure_apply (action : Action α) (f : α → β) (w : World) :
    (action >>= fun a => pure (f a)) w = ((action w).1.map f, (action w).2) := by
  cases hrun : action w with
  | mk outcome v =>
    cases outcome with
    | ok a => exact bind_of_ok _ hrun
    | error failure => exact bind_of_error _ hrun

/-- A run of two actions ends in a value when both do. -/
theorem bind_eq_ok {action : Action α} {next : α → Action β} {b : β} {w : World} :
    ((action >>= next) w).1 = .ok b ↔
      ∃ a v, action w = (.ok a, v) ∧ (next a v).1 = .ok b := by
  cases hrun : action w with
  | mk outcome v =>
    cases outcome with
    | ok a =>
      rw [bind_of_ok next hrun]
      constructor
      · intro h
        exact ⟨a, v, rfl, h⟩
      · rintro ⟨a', v', heq, h⟩
        cases heq
        exact h
    | error failure =>
      rw [bind_of_error next hrun]
      constructor
      · intro h
        cases h
      · rintro ⟨a', v', heq, h⟩
        cases heq

/-- Without a refusal the handler does not matter. -/
theorem onRefusal_of_ok {action : Action α} {a : α} {w v : World}
    (handler : ServiceFault → Action α) (h : action w = (.ok a, v)) :
    action.onRefusal handler w = (.ok a, v) := by
  simp only [onRefusal, h]

/-- The handler goes on in the world of the refusal, so that what was done before it
stays done. -/
theorem onRefusal_of_refused {action : Action α} {fault : ServiceFault} {w v : World}
    (handler : ServiceFault → Action α) (h : action w = (.error (.refused fault), v)) :
    action.onRefusal handler w = handler fault v := by
  simp only [onRefusal, h]

/-- Only refusals are handed over.  A value, a call that did not get through and a
failure of the program itself all pass the handler by. -/
theorem onRefusal_of_other {action : Action α} {outcome : Outcome α} {w v : World}
    (handler : ServiceFault → Action α) (h : action w = (outcome, v))
    (hother : ∀ fault, outcome ≠ .error (.refused fault)) :
    action.onRefusal handler w = (outcome, v) := by
  rw [onRefusal, h]
  split
  · rename_i fault _ heq
    simp only [Prod.mk.injEq] at heq
    exact absurd heq.1 (hother fault)
  · rfl

/-- A run either is refused and handed over, or it ends as it does without a handler. -/
theorem onRefusal_cases {action : Action α} {outcome : Outcome α} {w v : World}
    (handler : ServiceFault → Action α) (h : action w = (outcome, v)) :
    (∃ fault, outcome = .error (.refused fault) ∧
        action.onRefusal handler w = handler fault v) ∨
      ((∀ fault, outcome ≠ .error (.refused fault)) ∧
        action.onRefusal handler w = (outcome, v)) := by
  by_cases hrefused : ∃ fault, outcome = .error (.refused fault)
  · obtain ⟨fault, rfl⟩ := hrefused
    exact .inl ⟨fault, rfl, onRefusal_of_refused handler h⟩
  · have hother : ∀ fault, outcome ≠ .error (.refused fault) := fun fault heq =>
      hrefused ⟨fault, heq⟩
    exact .inr ⟨hother, onRefusal_of_other handler h hother⟩

/-- An outcome in which a refusal is a value. -/
def keepRefusal : Outcome α → Outcome (Except ServiceFault α)
  | .ok a => .ok (.ok a)
  | .error (.refused fault) => .ok (.error fault)
  | .error failure => .error failure

/-- To keep a refusal as a value changes nothing about what a run does, only about how
it ends. -/
theorem attempt_of_run {action : Action α} {outcome : Outcome α} {w v : World}
    (h : action w = (outcome, v)) : action.attempt w = (keepRefusal outcome, v) := by
  rw [attempt, h]
  cases outcome with
  | ok a => rfl
  | error failure => cases failure <;> rfl

/-- Where nothing failed there is nothing to recover from. -/
theorem recovering_of_ok {action : Action α} {a : α} {w v : World}
    (handler : Failure → Action α) (h : action w = (.ok a, v)) :
    action.recovering handler w = (.ok a, v) := by
  simp only [recovering, h]

/-- The handler is given the failure, of whatever kind, and the world that it left
behind. -/
theorem recovering_of_error {action : Action α} {failure : Failure} {w v : World}
    (handler : Failure → Action α) (h : action w = (.error failure, v)) :
    action.recovering handler w = handler failure v := by
  simp only [recovering, h]

/-- A last action that does not fail leaves the outcome as it was. -/
theorem ensuring_of_ok {action : Action α} {last : Action Unit} {w v u : World}
    {outcome : Outcome α} (h : action w = (outcome, v)) (hlast : last v = (.ok (), u)) :
    action.ensuring last w = (outcome, u) := by
  simp only [ensuring, h, hlast]

/-- A last action that fails takes the place of the outcome. -/
theorem ensuring_of_error {action : Action α} {last : Action Unit} {w v u : World}
    {outcome : Outcome α} {failure : Failure} (h : action w = (outcome, v))
    (hlast : last v = (.error failure, u)) :
    action.ensuring last w = (.error failure, u) := by
  simp only [ensuring, h, hlast]

/-- A call that did not get through is handed over, in the world that it left behind. -/
theorem onTransport_of_unreached {action : Action α} {fault : TransportFault} {w v : World}
    (handler : TransportFault → Action α) (h : action w = (.error (.unreached fault), v)) :
    action.onTransport handler w = handler fault v := by
  simp only [onTransport, h]

/-- Only calls that did not get through are handed over. -/
theorem onTransport_of_other {action : Action α} {outcome : Outcome α} {w v : World}
    (handler : TransportFault → Action α) (h : action w = (outcome, v))
    (hother : ∀ fault, outcome ≠ .error (.unreached fault)) :
    action.onTransport handler w = (outcome, v) := by
  rw [onTransport, h]
  split
  · rename_i fault _ heq
    simp only [Prod.mk.injEq] at heq
    exact absurd heq.1 (hother fault)
  · rfl

end Action

end ZonalBucket
