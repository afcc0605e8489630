import ZonalBucket.Action

/-!
# The client

Calls are made through a client.  `Client.invoke` makes one call: the answer laid down
for its slot decides whether the store is asked at all, and the call is noted down with
what it came to.

`Client.during` runs an action with a client of its own: the client is requested
for a region and an endpoint, entered, and left again on every path on which it was
entered.  A failure on leaving takes the place of what the action ended in.
-/

namespace ZonalBucket.Client

/-- Asks the store. -/
def ask (call : Call) : Action Document := fun w =>
  match call.perform w.limits.pageSize w.store with
  | .ok (answer, store) => (.ok answer, w.withStore store)
  | .error failure => (.error failure, w)

/-- What a visit to the slot of a call comes to. -/
def answered (call : Call) : Answer → Action Document
  | .pass => ask call
  | .fail failure => Action.fail failure
  | .reply answer => Action.value answer

/-- Makes a call. -/
def invoke (call : Call) : Action Document := fun w =>
  match answered call (w.nextAnswer call.slot) (w.visit call.slot) with
  | (outcome, w) => (outcome, w.noteCall call outcome)

/-- A call is noted down behind all that was done before it. -/
theorem invoke_of_answered {call : Call} {w v : World} {outcome : Outcome Document}
    (h : answered call (w.nextAnswer call.slot) (w.visit call.slot) = (outcome, v)) :
    invoke call w = (outcome, v.noteCall call outcome) := by
  simp only [invoke, h]

/-- The store's own work on a call leaves the trace alone. -/
theorem answered_trace (call : Call) (given : Answer) (w : World) :
    (answered call given w).2.trace = w.trace := by
  cases given with
  | pass =>
    rw [answered, ask]
    split <;> rfl
  | fail failure => rfl
  | reply answer => rfl

/-- Passes a slot that is no call; only an answer that makes the visit fail counts. -/
def pass (slot : Slot) : Action Unit := fun w =>
  match w.nextAnswer slot with
  | .fail failure => (.error failure, w.visit slot)
  | _ => (.ok (), w.visit slot)

/-- Requests a client. -/
def request (config : Config) : Action Unit :=
  (Action.update fun w => w.noteRequest ⟨config.region, config.endpoint⟩).andThen fun _ =>
    pass .client

/-- Enters a client. -/
def enter : Action Unit := (Action.update World.noteEntry).andThen fun _ => pass .enter

/-- Leaves a client. -/
def leave : Action Unit := (Action.update World.noteExit).andThen fun _ => pass .exit

/-- Runs an action with a client of its own. -/
def during {α : Type} (config : Config) (action : Action α) : Action α := do
  request config
  enter
  action.ensuring leave

end ZonalBucket.Client
