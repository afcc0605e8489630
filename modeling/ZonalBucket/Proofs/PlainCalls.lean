import ZonalBucket.Proofs.ClientBlocks

/-!
# Calls that pass

A call for which nothing is laid down, or only a pass, comes to what the store does with
it.  It leaves nothing behind but its note in the trace, one answer less at its slot, and,
when it was not refused, the new store, `Client.invoke_of_pass`.

A world in which only passes are laid down for the calls that empty a bucket is
`World.Unhindered`; without any answers for them it is `World.Undisturbed`.
-/

namespace ZonalBucket

namespace World

variable {w : World} {slot other : Slot}

/-- The world after so many visits to a slot. -/
def visits (w : World) (slot : Slot) (count : Nat) : World :=
  { w with script := fun other =>
      if other = slot then (w.script other).drop count else w.script other }

@[simp] theorem visits_store (w : World) (slot : Slot) (count : Nat) :
    (w.visits slot count).store = w.store := rfl

@[simp] theorem visits_limits (w : World) (slot : Slot) (count : Nat) :
    (w.visits slot count).limits = w.limits := rfl

@[simp] theorem visits_trace (w : World) (slot : Slot) (count : Nat) :
    (w.visits slot count).trace = w.trace := rfl

/-- Visits use up the answers at their slot, from the first one on. -/
theorem visits_script_self (w : World) (slot : Slot) (count : Nat) :
    (w.visits slot count).script slot = (w.script slot).drop count :=
  if_pos rfl

/-- The answers at all other slots stay as they are. -/
theorem visits_script_of_ne (h : other ≠ slot) (w : World) (count : Nat) :
    (w.visits slot count).script other = w.script other :=
  if_neg h

theorem visits_zero (w : World) (slot : Slot) : w.visits slot 0 = w := by
  have hscript : (w.visits slot 0).script = w.script := by
    funext other
    exact ite_self _
  exact congrArg (fun script => { w with script := script }) hscript

theorem visits_one (w : World) (slot : Slot) : w.visits slot 1 = w.visit slot := by
  have hscript : (w.visits slot 1).script = w.script.drop slot := by
    funext other
    simp only [visits, Script.drop, List.drop_one]
  exact congrArg (fun script => { w with script := script }) hscript

/-- Visits behind visits can be counted together, as long as they go to one slot. -/
theorem visits_visits (w : World) (slot : Slot) (first second : Nat) :
    (w.visits slot first).visits slot second = w.visits slot (first + second) := by
  have hscript : ((w.visits slot first).visits slot second).script =
      (w.visits slot (first + second)).script := by
    funext other
    simp only [visits]
    split
    · rw [List.drop_drop]
    · rfl
  exact congrArg (fun script => { w with script := script }) hscript

/-- The first of several visits comes first.  This is the form for inductions along a
run. -/
theorem visits_succ (w : World) (slot : Slot) (count : Nat) :
    w.visits slot (count + 1) = (w.visit slot).visits slot count := by
  rw [Nat.add_comm, ← visits_visits, visits_one]

/-- Visits for which nothing is laid down change nothing, so that a world without a
script stays itself through a whole run. -/
theorem visits_of_nil (h : w.script slot = []) (count : Nat) : w.visits slot count = w := by
  have hscript : (w.visits slot count).script = w.script := by
    funext other
    by_cases hother : other = slot
    · rw [hother, visits_script_self, h, List.drop_nil]
    · exact visits_script_of_ne hother w count
  exact congrArg (fun script => { w with script := script }) hscript

/-- A visit for which nothing is laid down changes nothing. -/
theorem visit_of_nil (h : w.script slot = []) : w.visit slot = w :=
  (visits_one w slot).symm.trans (visits_of_nil h 1)

section Cons

variable {first : Answer} {rest : List Answer} (h : w.script slot = first :: rest)

include h

/-- A visit is given the first answer of those that are laid down, and uses it up. -/
theorem nextAnswer_of_cons : w.nextAnswer slot = first := by
  rw [nextAnswer, h, List.headD_cons]

/-- The other answers are left for later visits. -/
theorem visit_script_of_cons : (w.visit slot).script slot = rest := by
  rw [← visits_one, visits_script_self, h, List.drop_one, List.tail_cons]

end Cons

/-- The next visits to a slot, so many of them, pass. -/
def PassesFor (w : World) (slot : Slot) (count : Nat) : Prop :=
  ∀ answer ∈ (w.script slot).take count, answer = .pass

/-- All visits to a slot pass. -/
def Passes (w : World) (slot : Slot) : Prop := ∀ answer ∈ w.script slot, answer = .pass

/-- When all visits pass, the next ones do, however many they are. -/
theorem Passes.passesFor (h : w.Passes slot) (count : Nat) : w.PassesFor slot count :=
  fun answer hanswer => h answer (List.mem_of_mem_take hanswer)

/-- Without any answers all visits pass. -/
theorem passes_of_nil (h : w.script slot = []) : w.Passes slot := by
  intro answer hanswer
  rw [h] at hanswer
  cases hanswer

/-- They still do behind some visits, as answers are only used up. -/
theorem Passes.visits (h : w.Passes slot) (count : Nat) : (w.visits slot count).Passes slot := by
  intro answer hanswer
  rw [visits_script_self] at hanswer
  exact h answer (List.mem_of_mem_drop hanswer)

/-- Of so many visits that pass, one less is left behind the first one. -/
theorem PassesFor.visit {count : Nat} (h : w.PassesFor slot (count + 1)) :
    (w.visit slot).PassesFor slot count := by
  intro answer hanswer
  rw [← visits_one, visits_script_self] at hanswer
  refine h answer ?_
  cases hscript : w.script slot with
  | nil => simp [hscript] at hanswer
  | cons first rest =>
    rw [hscript] at hanswer
    exact List.mem_cons_of_mem _ hanswer

/-- The first of some visits that pass is let pass, whether this is laid down or
nothing is. -/
theorem PassesFor.nextAnswer {count : Nat} (h : w.PassesFor slot (count + 1)) :
    w.nextAnswer slot = .pass := by
  rw [World.nextAnswer]
  cases hscript : w.script slot with
  | nil => rfl
  | cons first rest =>
    refine h first ?_
    rw [hscript]
    exact List.mem_cons_self

theorem Passes.nextAnswer (h : w.Passes slot) : w.nextAnswer slot = .pass :=
  (h.passesFor 1).nextAnswer

theorem nextAnswer_of_nil (h : w.script slot = []) : w.nextAnswer slot = .pass :=
  (passes_of_nil h).nextAnswer

end World

namespace Client

/-- The store answers.  The script has nothing against it, so that the answer and the
new store are those of the call itself. -/
theorem invoke_of_pass (call : Call) {w : World} {answer : Document} {store : Store}
    (h : w.nextAnswer call.slot = .pass)
    (hperform : call.perform w.limits.pageSize w.store = .ok (answer, store)) :
    invoke call w = (.ok answer, ((w.visit call.slot).withStore store).tell
      { exchanges := [⟨call, .ok answer⟩] }) := by
  have houtcome : w.outcomeOf call = .ok answer := by
    rw [World.outcomeOf_of_pass h, hperform]
    rfl
  rw [invoke_apply, houtcome, World.storeAfter_of_pass h hperform]

/-- The store does not answer, and stays as it was. -/
theorem invoke_of_perform_error (call : Call) {w : World} {failure : Failure}
    (h : w.script call.slot = [])
    (hperform : call.perform w.limits.pageSize w.store = .error failure) :
    invoke call w = (.error failure, w.tell { exchanges := [⟨call, .error failure⟩] }) := by
  have houtcome : w.outcomeOf call = .error failure := by
    rw [World.outcomeOf_of_pass (World.nextAnswer_of_nil h), hperform]
    rfl
  rw [invoke_apply, houtcome, World.storeAfter_of_error houtcome, World.visit_of_nil h]
  rfl

/-- A call for which a failure is laid down fails with it. -/
theorem invoke_of_fail (call : Call) {w : World} {failure : Failure}
    (h : w.nextAnswer call.slot = .fail failure) :
    invoke call w = (.error failure, (w.visit call.slot).tell
      { exchanges := [⟨call, .error failure⟩] }) := by
  have houtcome : w.outcomeOf call = .error failure := by
    rw [World.outcomeOf, h]
  rw [invoke_apply, houtcome, World.storeAfter_of_error houtcome]
  rfl

/-- A call for which an answer is laid down is given this answer. -/
theorem invoke_of_reply (call : Call) {w : World} {answer : Document}
    (h : w.nextAnswer call.slot = .reply answer) :
    invoke call w = (.ok answer, (w.visit call.slot).tell
      { exchanges := [⟨call, .ok answer⟩] }) := by
  have houtcome : w.outcomeOf call = .ok answer := by
    rw [World.outcomeOf, h]
  have hstore : w.storeAfter call = w.store := by
    rw [World.storeAfter, h]
  rw [invoke_apply, houtcome, hstore]
  rfl

end Client

/-- A world in which buckets are emptied without hindrance: pages and batches have some
keys, and what is laid down for listing and deleting only lets calls pass. -/
structure World.Unhindered (w : World) : Prop where
  pageSize : 0 < w.limits.pageSize
  batchSize : 0 < w.limits.batchSize
  listing : w.Passes .listObjects
  deleting : w.Passes .deleteObjects

namespace World.Unhindered

variable {w : World}

/-- The number of keys on a page, as a natural number. -/
theorem exists_pageSize (h : w.Unhindered) : ∃ size : Nat, w.limits.pageSize = size :=
  Int.eq_ofNat_of_zero_le (Int.le_of_lt h.pageSize)

/-- The number of keys in a batch, as a natural number. -/
theorem exists_batchSize (h : w.Unhindered) : ∃ size : Nat, w.limits.batchSize = size :=
  Int.eq_ofNat_of_zero_le (Int.le_of_lt h.batchSize)

end World.Unhindered

/-- A world in which buckets are emptied undisturbed: no answers are laid down for
listing and deleting, and pages and batches have some keys. -/
structure World.Undisturbed (w : World) : Prop where
  pageSize : 0 < w.limits.pageSize
  batchSize : 0 < w.limits.batchSize
  listing : w.script .listObjects = []
  deleting : w.script .deleteObjects = []

namespace World.Undisturbed

variable {w : World}

/-- Neither the trace nor the store has to do with it. -/
theorem tell (h : w.Undisturbed) (t : Trace) : (w.tell t).Undisturbed :=
  ⟨h.pageSize, h.batchSize, h.listing, h.deleting⟩

/-- A world in which nothing is laid down for a call does not hinder it either. -/
theorem unhindered (h : w.Undisturbed) : w.Unhindered :=
  ⟨h.pageSize, h.batchSize, passes_of_nil h.listing, passes_of_nil h.deleting⟩

end World.Undisturbed

end ZonalBucket
