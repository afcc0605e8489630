import ZonalBucket.Proofs.RunsAlong

/-!
# Other buckets stay as they are

A call changes no bucket but the one that it is about, and it uses up answers at its own
slot only.  This passes on to whole operations, `Action.WorksOn.hereditary`: when all
calls of an action are about one bucket, every other bucket, the limits and the answers
laid down for all other slots are afterwards what they were before.
-/

namespace ZonalBucket

/-- The second world comes from the first one by work on one bucket at some slots. -/
structure World.WorkedOn (bucket : String) (slots : List Slot) (w v : World) : Prop where
  others : ∀ name, name ≠ bucket → v.store.get? name = w.store.get? name
  limits : v.limits = w.limits
  script : ∀ slot, slot ∉ slots → v.script slot = w.script slot

namespace World.WorkedOn

variable {bucket : String} {slots : List Slot} {w v u : World}

theorem refl (w : World) : WorkedOn bucket slots w w :=
  ⟨fun _ _ => rfl, rfl, fun _ _ => rfl⟩

/-- Work on one bucket goes on as work on it. -/
theorem trans (h : WorkedOn bucket slots w v) (hnext : WorkedOn bucket slots v u) :
    WorkedOn bucket slots w u where
  others name hne := (hnext.others name hne).trans (h.others name hne)
  limits := hnext.limits.trans h.limits
  script slot hslot := (hnext.script slot hslot).trans (h.script slot hslot)

/-- A visit uses up answers at its own slot only. -/
theorem visit {slot : Slot} (hslot : slot ∈ slots) : WorkedOn bucket slots w (w.visit slot) where
  others _ _ := rfl
  limits := rfl
  script other hother := by
    have hne : other ≠ slot := fun heq => hother (heq ▸ hslot)
    exact if_neg hne

/-- What works on a bucket for a while and then goes on working on it does so on the
whole; reports do not count as work. -/
theorem lasting : Action.Lasting (WorkedOn bucket slots) where
  refl := refl
  trans := trans
  record _ _ := ⟨fun _ _ => rfl, rfl, fun _ _ => rfl⟩

end World.WorkedOn

namespace Action

variable {α : Type} {bucket : String} {slots : List Slot}

/-- Wherever the action runs, it works on one bucket only, at some slots. -/
def WorksOn (bucket : String) (slots : List Slot) (action : Action α) : Prop :=
  ∀ w, World.WorkedOn bucket slots w (action w).2

/-- Work on one bucket passes from the parts of an action to the whole. -/
theorem WorksOn.hereditary : Hereditary fun action => action.WorksOn bucket slots :=
  Along.hereditary World.WorkedOn.lasting

/-- A call works on its bucket, at its slot.  Other buckets are not changed by it, and
the answers at other slots are left. -/
theorem WorksOn.invoke {call : Call} (hbucket : call.bucket = bucket) (hslot : call.slot ∈ slots) :
    (Client.invoke call).WorksOn bucket slots := by
  refine Along.invoke World.WorkedOn.lasting (fun w => World.WorkedOn.visit hslot) (fun w => ?_)
    fun w outcome => ⟨fun _ _ => rfl, rfl, fun _ _ => rfl⟩
  rw [Client.ask]
  split
  · rename_i answer store hperform
    refine ⟨fun name hne => ?_, rfl, fun _ _ => rfl⟩
    exact Call.get?_of_perform_eq_ok hperform (hbucket ▸ hne)
  · exact .refl w

end Action

end ZonalBucket
