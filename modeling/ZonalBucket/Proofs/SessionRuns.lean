import ZonalBucket.Proofs.PartsOfSessions
import ZonalBucket.Proofs.RunsAlong

/-!
# What a session uses up

An operation uses up answers that were laid down, from the front of each slot, and lays
down none; it never changes the limits, the files, the clock or the environment.  This is
`World.Follows`: calls and client blocks run along it, and so does everything that is
made of them, up to the steps that do not only prepare, `Session.perform_follows`.

So a session in which no step lays answers down only uses them up: `Session.step_usesUp`
for one step, and `Session.run_usesUp` for all.  One that begins without answers goes on
without them, `Session.run_script_empty`.
-/

namespace ZonalBucket

/-- At every slot some answers were used up from the front, and none is new. -/
def World.UsesUp (w v : World) : Prop := ∀ slot, v.script slot <:+ w.script slot

/-- Answers were used up, and all that is given to an operation stays as it was. -/
structure World.Follows (w v : World) : Prop where
  usesUp : w.UsesUp v
  limits : v.limits = w.limits
  files : v.files = w.files
  clock : v.clock = w.clock
  environment : v.environment = w.environment

namespace World

variable {w v : World}

/-- Nothing of a script that stays the same was used up. -/
theorem UsesUp.of_same (h : v.script = w.script) : w.UsesUp v := by
  intro slot
  have hslot : v.script slot = w.script slot := congrFun h slot
  exact hslot ▸ List.suffix_rfl

/-- What is left of what is left is part of the whole; reports use up nothing. -/
theorem usesUp_lasting : Action.Lasting UsesUp where
  refl _ := .of_same rfl
  trans h hnext slot := (hnext slot).trans (h slot)
  record _ _ := .of_same rfl

/-- A visit uses up at most one answer, at its own slot. -/
theorem UsesUp.visit (w : World) (slot : Slot) : w.UsesUp (w.visit slot) := by
  intro other
  simp only [World.visit, Script.drop]
  split
  · exact List.tail_suffix _
  · exact List.suffix_rfl

namespace Follows

/-- What does not touch script, limits, files, clock and environment goes along. -/
theorem of_same (hscript : v.script = w.script) (hlimits : v.limits = w.limits)
    (hfiles : v.files = w.files) (hclock : v.clock = w.clock)
    (henvironment : v.environment = w.environment) : w.Follows v :=
  ⟨.of_same hscript, hlimits, hfiles, hclock, henvironment⟩

/-- A world that follows one that follows another follows this one. -/
theorem lasting : Action.Lasting Follows where
  refl _ := of_same rfl rfl rfl rfl rfl
  trans h hnext := {
    usesUp := usesUp_lasting.trans h.usesUp hnext.usesUp
    limits := hnext.limits.trans h.limits
    files := hnext.files.trans h.files
    clock := hnext.clock.trans h.clock
    environment := hnext.environment.trans h.environment }
  record _ _ := of_same rfl rfl rfl rfl rfl

theorem visit (w : World) (slot : Slot) : w.Follows (w.visit slot) :=
  ⟨UsesUp.visit w slot, rfl, rfl, rfl, rfl⟩

end Follows

end World

namespace Action

variable {α : Type}

/-- In particular such a run only uses up answers and lays down none. -/
theorem Along.usesUp {action : Action α} (h : action.Along World.Follows) :
    action.Along World.UsesUp := fun w => (h w).usesUp

end Action

namespace Session

/-- What an action without a value ends in is told as nothing, or as its failure. -/
theorem silently_apply (action : Action Unit) (w : World) :
    silently action w = ((action w).1.map fun _ => .nothing, (action w).2) := by
  cases hrun : action w with
  | mk outcome v => cases outcome with
    | ok a => exact Action.andThen_of_ok _ hrun
    | error failure => exact Action.andThen_of_error _ hrun

/-- A step that only prepares leaves no trace, and the answers that are there unless it lays
some down. -/
theorem prepare_unseen {s : Step} (hs : s.prepares = true) (w : World) :
    (perform s w).2.trace = w.trace ∧
      ((∀ answers, s ≠ .script answers) → (perform s w).2.script = w.script) := by
  have hfiles : ∀ change, (changeFiles change w).2 = { w with files := (change w.files).2 } :=
    fun _ => rfl
  cases s with
  | script answers =>
    rw [perform, silently_apply]
    exact ⟨rfl, fun hscript => absurd rfl (hscript answers)⟩
  | start choice =>
    rw [perform, start]
    cases hlevel : chosenLevel choice w with
    | mk outcome v =>
      obtain rfl : v = w := (congrArg Prod.snd hlevel).symm
      cases outcome with
      | ok level =>
        rw [Action.bind_of_ok _ hlevel]
        exact ⟨rfl, fun _ => rfl⟩
      | error failure =>
        rw [Action.bind_of_error _ hlevel]
        exact ⟨rfl, fun _ => rfl⟩
  | write | makeFolder =>
    rw [perform, silently_apply, hfiles]
    exact ⟨rfl, fun _ => rfl⟩
  | seed | environment | clock =>
    rw [perform, silently_apply]
    exact ⟨rfl, fun _ => rfl⟩
  | _ => exact nomatch hs

/-- The steps behind others are taken in the world that those lead to. -/
theorem run_append (w : World) (front rest : List Step) :
    run w (front ++ rest) = ((run w front).1 ++ (run (run w front).2 rest).1,
      (run (run w front).2 rest).2) := by
  induction front generalizing w with
  | nil => rfl
  | cons s front ih => simp only [List.cons_append, run, ih]

/-- A session tells of each of its steps, also of those that failed. -/
theorem length_run (w : World) (steps : List Step) : (run w steps).1.length = steps.length := by
  induction steps generalizing w with
  | nil => rfl
  | cons s rest ih => simp only [run, List.length_cons, ih]

/-- What is seen of a step in a session is what it shows in the world behind the steps
in front of it.  Steps that come later have no influence on it. -/
theorem getElem?_run (w : World) (front rest : List Step) (s : Step) :
    (run w (front ++ s :: rest)).1[front.length]? = some (step (run w front).2 s).1 := by
  have hlength : front.length = (run w front).1.length := (length_run w front).symm
  rw [run_append, hlength, List.getElem?_append_right (Nat.le_refl _), Nat.sub_self]
  rfl

end Session

end ZonalBucket
