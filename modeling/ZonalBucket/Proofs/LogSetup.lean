import ZonalBucket.Log.History
import ZonalBucket.Lookup

/-!
# Setting up the log

The root of the log goes through a history of changes: handlers are added, the log is set
up, records are emitted.  Only a handler that `Root.ensure` installs writes to the stream
for errors, and it installs one only where there is no handler at all,
`length_errorHandlers_apply`; so there is never more than one,
`length_errorHandlers_after`.

Setting up with a level that makes sense always leads to the same place, whichever way it
takes: the level is set and all handlers have the standard layout, `ensure_of_chooses`.
From this equation follow the laws of setting up: once is enough, the last time counts,
and a root without handlers ends as one that was given the handler beforehand,
`ensure_lawful`.
-/

namespace ZonalBucket

/-- A value chooses a level: a number and a truth value choose themselves, and a text the
number that it is a name of. -/
inductive Level.Chooses : Document → Level → Prop
  | number (n : Int) : Chooses (.int n) (.number n)
  | flag (b : Bool) : Chooses (.bool b) (.flag b)
  | name {name : String} {n : Int} (h : (name, n) ∈ Level.names) :
      Chooses (.text name) (.number n)

namespace Level

/-- No name stands for two levels.  The table may have several names for one level,
and does for two of them. -/
theorem lookup_names {name : String} {n : Int} (h : (name, n) ∈ names) :
    names.lookup name = some n := by
  have hall : ∀ entry ∈ names, names.lookup entry.1 = some entry.2 := by decide
  exact hall _ h

/-- The levels that are read are those that are chosen. -/
theorem ofDocument_eq_ok_iff {choice : Document} {level : Level} :
    ofDocument choice = .ok level ↔ Chooses choice level := by
  constructor
  · intro h
    cases choice with
    | int n =>
      cases h
      exact .number n
    | bool b =>
      cases h
      exact .flag b
    | text name =>
      cases hname : names.lookup name with
      | none => simp [ofDocument, ofName?, hname] at h
      | some n =>
        simp only [ofDocument, ofName?, hname, Option.map_some, Except.ok.injEq] at h
        exact h ▸ .name (mem_of_lookup hname)
    | null | float | time | list | object => simp [ofDocument] at h
  · intro h
    cases h with
    | number n => rfl
    | flag b => rfl
    | name hname => simp [ofDocument, ofName?, lookup_names hname]

end Level

namespace Log

/-- Whether a step sets the log up on a root that has no handler. -/
def Change.installs (root : Root) : Change → Bool
  | .ensure _ => root.handlers.isEmpty
  | _ => false

namespace Root

variable {root : Root} {choice : Document} {level : Level}

/-- The handlers that write to the stream for errors. -/
def errorHandlers (root : Root) : List Handler :=
  root.handlers.filter fun handler => handler.sink = .errors

/-- A change of the handlers one by one, none of which begins or ceases to write to the
stream for errors. -/
theorem length_filter_errors {handlers : List Handler} {change : Handler → Handler}
    (h : ∀ handler, (change handler).sink = .errors ↔ handler.sink = .errors) :
    ((handlers.map change).filter fun handler => handler.sink = .errors).length =
      (handlers.filter fun handler => handler.sink = .errors).length := by
  rw [List.filter_map, List.length_map]
  congr 2
  funext handler
  simp [h handler]

/-- With another layout a handler still writes to where it did. -/
theorem length_errorHandlers_standardize (root : Root) :
    root.standardize.errorHandlers.length = root.errorHandlers.length :=
  length_filter_errors fun _ => Iff.rfl

/-- A record is written, but no handler changes where it writes to. -/
theorem length_errorHandlers_emit (root : Root) (record : Record) :
    (root.emit record).errorHandlers.length = root.errorHandlers.length := by
  have hwrite : ∀ handler : Handler,
      (handler.write record).sink = .errors ↔ handler.sink = .errors := by
    intro handler
    rw [Handler.write]
    cases hsink : handler.sink <;> simp [hsink]
  rw [emit]
  split
  · split
    · split <;> rfl
    · exact length_filter_errors hwrite
  · rfl

/-- A handler with a stream of its own is none for the stream for errors. -/
theorem length_errorHandlers_addHandler {handler : Handler} (h : handler.sink ≠ .errors) :
    (root.addHandler handler).errorHandlers.length = root.errorHandlers.length := by
  simp [errorHandlers, addHandler, h]

/-- Without handlers one is installed, whatever the level is.  It stands even when the
level turns out to be none. -/
theorem handlers_ensure_of_nil (h : root.handlers = []) (choice : Document) :
    (root.ensure choice).2.handlers = [errorHandler] := by
  have hinstalled : (root.addHandler errorHandler).handlers = [errorHandler] := by
    simp [addHandler, h]
  simp only [ensure, if_pos h, install]
  split
  · exact hinstalled
  · split <;> exact hinstalled

/-- With handlers, they stay as they are but for their layouts, and none is added. -/
theorem ensure_of_ne_nil (h : root.handlers ≠ []) (choice : Document) :
    (∃ level, Level.Chooses choice level ∧
        root.ensure choice = (.ok (), (root.setLevel level).standardize)) ∨
      ((∀ level, ¬Level.Chooses choice level) ∧
        ∃ fault, root.ensure choice = (.error fault, root)) := by
  rw [ensure, if_neg h, adjust]
  cases hread : Level.ofDocument choice with
  | ok level => exact .inl ⟨level, Level.ofDocument_eq_ok_iff.1 hread, rfl⟩
  | error fault =>
    refine .inr ⟨fun level hchooses => ?_, fault, rfl⟩
    rw [Level.ofDocument_eq_ok_iff.2 hchooses] at hread
    cases hread

/-- Where there are handlers already, setting up adds none, whether the level makes
sense or not. -/
theorem length_handlers_ensure (h : root.handlers ≠ []) (choice : Document) :
    (root.ensure choice).2.handlers.length = root.handlers.length := by
  rcases ensure_of_ne_nil h choice with ⟨level, -, heq⟩ | ⟨-, fault, heq⟩
  · rw [heq]
    simp [standardize, setLevel]
  · rw [heq]

/-- **A handler for the stream for errors is installed by setting up a root that has no
handler, and in no other way.** -/
theorem length_errorHandlers_apply (root : Root) (change : Change) :
    (root.apply change).2.errorHandlers.length =
      root.errorHandlers.length + if change.installs root then 1 else 0 := by
  cases change with
  | addHandler layout choice =>
    simp only [apply, Change.installs]
    cases hhandler : Handler.ofChoice layout choice with
    | error fault => rfl
    | ok handler =>
      have hsink : handler.sink ≠ .errors := by
        rw [Handler.ofChoice] at hhandler
        split at hhandler <;> cases hhandler
        exact Sink.noConfusion
      exact length_errorHandlers_addHandler hsink
  | ensure choice =>
    have hnext : (root.apply (.ensure choice)).2 = (root.ensure choice).2 := rfl
    rw [hnext, Change.installs]
    by_cases hnil : root.handlers = []
    · simp [errorHandlers, handlers_ensure_of_nil hnil, hnil, errorHandler]
    · have hsome : root.handlers.isEmpty = false := by simpa using hnil
      rw [hsome, if_neg Bool.false_ne_true, Nat.add_zero]
      rcases ensure_of_ne_nil hnil choice with ⟨level, -, heq⟩ | ⟨-, fault, heq⟩
      · rw [heq]
        exact length_errorHandlers_standardize (root.setLevel level)
      · rw [heq]
  | emit level source message =>
    simp only [apply, Change.installs]
    cases recordOf level source message with
    | error fault => rfl
    | ok record => exact length_errorHandlers_emit root record

/-- At most one handler is ever installed: with one there, the root has handlers. -/
theorem length_errorHandlers_after (changes : List Change) {start : Root}
    (hstart : start.errorHandlers.length ≤ 1) :
    (start.after changes).errorHandlers.length ≤ 1 := by
  induction changes generalizing start with
  | nil => exact hstart
  | cons change rest ih =>
    refine ih ?_
    rw [length_errorHandlers_apply]
    cases hinstalls : change.installs start with
    | false => simpa using hstart
    | true =>
      cases change with
      | ensure choice =>
        have hnil : start.handlers = [] := by simpa [Change.installs] using hinstalls
        simp [errorHandlers, hnil]
      | addHandler | emit => simp [Change.installs] at hinstalls

/-- The root with a handler for the stream for errors, unless it has handlers. -/
def withHandler (root : Root) : Root :=
  if root.handlers = [] then root.addHandler { sink := .errors } else root

/-- **What setting up leads to, on either way.**  A root without handlers gets one, a
root with handlers keeps them, and from there on the two ways do the same. -/
theorem ensure_of_chooses (h : Level.Chooses choice level) (root : Root) :
    root.ensure choice = (.ok (), (root.withHandler.setLevel level).standardize) := by
  have hread := Level.ofDocument_eq_ok_iff.2 h
  by_cases hnil : root.handlers = []
  · rw [ensure, if_pos hnil, withHandler, if_pos hnil]
    cases h <;> simp [install, hread, standardize, setLevel, addHandler, hnil, errorHandler]
  · rw [ensure, if_neg hnil, withHandler, if_neg hnil, adjust, hread]

/-- With this there is a handler in any case: the one that there was, or the one that
is put in. -/
theorem handlers_withHandler_ne_nil (root : Root) : root.withHandler.handlers ≠ [] := by
  rw [withHandler]
  split
  · simp [addHandler]
  · assumption

/-- A root that was set up is not given another handler. -/
theorem withHandler_standardize (root : Root) (level : Level) :
    (root.withHandler.setLevel level).standardize.withHandler =
      (root.withHandler.setLevel level).standardize := by
  have hsome : (root.withHandler.setLevel level).standardize.handlers ≠ [] := by
    simpa [standardize, setLevel] using handlers_withHandler_ne_nil root
  rw [withHandler, if_neg hsome]

/-- Of a root that was set up, setting up again only changes the level. -/
theorem standardize_setLevel_standardize (root : Root) (level other : Level) :
    ((root.setLevel level).standardize.setLevel other).standardize =
      (root.setLevel other).standardize := by
  simp [standardize, setLevel]

/-- After two set-ups the root is as after the second one alone. -/
theorem ensure_ensure {first second : Document} {other : Level}
    (hfirst : Level.Chooses first level) (hsecond : Level.Chooses second other) (root : Root) :
    (root.ensure first).2.ensure second = root.ensure second := by
  rw [ensure_of_chooses hfirst, ensure_of_chooses hsecond, ensure_of_chooses hsecond,
    withHandler_standardize, standardize_setLevel_standardize]

/-- **Setting up the log is lawful after every history.**  There is at most one handler
for the stream for errors; it is installed exactly by setting up a root without handlers,
and setting up adds no other.  With a level that makes sense, setting up sets the level
and gives every handler the standard layout; once is enough, the last time counts, and a
root without handlers ends as if it had been given a plain handler beforehand.  With any
other level, a root that has handlers stays as it is. -/
theorem ensure_lawful (changes : List Change) :
    let root := after {} changes
    root.errorHandlers.length ≤ 1 ∧
    (∀ change, (root.apply change).2.errorHandlers.length =
      root.errorHandlers.length + if change.installs root then 1 else 0) ∧
    (∀ choice, root.handlers ≠ [] →
      (root.ensure choice).2.handlers.length = root.handlers.length) ∧
    (∀ choice level, Level.Chooses choice level → ∃ next, root.ensure choice = (.ok (), next) ∧
      next.level = level ∧
      (∀ handler ∈ next.handlers, ∀ record, handler.layout.line record =
        some (record.level.name ++ ": " ++ record.message ++ "\n")) ∧
      next.ensure choice = (.ok (), next) ∧
      (root.handlers = [] →
        (root.addHandler { sink := .errors }).adjust choice = (.ok (), next))) ∧
    (∀ first second level other, Level.Chooses first level → Level.Chooses second other →
      (root.ensure first).2.ensure second = root.ensure second) ∧
    (∀ choice, root.handlers ≠ [] → (∀ level, ¬Level.Chooses choice level) →
      ∃ fault, root.ensure choice = (.error fault, root)) := by
  intro root
  refine ⟨length_errorHandlers_after changes (Nat.zero_le 1), length_errorHandlers_apply root,
    fun choice hsome => length_handlers_ensure hsome choice, ?_,
    fun _ _ _ _ hfirst hsecond => ensure_ensure hfirst hsecond root, ?_⟩
  · intro choice level hchooses
    have hrun := ensure_of_chooses hchooses root
    refine ⟨_, hrun, rfl, ?_, ?_, ?_⟩
    · intro handler hmem record
      obtain ⟨before, -, rfl⟩ := List.mem_map.1 hmem
      exact Layout.line_standard record
    · have hagain := ensure_ensure hchooses hchooses root
      rw [hrun] at hagain
      exact hagain
    · intro hnil
      rw [adjust, Level.ofDocument_eq_ok_iff.2 hchooses, withHandler, if_pos hnil]
  · intro choice hsome hnone
    rcases ensure_of_ne_nil hsome choice with ⟨level, hchooses, -⟩ | ⟨-, hfails⟩
    · exact absurd hchooses (hnone level)
    · exact hfails

end Root

end Log

end ZonalBucket
