import ZonalBucket.Proofs.LogSetup

/-!
# What the handlers write

What a record comes to depends on the history before it: which handlers there are, with
which levels and layouts, and whether there are any at all, since without handlers a
record may go to the stream for errors as a bare message.  Setting up the log with a level
that makes sense ends all of this.  From then on the level of the root is the one that was
chosen, there are handlers, all of them write in the standard layout, and at most one of
them writes to the stream for errors, `SetUp`; and no record changes that, `SetUp.after`.
So a record is one line for each handler whose level it reaches, provided that it passes
the root, and nothing for the others, `SetUp.outlets_emit`.

The texts only grow, before as well as after.  A step that emits no record leaves all of
them as they are, `Diary.outputs_of_not_emit`, and a record is written behind what is there
already, `Diary.goesOn_after`.  The main statement, `Diary.written_once`, joins the two.
-/

namespace ZonalBucket.Log

/-- Whether a step emits a record. -/
def Change.isEmit : Change → Bool
  | .emit .. => true
  | _ => false

/-- The record that a step emits. -/
def Change.record? : Change → Option Record
  | .emit level source message => (recordOf level source message).toOption
  | _ => none

/-- The records that steps emit, in order. -/
def emitted (changes : List Change) : List Record := changes.filterMap Change.record?

/-- Texts go on from others: the text at each place begins with the one at the same place
before, and there may be more texts behind. -/
inductive GoesOn : List String → List String → Prop
  | nil (texts : List String) : GoesOn [] texts
  | cons (s t : String) {before after : List String} (rest : GoesOn before after) :
      GoesOn (s :: before) ((s ++ t) :: after)

namespace GoesOn

theorem same (s : String) {before after : List String} (rest : GoesOn before after) :
    GoesOn (s :: before) (s :: after) := by
  simpa using cons s "" rest

/-- Texts may come behind those that there are.  These are the streams of handlers
that were added. -/
theorem append (texts more : List String) : GoesOn texts (texts ++ more) := by
  induction texts with
  | nil => exact .nil more
  | cons s rest ih => exact same s ih

theorem refl (texts : List String) : GoesOn texts texts := by
  simpa using append texts []

/-- What goes on from texts that went on from others goes on from those, too.  Each
text is only ever added to, so that the two additions stand one behind the other. -/
theorem trans {first second third : List String} (h : GoesOn first second)
    (hnext : GoesOn second third) : GoesOn first third := by
  induction h generalizing third with
  | nil => exact .nil third
  | cons s t rest ih =>
    cases hnext with
    | cons _ u hrest =>
      rw [String.append_assoc]
      exact .cons s (t ++ u) (ih hrest)

end GoesOn

/-- What a handler of its own level is to write behind a root of another: a line with the
name of the level and the message, if the record reaches both levels. -/
def share (bound own : Level) (record : Record) : String :=
  if bound.rank ≤ record.level.rank ∧ own.rank ≤ record.level.rank then
    record.level.name ++ ": " ++ record.message ++ "\n"
  else ""

/-- A handler as it is seen from outside: its level, and the text that it writes to. -/
structure Outlet where
  level : Level
  text : String
deriving DecidableEq, Repr

/-- What is seen of a handler that got its share of a record. -/
def Outlet.take (bound : Level) (outlet : Outlet) (record : Record) : Outlet :=
  { outlet with text := outlet.text ++ share bound outlet.level record }

section

variable {bound : Level} {record : Record}

/-- A record that does not reach the level of the root has no share for anybody,
whatever the levels of the handlers are. -/
theorem share_of_not_le (h : ¬bound.rank ≤ record.level.rank) (own : Level) :
    share bound own record = "" := by
  simp [share, h]

theorem join_share_of_not_le (h : ¬bound.rank ≤ record.level.rank) (handlers : List Handler) :
    String.join (handlers.map fun handler => share bound handler.level record) = "" := by
  induction handlers with
  | nil => rfl
  | cons handler rest ih =>
    rw [List.map_cons, String.join_cons, ih, share_of_not_le h, String.append_empty]

end

namespace Handler

variable {handler : Handler} {record : Record}

theorem level_write (handler : Handler) (record : Record) :
    (handler.write record).level = handler.level := by
  rw [write]
  split <;> rfl

theorem layout_write (handler : Handler) (record : Record) :
    (handler.write record).layout = handler.layout := by
  rw [write]
  split <;> rfl

/-- To a stream of its own a handler adds its output; what it writes to the stream for
errors is not kept by the handler. -/
theorem written?_write (handler : Handler) (record : Record) :
    (handler.write record).written? = handler.written?.map (· ++ handler.output record) := by
  rw [write, written?, written?]
  cases hsink : handler.sink <;> simp [hsink]

/-- In the standard layout a handler writes its share, behind a root that lets the record
pass. -/
theorem output_of_standard {bound : Level} (h : handler.layout = Layout.standard)
    (hbound : bound.rank ≤ record.level.rank) :
    handler.output record = share bound handler.level record := by
  rw [output, h, Layout.line_standard]
  simp [Level.reaches, share, hbound]

/-- Only the handlers that write to the stream for errors add to it. -/
theorem join_errorOutput (handlers : List Handler) (record : Record) :
    String.join (handlers.map fun handler => handler.errorOutput record) =
      String.join ((handlers.filter fun handler => handler.sink = .errors).map
        fun handler => handler.output record) := by
  induction handlers with
  | nil => rfl
  | cons handler rest ih =>
    rw [List.map_cons, String.join_cons, ih]
    cases hsink : handler.sink <;> simp [errorOutput, hsink]

/-- A handler that is chosen has a stream of its own, to which nothing was written. -/
theorem written?_of_ofChoice {layout choice : Document}
    (h : ofChoice layout choice = .ok handler) : handler.written? = some "" := by
  rw [ofChoice] at h
  split at h <;> cases h
  rfl

/-- The streams of handlers go on when a record is written to them. -/
theorem goesOn_write (handlers : List Handler) (record : Record) :
    GoesOn (handlers.filterMap written?)
      ((handlers.map fun handler => handler.write record).filterMap written?) := by
  induction handlers with
  | nil => exact .nil []
  | cons handler rest ih =>
    rw [List.map_cons, List.filterMap_cons, List.filterMap_cons, written?_write]
    cases handler.written? with
    | none => exact ih
    | some written => exact .cons written (handler.output record) ih

end Handler

namespace Root

variable {root : Root} {level : Level} {record : Record} {handler : Handler}

/-- The text that a handler writes to. -/
def text (root : Root) (handler : Handler) : String := handler.written?.getD root.errors

/-- The handlers as they are seen from outside. -/
def outlets (root : Root) : List Outlet :=
  root.handlers.map fun handler => ⟨handler.level, root.text handler⟩

/-- A record that does not pass the root leaves no mark at all. -/
theorem emit_of_not_passes (h : ¬root.passes record.level) : root.emit record = root :=
  if_neg h

/-- With handlers, a record that passes goes to them and nowhere else. -/
theorem emit_of_passes (h : root.passes record.level) (hsome : root.handlers ≠ []) :
    root.emit record = { root with
      handlers := root.handlers.map fun handler => handler.write record
      errors := root.errors ++ String.join (root.errorHandlers.map
        fun handler => handler.output record) } := by
  rw [emit, if_pos h, if_neg hsome, Handler.join_errorOutput, errorHandlers]

/-- Of emitting, the root only sees the record.  Where no record can be made of level,
source and message, it is left as it is. -/
theorem apply_of_isEmit {change : Change} (h : change.isEmit) (root : Root) :
    (root.apply change).2 = (change.record?.map root.emit).getD root := by
  cases change with
  | emit value source message =>
    rw [apply, Change.record?]
    cases recordOf value source message <;> rfl
  | addHandler | ensure => cases h

/-- A root that was set up with a level. -/
structure SetUp (level : Level) (root : Root) : Prop where
  level_eq : root.level = level
  handlers_ne_nil : root.handlers ≠ []
  layout_eq : ∀ handler ∈ root.handlers, handler.layout = Layout.standard
  single : root.errorHandlers.length ≤ 1

namespace SetUp

/-- **Setting up does set up,** from whatever root there was: with a level that makes
sense, the root gets a handler if it has none, and all handlers get the standard
layout.  Only that no two of them write to the stream for errors has to be known
before. -/
theorem ensure {choice : Document} (hchoice : Level.Chooses choice level)
    (hsingle : root.errorHandlers.length ≤ 1) : SetUp level (root.ensure choice).2 := by
  have hafter : (root.ensure choice).2.errorHandlers.length ≤ 1 :=
    length_errorHandlers_after [.ensure choice] hsingle
  rw [ensure_of_chooses hchoice] at hafter ⊢
  refine ⟨rfl, ?_, ?_, hafter⟩
  · simpa [standardize, setLevel] using handlers_withHandler_ne_nil root
  · intro handler hmem
    obtain ⟨before, -, rfl⟩ := List.mem_map.1 hmem
    rfl

/-- A record changes neither the level nor the number of handlers nor their layouts,
so that a root that was set up stays so. -/
theorem emit (h : SetUp level root) (record : Record) : SetUp level (root.emit record) := by
  by_cases hpass : root.passes record.level
  · have hsingle := length_errorHandlers_emit root record
    rw [emit_of_passes hpass h.handlers_ne_nil] at hsingle ⊢
    refine ⟨h.level_eq, ?_, ?_, hsingle ▸ h.single⟩
    · simpa using h.handlers_ne_nil
    · intro handler hmem
      obtain ⟨before, hbefore, rfl⟩ := List.mem_map.1 hmem
      exact (Handler.layout_write before record).trans (h.layout_eq before hbefore)
  · rwa [emit_of_not_passes hpass]

/-- The same for a step of a history that emits a record, or fails to. -/
theorem apply (h : SetUp level root) {change : Change} (hchange : change.isEmit) :
    SetUp level (root.apply change).2 := by
  rw [apply_of_isEmit hchange]
  cases change.record? with
  | none => exact h
  | some record => exact h.emit record

/-- **A root that was set up stays so, whatever is emitted.**  Only another set-up or
another handler could change what it does with a record. -/
theorem after (h : SetUp level root) {changes : List Change}
    (hchanges : ∀ change ∈ changes, change.isEmit) : SetUp level (root.after changes) := by
  induction changes generalizing root with
  | nil => exact h
  | cons change rest ih =>
    have hnext := h.apply (hchanges change List.mem_cons_self)
    exact ih hnext fun later hmem => hchanges later (List.mem_cons_of_mem change hmem)

/-- For a root that was set up, whether a record passes is a matter of two ranks.
Records of rank zero are left out, since they pass no root. -/
theorem passes_iff (h : SetUp level root) (hpos : 1 ≤ record.level.rank) :
    root.passes record.level ↔ level.rank ≤ record.level.rank := by
  have hzero : 0 < record.level.rank := hpos
  simp [passes, Level.reaches, h.level_eq, hzero]

/-- There is no other handler for the stream for errors beside one. -/
theorem errorHandlers_eq (h : SetUp level root) (hmem : handler ∈ root.errorHandlers) :
    root.errorHandlers = [handler] := by
  obtain ⟨only, honly⟩ := List.length_eq_one_iff.1
    (Nat.le_antisymm h.single (List.length_pos_of_mem hmem))
  rw [honly] at hmem ⊢
  rw [List.mem_singleton.1 hmem]

/-- A record that passes is written once to the text of each handler: to a stream of its own
by the handler itself, and to the stream for errors because no other handler writes there. -/
theorem text_emit (h : SetUp level root) (hpass : root.passes record.level)
    (hmem : handler ∈ root.handlers) :
    (root.emit record).text (handler.write record) =
      root.text handler ++ handler.output record := by
  rw [text, text, Handler.written?_write]
  cases hsink : handler.sink with
  | stream written => simp [Handler.written?, hsink]
  | errors =>
    have herror : handler ∈ root.errorHandlers := by simp [errorHandlers, hmem, hsink]
    rw [emit_of_passes hpass h.handlers_ne_nil, h.errorHandlers_eq herror]
    simp [Handler.written?, hsink]

/-- **Each handler gets its share of a record once.**  The share is nothing where the
level of the handler is higher than that of the record. -/
theorem outlets_emit (h : SetUp level root) (hpos : 1 ≤ record.level.rank) :
    (root.emit record).outlets = root.outlets.map fun outlet => outlet.take level record := by
  by_cases hpass : root.passes record.level
  · have hbound := (h.passes_iff hpos).1 hpass
    have hhandlers : (root.emit record).handlers =
        root.handlers.map fun handler => handler.write record := by
      rw [emit_of_passes hpass h.handlers_ne_nil]
    rw [outlets, outlets, hhandlers, List.map_map, List.map_map]
    refine List.map_congr_left fun handler hmem => ?_
    have houtput := Handler.output_of_standard (h.layout_eq handler hmem) hbound
    simp [Handler.level_write, h.text_emit hpass hmem, houtput, Outlet.take]
  · have hbound : ¬level.rank ≤ record.level.rank := fun hle => hpass ((h.passes_iff hpos).2 hle)
    rw [emit_of_not_passes hpass]
    simp [Outlet.take, share_of_not_le hbound]

/-- The stream for errors gets the share of the handler that writes to it, if there is one. -/
theorem errors_emit (h : SetUp level root) (hpos : 1 ≤ record.level.rank) :
    (root.emit record).errors = root.errors ++
      String.join (root.errorHandlers.map fun handler => share level handler.level record) := by
  by_cases hpass : root.passes record.level
  · have hbound := (h.passes_iff hpos).1 hpass
    have hshares : root.errorHandlers.map (fun handler => handler.output record) =
        root.errorHandlers.map fun handler => share level handler.level record :=
      List.map_congr_left fun handler hmem =>
        Handler.output_of_standard (h.layout_eq handler (List.mem_filter.1 hmem).1) hbound
    rw [emit_of_passes hpass h.handlers_ne_nil, hshares]
  · have hbound : ¬level.rank ≤ record.level.rank := fun hle => hpass ((h.passes_iff hpos).2 hle)
    rw [emit_of_not_passes hpass, join_share_of_not_le hbound, String.append_empty]

/-- **Of a row of records each handler gets its shares, in their order and nothing
else.**  The induction is on the row, with a root that stays set up. -/
theorem outlets_after (h : SetUp level root) {changes : List Change}
    (hchanges : ∀ change ∈ changes, change.isEmit)
    (hpos : ∀ record ∈ emitted changes, 1 ≤ record.level.rank) :
    (root.after changes).outlets =
      root.outlets.map fun outlet => (emitted changes).foldl (Outlet.take level) outlet := by
  induction changes generalizing root with
  | nil => simp [Root.after, emitted]
  | cons change rest ih =>
    have hhead := hchanges change List.mem_cons_self
    have hrest := fun later hmem => hchanges later (List.mem_cons_of_mem change hmem)
    have hcons : root.after (change :: rest) = (root.apply change).2.after rest := rfl
    rw [hcons, apply_of_isEmit hhead]
    -- A step that cannot emit its record leaves the root as it is, and `emitted` passes over it.
    cases hrecord : change.record? with
    | none =>
      have hemitted : emitted (change :: rest) = emitted rest := by simp [emitted, hrecord]
      rw [hemitted] at hpos ⊢
      exact ih h hrest hpos
    | some record =>
      have hemitted : emitted (change :: rest) = record :: emitted rest := by
        simp [emitted, hrecord]
      rw [hemitted] at hpos ⊢
      have hlater := fun later hmem => hpos later (List.mem_cons_of_mem record hmem)
      rw [Option.map_some, Option.getD_some, ih (h.emit record) hrest hlater,
        h.outlets_emit (hpos record List.mem_cons_self), List.map_map]
      rfl

end SetUp

/-- A record is written to all handlers or to none, and the stream for errors goes on with
what is added to it. -/
theorem emit_cases (root : Root) (record : Record) : ∃ t,
    root.emit record = { root with errors := root.errors ++ t } ∨
    root.emit record = { root with
      handlers := root.handlers.map fun handler => handler.write record
      errors := root.errors ++ t } := by
  have hsame : root = { root with errors := root.errors ++ "" } := by rw [String.append_empty]
  rw [emit]
  split
  · split
    · split
      · exact ⟨record.message ++ "\n", .inl (by rw [String.append_assoc])⟩
      · exact ⟨"", .inl hsame⟩
    · exact ⟨_, .inr rfl⟩
  · exact ⟨"", .inl hsame⟩

/-- The stream for errors only grows, even when a record goes there for want of
handlers. -/
theorem exists_errors_emit (root : Root) (record : Record) :
    ∃ t, (root.emit record).errors = root.errors ++ t := by
  obtain ⟨t, h | h⟩ := emit_cases root record <;> exact ⟨t, by rw [h]⟩

/-- The streams of the handlers go on with a record. -/
theorem goesOn_emit (root : Root) (record : Record) :
    GoesOn root.streams (root.emit record).streams := by
  obtain ⟨t, h | h⟩ := emit_cases root record <;> rw [h]
  · exact .refl _
  · exact Handler.goesOn_write root.handlers record

/-- A record opens no stream, and closes none. -/
theorem length_streams_emit (root : Root) (record : Record) :
    (root.emit record).streams.length = root.streams.length := by
  obtain ⟨t, h | h⟩ := emit_cases root record <;> rw [h]
  · rfl
  · rw [streams, streams, List.filterMap_map, List.length_filterMap_eq_countP,
      List.length_filterMap_eq_countP]
    simp [Handler.written?_write]

/-- A handler that is added brings a stream of its own, empty and behind the others. -/
theorem streams_addHandler (h : handler.written? = some "") :
    (root.addHandler handler).streams = root.streams ++ [""] := by
  simp [streams, addHandler, h]

/-- The layout of handlers does not matter to what they have written. -/
theorem streams_standardize (root : Root) : root.standardize.streams = root.streams := by
  rw [streams, standardize, List.filterMap_map]
  rfl

/-- Setting up touches no stream.  The handler that it may add writes to the stream
for errors, which is not counted among the streams of handlers. -/
theorem streams_ensure (root : Root) (choice : Document) :
    (root.ensure choice).2.streams = root.streams := by
  by_cases hnil : root.handlers = []
  · simp [streams, handlers_ensure_of_nil hnil, hnil, errorHandler, Handler.written?]
  · rcases ensure_of_ne_nil hnil choice with ⟨level, -, heq⟩ | ⟨-, fault, heq⟩
    · rw [heq]
      exact streams_standardize (root.setLevel level)
    · rw [heq]

/-- Nor does it write to the stream for errors, whether it succeeds or not. -/
theorem errors_ensure (root : Root) (choice : Document) :
    (root.ensure choice).2.errors = root.errors := by
  by_cases hnil : root.handlers = []
  · simp only [ensure, if_pos hnil, install]
    split
    · rfl
    · split <;> rfl
  · rcases ensure_of_ne_nil hnil choice with ⟨level, -, heq⟩ | ⟨-, fault, heq⟩ <;> rw [heq]
    rfl

/-- A step that emits nothing at most adds an empty stream. -/
theorem streams_apply {change : Change} (h : ¬change.isEmit) (root : Root) :
    (root.apply change).2.streams = root.streams ++
      if Diary.opens change && (root.apply change).1.isOk then [""] else [] := by
  cases change with
  | addHandler layout choice =>
    rw [apply]
    cases hhandler : Handler.ofChoice layout choice with
    | ok handler => exact streams_addHandler (Handler.written?_of_ofChoice hhandler)
    | error fault => exact (List.append_nil _).symm
  | ensure choice => exact (streams_ensure root choice).trans (List.append_nil _).symm
  | emit => exact absurd rfl h

theorem errors_apply {change : Change} (h : ¬change.isEmit) (root : Root) :
    (root.apply change).2.errors = root.errors := by
  cases change with
  | addHandler layout choice =>
    rw [apply]
    cases Handler.ofChoice layout choice <;> rfl
  | ensure choice => exact errors_ensure root choice
  | emit => exact absurd rfl h

end Root

namespace Diary

variable {diary : Diary}

/-- All texts that are written to: the stream for errors, and the streams that were opened
for handlers. -/
def outputs (diary : Diary) : List String := diary.root.errors :: diary.streams

/-- The streams that are kept are those that handlers write to. -/
def Balanced (diary : Diary) : Prop :=
  diary.opened.count true = diary.root.streams.length

theorem balanced_empty : Balanced {} := rfl

/-- Places of streams that were not kept show as empty texts before and after, so that
they do not disturb the comparison. -/
theorem goesOn_fillIn (opened : List Bool) {before after : List String}
    (h : GoesOn before after) : GoesOn (fillIn opened before) (fillIn opened after) := by
  induction opened generalizing before after with
  | nil => exact .nil _
  | cons kept rest ih =>
    cases kept with
    | false => exact .same "" (ih h)
    | true =>
      cases h with
      | cons s t hrest => exact .cons s t (ih hrest)
      | nil =>
        -- There was no text for this place, so that it showed as empty.
        cases after with
        | nil => exact .refl _
        | cons s texts => simpa [fillIn] using GoesOn.cons "" s (ih (.nil texts))

/-- A stream that is opened comes behind those that there are. -/
theorem fillIn_concat {opened : List Bool} {streams : List String}
    (h : opened.count true = streams.length) (kept : Bool) :
    fillIn (opened ++ [kept]) (streams ++ if kept then [""] else []) =
      fillIn opened streams ++ [""] := by
  induction opened generalizing streams with
  | nil =>
    obtain rfl : streams = [] := List.length_eq_zero_iff.1 h.symm
    cases kept <;> rfl
  | cons first rest ih =>
    cases first with
    | false =>
      simp only [List.cons_append, fillIn]
      rw [ih (by simpa using h)]
    | true =>
      cases streams with
      | nil => simp at h
      | cons s streams =>
        simp only [List.cons_append, fillIn]
        rw [ih (by simpa using h)]

/-- The diary only watches: its root goes through the same steps as a root alone. -/
theorem root_apply (diary : Diary) (change : Change) :
    (diary.apply change).2.root = (diary.root.apply change).2 := rfl

/-- An attempt to open a stream is noted down, together with whether it succeeded; any
other step leaves the notes as they are. -/
theorem opened_apply (diary : Diary) (change : Change) :
    (diary.apply change).2.opened = if opens change then
      diary.opened ++ [(diary.root.apply change).1.isOk] else diary.opened := rfl

theorem opened_of_isEmit {change : Change} (h : change.isEmit) (diary : Diary) :
    (diary.apply change).2.opened = diary.opened := by
  cases change with
  | emit => rfl
  | addHandler | ensure => cases h

/-- **A step keeps the diary balanced.**  A stream that is noted as opened is one that
a handler has from then on. -/
theorem Balanced.apply (h : diary.Balanced) (change : Change) :
    (diary.apply change).2.Balanced := by
  by_cases hchange : change.isEmit
  · rw [Balanced, opened_of_isEmit hchange, root_apply, Root.apply_of_isEmit hchange]
    cases change.record? with
    | none => exact h
    | some record => exact h.trans (Root.length_streams_emit diary.root record).symm
  · rw [Balanced] at h
    rw [Balanced, opened_apply, root_apply, Root.streams_apply hchange]
    cases opens change with
    | false => simpa using h
    | true => cases (diary.root.apply change).1.isOk <;> simp [h]

/-- So the diary is balanced after any history, whatever failed in it. -/
theorem Balanced.after (h : diary.Balanced) (changes : List Change) :
    (diary.after changes).Balanced := by
  induction changes generalizing diary with
  | nil => exact h
  | cons change rest ih => exact ih (h.apply change)

/-- A step that emits nothing leaves all texts as they are; at most one more is opened. -/
theorem outputs_of_not_emit (h : diary.Balanced) {change : Change} (hchange : ¬change.isEmit) :
    (diary.apply change).2.outputs = diary.outputs ++ if opens change then [""] else [] := by
  rw [outputs, outputs, streams, streams, opened_apply, root_apply,
    Root.errors_apply hchange, Root.streams_apply hchange]
  cases opens change with
  | false => simp
  | true => simpa using fillIn_concat h (diary.root.apply change).1.isOk

/-- One step of a history, for all texts at once: either a record is written to them,
or a text is opened behind them. -/
theorem goesOn_apply (h : diary.Balanced) (change : Change) :
    GoesOn diary.outputs (diary.apply change).2.outputs := by
  by_cases hchange : change.isEmit
  · rw [outputs, outputs, streams, streams, opened_of_isEmit hchange, root_apply,
      Root.apply_of_isEmit hchange]
    cases change.record? with
    | none => exact .refl _
    | some record =>
      obtain ⟨t, ht⟩ := Root.exists_errors_emit diary.root record
      rw [Option.map_some, Option.getD_some, ht]
      exact .cons _ t (goesOn_fillIn diary.opened (Root.goesOn_emit diary.root record))
  · rw [outputs_of_not_emit h hchange]
    exact .append _ _

/-- **The texts only grow.**  What a handler or the stream for errors has been given
is there for good, and later text stands behind it. -/
theorem goesOn_after (h : diary.Balanced) (changes : List Change) :
    GoesOn diary.outputs (diary.after changes).outputs := by
  induction changes generalizing diary with
  | nil => exact .refl _
  | cons change rest ih => exact (goesOn_apply h change).trans (ih (h.apply change))

/-- After a whole history the root of the diary is the root that the history alone
would have led to. -/
theorem root_after (diary : Diary) (changes : List Change) :
    (diary.after changes).root = diary.root.after changes := by
  induction changes generalizing diary with
  | nil => rfl
  | cons change rest ih => exact ih (diary.apply change).2

/-- **No record is lost or doubled once the log is set up.**  After any history, setting up
with a level that makes sense succeeds, and then there are handlers, of which at most one
writes to the stream for errors, whatever is emitted.  A record that is emitted next is
added once to the text of each handler that it is for, as a line in the standard layout,
whatever layout the handler had; the stream for errors gets what the handler for it writes,
and nothing else.  So in the end each handler has its shares of all records that were
emitted, in their order.  And after any history the texts only grow, and a step that emits
no record leaves them as they are. -/
theorem written_once (history : List Change) :
    let start := after {} history
    (∀ choice level, Level.Chooses choice level →
      let ready := start.apply (.ensure choice)
      ready.1 = .ok () ∧
      ∀ later : List Change, (∀ change ∈ later, change.isEmit) →
        let diary := ready.2.after later
        diary.root.handlers ≠ [] ∧
        diary.root.errorHandlers.length ≤ 1 ∧
        (∀ value source message record, recordOf value source message = .ok record →
          1 ≤ record.level.rank →
            ∃ next, diary.apply (.emit value source message) = (.ok (), next) ∧
              next.root.outlets = diary.root.outlets.map
                (fun outlet => outlet.take level record) ∧
              next.root.errors = diary.root.errors ++ String.join (diary.root.errorHandlers.map
                fun handler => share level handler.level record)) ∧
        ((∀ record ∈ emitted later, 1 ≤ record.level.rank) →
          diary.root.outlets = ready.2.root.outlets.map
            fun outlet => (emitted later).foldl (Outlet.take level) outlet)) ∧
    (∀ more, GoesOn start.outputs (start.after more).outputs) ∧
    (∀ change, ¬change.isEmit → (start.apply change).2.outputs =
      start.outputs ++ if opens change then [""] else []) := by
  intro start
  have hbalanced : start.Balanced := balanced_empty.after history
  refine ⟨?_, goesOn_after hbalanced, fun change => outputs_of_not_emit hbalanced⟩
  intro choice level hchoice ready
  have hsingle : start.root.errorHandlers.length ≤ 1 := by
    rw [root_after]
    exact Root.length_errorHandlers_after history (Nat.zero_le 1)
  have hready : Root.SetUp level ready.2.root := Root.SetUp.ensure hchoice hsingle
  refine ⟨?_, fun later hlater => ?_⟩
  · have hensure : (start.root.ensure choice).1 = .ok () := by
      rw [Root.ensure_of_chooses hchoice]
    have houtcome : ready.1 = Fault.ofLevel (start.root.ensure choice).1 := rfl
    rw [houtcome, hensure, Fault.ofLevel]
  intro diary
  have hroot : diary.root = ready.2.root.after later := root_after ready.2 later
  -- From here on the root is set up, and what is emitted does not change that.
  have hset : Root.SetUp level diary.root := by
    rw [hroot]
    exact hready.after hlater
  refine ⟨hset.handlers_ne_nil, hset.single, ?_, fun hpos => ?_⟩
  · intro value source message record hrecord hpos
    have hemit : diary.root.apply (.emit value source message) =
        (.ok (), diary.root.emit record) := by
      rw [Root.apply, hrecord]
    refine ⟨⟨diary.root.emit record, diary.opened⟩, ?_, ?_, ?_⟩
    · rw [apply, hemit]
      rfl
    · exact hset.outlets_emit hpos
    · exact hset.errors_emit hpos
  · rw [hroot]
    exact hready.outlets_after hlater hpos

/-- A set-up that failed left its handler, and another one came with a layout and a level of
its own.  Once the log is set up, two records are written where they are to be; and a
handler that comes before that finds no text. -/
theorem written_once_two :
    let history : List Change :=
      [.ensure (.text "LOUD"), .addHandler (.text "%(message)s") (.int 30)]
    let later : List Change := [.emit (.int 20) (.text "first source") (.text "begun")]
    let third : Change := .addHandler .null (.int 0)
    let next := ((((after {} history).apply (.ensure (.text "INFO"))).2.after later).apply
      (.emit (.int 30) (.text "second source") (.text "half full"))).2
    Level.Chooses (.text "INFO") Level.info ∧
      (∀ change ∈ later, change.isEmit) ∧ (∀ record ∈ emitted later, 1 ≤ record.level.rank) ∧
      next.root.outlets = [
        ⟨Level.notset, "INFO: begun\nWARNING: half full\n"⟩,
        ⟨Level.warning, "WARNING: half full\n"⟩] ∧
      ¬third.isEmit ∧ ((after {} history).apply third).2.outputs = ["", "", ""] := by
  intro history later third next
  have hchoice : Level.Chooses (.text "INFO") Level.info := .name (by decide)
  have hlater : ∀ change ∈ later, change.isEmit := by simp [later, Change.isEmit]
  have hpos : ∀ record ∈ emitted later, 1 ≤ record.level.rank := by decide
  have hthird : ¬third.isEmit := Bool.false_ne_true
  obtain ⟨hready, -, hquiet⟩ := written_once history
  obtain ⟨-, hdiary⟩ := hready _ _ hchoice
  obtain ⟨-, -, hemit, hrun⟩ := hdiary later hlater
  obtain ⟨found, hfound, houtlets, -⟩ := hemit (.int 30) (.text "second source")
    (.text "half full") _ rfl (by decide)
  have hnext : next = found := congrArg Prod.snd hfound
  rw [hrun hpos, ← hnext] at houtlets
  refine ⟨hchoice, hlater, hpos, houtlets.trans ?_, hthird, (hquiet third hthird).trans ?_⟩
  · decide +kernel
  · decide +kernel

end Diary

end ZonalBucket.Log
