import ZonalBucket.Client

/-!
# How a trace grows

A run takes nothing back of what the trace tells; it adds a piece of its own.
`Action.Adds` says of an action that the piece which each of its runs adds has some
property, and that property may depend on what the run ended in.  There is one rule
for each way to put actions together, so that a property of a long run follows from
those of its parts.

What is asked most often is which calls a run makes.  `Action.Makes` tells of the calls
of a run that ends in a value, and of those of a run that fails; it has its own rules.
`Action.Reports` tells the same of the records.
-/

namespace ZonalBucket

/-- Whether a call came back with an answer. -/
def Exchange.isAnswered (e : Exchange) : Bool := e.outcome.isOk

namespace Trace

/-- A trace that goes on with another one. -/
def append (s t : Trace) : Trace where
  exchanges := s.exchanges ++ t.exchanges
  requests := s.requests ++ t.requests
  records := s.records ++ t.records
  entered := s.entered + t.entered
  exited := s.exited + t.exited

@[simp] theorem append_empty (t : Trace) : t.append {} = t := by
  simp [append]

@[simp] theorem exchanges_append (s t : Trace) :
    (s.append t).exchanges = s.exchanges ++ t.exchanges := rfl

@[simp] theorem records_append (s t : Trace) :
    (s.append t).records = s.records ++ t.records := rfl

/-- The calls of two pieces come one after the other. -/
@[simp] theorem calls_append (s t : Trace) : (s.append t).calls = s.calls ++ t.calls := by
  simp [calls]

/-- A trace does not tell how it was put together. -/
theorem append_assoc (s t u : Trace) : (s.append t).append u = s.append (t.append u) := by
  simp [append, Nat.add_assoc]

/-- The piece behind a trace is known from the whole. -/
theorem append_left_cancel {s t u : Trace} (h : s.append t = s.append u) : t = u := by
  cases t
  cases u
  simpa [append] using h

end Trace

namespace World

/-- The world after more was done. -/
def tell (w : World) (t : Trace) : World := { w with trace := w.trace.append t }

@[simp] theorem tell_store (w : World) (t : Trace) : (w.tell t).store = w.store := rfl

@[simp] theorem tell_script (w : World) (t : Trace) : (w.tell t).script = w.script := rfl

@[simp] theorem tell_limits (w : World) (t : Trace) : (w.tell t).limits = w.limits := rfl

@[simp] theorem tell_trace (w : World) (t : Trace) : (w.tell t).trace = w.trace.append t := rfl

/-- What is told in two goes is told at once. -/
@[simp] theorem tell_tell (w : World) (s t : Trace) :
    (w.tell s).tell t = w.tell (s.append t) := by
  simp [tell, Trace.append_assoc]

@[simp] theorem tell_empty (w : World) : w.tell {} = w := by
  simp [tell]

/-- The note of a call is a piece with one exchange. -/
theorem noteCall_eq_tell (w : World) (call : Call) (outcome : Outcome Document) :
    w.noteCall call outcome = w.tell { exchanges := [⟨call, outcome⟩] } := by
  simp [noteCall, tell, Trace.append]

theorem noteRecord_eq_tell (w : World) (record : Record) :
    w.noteRecord record = w.tell { records := [record] } := by
  simp [noteRecord, tell, Trace.append]

end World

namespace Action

variable {α β : Type}

/-- Whatever world a run starts in, the piece that it adds to the trace has a property,
together with what the run ended in. -/
def Adds (action : Action α) (P : Outcome α → Trace → Prop) : Prop :=
  ∀ w, ∃ t, (action w).2.trace = w.trace.append t ∧ P (action w).1 t

/-- Of the piece that a run adds less may be told than is known. -/
theorem Adds.weaken {action : Action α} {P Q : Outcome α → Trace → Prop}
    (h : action.Adds P) (himp : ∀ outcome t, P outcome t → Q outcome t) : action.Adds Q := by
  intro w
  obtain ⟨t, ht, hP⟩ := h w
  exact ⟨t, ht, himp _ _ hP⟩

/-- Two things can be said of one piece, since a run adds only one. -/
theorem Adds.and {action : Action α} {P Q : Outcome α → Trace → Prop} (hP : action.Adds P)
    (hQ : action.Adds Q) : action.Adds fun outcome t => P outcome t ∧ Q outcome t := by
  intro w
  obtain ⟨t, ht, hPt⟩ := hP w
  obtain ⟨u, hu, hQu⟩ := hQ w
  obtain rfl : t = u := Trace.append_left_cancel (ht.symm.trans hu)
  exact ⟨t, ht, hPt, hQu⟩

/-- An action that leaves the trace alone adds an empty piece. -/
theorem Adds.of_trace_eq {action : Action α} {P : Outcome α → Trace → Prop}
    (htrace : ∀ w, (action w).2.trace = w.trace) (hP : ∀ w, P (action w).1 {}) :
    action.Adds P := by
  intro w
  exact ⟨{}, by rw [htrace, Trace.append_empty], hP w⟩

/-- What a run adds that is known as a whole. -/
theorem Adds.of_eq_tell {action : Action α} {P : Outcome α → Trace → Prop} {outcome : Outcome α}
    {t : Trace} (h : ∀ w, action w = (outcome, w.tell t)) (hP : P outcome t) : action.Adds P := by
  intro w
  rw [h]
  exact ⟨t, rfl, hP⟩

/-- A report adds its record and nothing else, and it cannot fail. -/
theorem Adds.report {P : Outcome Unit → Trace → Prop} {level : Level} {source : Source}
    {message : String}
    (hP : P (.ok ()) { records := [{ level := level, source := source, message := message }] }) :
    (Action.report level source message).Adds P := by
  intro w
  refine ⟨_, ?_, hP⟩
  exact congrArg World.trace (World.noteRecord_eq_tell w _)

/-- A call adds itself, with what it came to.  This is so for an answer of the store,
for one that is laid down and for a failure. -/
theorem Adds.invoke {P : Outcome Document → Trace → Prop} {call : Call}
    (hP : ∀ outcome, P outcome { exchanges := [⟨call, outcome⟩] }) :
    (Client.invoke call).Adds P := by
  intro w
  have hkept := Client.answered_trace call (w.nextAnswer call.slot) (w.visit call.slot)
  cases hrun : Client.answered call (w.nextAnswer call.slot) (w.visit call.slot) with
  | mk outcome v =>
    rw [hrun] at hkept
    refine ⟨{ exchanges := [⟨call, outcome⟩] }, ?_, ?_⟩
    · rw [Client.invoke_of_answered hrun, World.noteCall_eq_tell, World.tell_trace, hkept]
      rfl
    · rw [Client.invoke_of_answered hrun]
      exact hP outcome

/-- What a run adds before it goes on stands before what it adds then. -/
theorem Adds.bind {action : Action α} {next : α → Action β} {P : Outcome α → Trace → Prop}
    {Q : Outcome β → Trace → Prop} (h : action.Adds P)
    (hfail : ∀ failure s, P (.error failure) s → Q (.error failure) s)
    (hnext : ∀ a, (next a).Adds fun outcome t => ∀ s, P (.ok a) s → Q outcome (s.append t)) :
    (action >>= next).Adds Q := by
  intro w
  obtain ⟨s, hs, hP⟩ := h w
  cases hrun : action w with
  | mk outcome v =>
    rw [hrun] at hs hP
    cases outcome with
    | error failure =>
      rw [bind_of_error next hrun]
      exact ⟨s, hs, hfail failure s hP⟩
    | ok a =>
      obtain ⟨t, ht, hQ⟩ := hnext a v
      rw [bind_of_ok next hrun]
      refine ⟨s.append t, ?_, hQ s hP⟩
      rw [ht, hs, Trace.append_assoc]

/-- What is true of two pieces and of both together is true of a run of two actions. -/
theorem Adds.bind_append {action : Action α} {next : α → Action β} {P : Trace → Prop}
    (happend : ∀ s t, P s → P t → P (s.append t)) (h : action.Adds fun _ t => P t)
    (hnext : ∀ a, (next a).Adds fun _ t => P t) : (action >>= next).Adds fun _ t => P t := by
  refine Adds.bind h (fun _ _ hs => hs) fun a => ?_
  exact (hnext a).weaken fun _ t ht s hs => happend s t hs ht

/-- Of what a run adds only its last part may count. -/
theorem Adds.bind_last {action : Action α} {next : α → Action β}
    {Q : Outcome β → Trace → Prop} (h : action.Adds fun _ _ => True)
    (hfail : ∀ failure s, Q (.error failure) s)
    (hbehind : ∀ outcome (s t : Trace), Q outcome t → Q outcome (s.append t))
    (hnext : ∀ a, (next a).Adds Q) : (action >>= next).Adds Q := by
  refine Adds.bind h (fun failure s _ => hfail failure s) fun a => ?_
  exact (hnext a).weaken fun outcome t ht s _ => hbehind outcome s t ht

/-- The record of something that happened. -/
def infoRecord (source : Source) (message : String) : Record where
  level := Level.info
  source := source
  message := message

/-- The record of a refusal, which ends with the message and the code of its detail. -/
def refusalRecord (source : Source) (what : String) (fault : ServiceFault) : Record where
  level := Level.error
  source := source
  message := what ++ ": " ++ fault.detail.message ++ " - Error code: " ++ fault.detail.code

/-- What is reported of a failure.  Only refusals are. -/
def refusalRecords (source : Source) (what : String) : Failure → List Record
  | .refused fault => [refusalRecord source what fault]
  | _ => []

/-- What is reported behind a run that ended so, when refusals are passed on. -/
def passedRecords (source : Source) (what : String) : Outcome α → List Record
  | .ok _ => []
  | .error failure => refusalRecords source what failure

/-- Nothing is reported of failures that are no refusals. -/
theorem refusalRecords_of_other {failure : Failure} (source : Source) (what : String)
    (hother : ∀ fault, failure ≠ .refused fault) : refusalRecords source what failure = [] := by
  cases failure with
  | refused fault => exact absurd rfl (hother fault)
  | _ => rfl

/-- Only refusals are reported.  Calls that did not get through and values pass
without a record. -/
theorem passedRecords_of_other {outcome : Outcome α} (source : Source) (what : String)
    (hother : ∀ fault, outcome ≠ .error (.refused fault)) :
    passedRecords source what outcome = [] := by
  cases outcome with
  | ok a => rfl
  | error failure =>
    exact refusalRecords_of_other source what fun fault heq => hother fault (heq ▸ rfl)

/-- A report as a whole: it never fails, and adds one record. -/
theorem info_eq_tell (source : Source) (message : String) (w : World) :
    info source message w = (.ok (), w.tell { records := [infoRecord source message] }) :=
  congrArg (Prod.mk _) (World.noteRecord_eq_tell w _)

/-- The report of a refusal as a whole.  Its record has the words of the detail, and
those alone. -/
theorem reportRefusal_eq_tell (source : Source) (what : String) (fault : ServiceFault)
    (w : World) : reportRefusal source what fault w =
      (.ok (), w.tell { records := [refusalRecord source what fault] }) :=
  congrArg (Prod.mk _) (World.noteRecord_eq_tell w _)

/-- Reporting a refusal and failing with it, as a whole: the failure is the refusal
itself and not its report. -/
theorem failRefused_eq_tell (source : Source) (what : String) (fault : ServiceFault) (w : World) :
    (failRefused source what fault : Action α) w =
      (.error (.refused fault), w.tell { records := [refusalRecord source what fault] }) :=
  congrArg (Prod.mk _) (World.noteRecord_eq_tell w _)

/-- **Passing a refusal on** changes neither how a run ends nor what it does; a refusal leaves
a record. -/
theorem passRefusal_eq_tell (action : Action α) (source : Source) (what : String) (w : World) :
    action.onRefusal (failRefused source what) w = ((action w).1,
      (action w).2.tell { records := passedRecords source what (action w).1 }) := by
  cases hrun : action w with
  | mk outcome v =>
    rcases onRefusal_cases (failRefused source what) hrun with ⟨fault, rfl, hend⟩ | ⟨hother, hend⟩
    · rw [hend]
      exact failRefused_eq_tell source what fault v
    · rw [hend, passedRecords_of_other source what hother]
      exact congrArg (Prod.mk outcome) (World.tell_empty v).symm

/-- Passing a refusal on adds its record behind the rest. -/
theorem Adds.passRefusal {action : Action α} {P Q : Outcome α → Trace → Prop} (h : action.Adds P)
    {source : Source} {what : String}
    (hrecord : ∀ outcome t, P outcome t →
      Q outcome (t.append { records := passedRecords source what outcome })) :
    (action.onRefusal (failRefused source what)).Adds Q := by
  intro w
  obtain ⟨t, ht, hP⟩ := h w
  rw [passRefusal_eq_tell]
  refine ⟨_, ?_, hrecord _ t hP⟩
  rw [World.tell_trace, ht, Trace.append_assoc]

/-- Reporting a refusal and failing with it adds its record. -/
theorem Adds.failRefused {P : Outcome α → Trace → Prop} {source : Source} {what : String}
    {fault : ServiceFault}
    (hP : ∀ record : Record, P (.error (.refused fault)) { records := [record] }) :
    (failRefused source what fault : Action α).Adds P := by
  intro w
  rw [failRefused_eq_tell]
  exact ⟨_, rfl, hP _⟩

/-- A handler for refusals adds its piece behind the one of the run that was refused. -/
theorem Adds.onRefusal {action : Action α} {handler : ServiceFault → Action α}
    {P Q : Outcome α → Trace → Prop} (h : action.Adds P)
    (hkeep : ∀ outcome s, P outcome s → (∀ fault, outcome ≠ .error (.refused fault)) →
      Q outcome s)
    (hhandler : ∀ fault, (handler fault).Adds fun outcome t =>
      ∀ s, P (.error (.refused fault)) s → Q outcome (s.append t)) :
    (action.onRefusal handler).Adds Q := by
  intro w
  obtain ⟨s, hs, hP⟩ := h w
  cases hrun : action w with
  | mk outcome v =>
    rw [hrun] at hs hP
    rcases onRefusal_cases handler hrun with ⟨fault, rfl, hend⟩ | ⟨hother, hend⟩
    · obtain ⟨t, ht, hQ⟩ := hhandler fault v
      rw [hend]
      refine ⟨s.append t, ?_, hQ s hP⟩
      rw [ht, hs, Trace.append_assoc]
    · rw [hend]
      exact ⟨s, hs, hkeep outcome s hP hother⟩

/-- A handler for failures adds its piece behind the one of the run that failed. -/
theorem Adds.recovering {action : Action α} {handler : Failure → Action α}
    {P Q : Outcome α → Trace → Prop} (h : action.Adds P)
    (hkeep : ∀ a s, P (.ok a) s → Q (.ok a) s)
    (hhandler : ∀ failure, (handler failure).Adds fun outcome t =>
      ∀ s, P (.error failure) s → Q outcome (s.append t)) :
    (action.recovering handler).Adds Q := by
  intro w
  obtain ⟨s, hs, hP⟩ := h w
  cases hrun : action w with
  | mk outcome v =>
    rw [hrun] at hs hP
    cases outcome with
    | ok a =>
      rw [recovering_of_ok handler hrun]
      exact ⟨s, hs, hkeep a s hP⟩
    | error failure =>
      obtain ⟨t, ht, hQ⟩ := hhandler failure v
      rw [recovering_of_error handler hrun]
      refine ⟨s.append t, ?_, hQ s hP⟩
      rw [ht, hs, Trace.append_assoc]

/-- A last action that never fails adds its piece, and the outcome stays. -/
theorem Adds.ensuring {action : Action α} {last : Action Unit} {P Q : Outcome α → Trace → Prop}
    (h : action.Adds P) (hnever : ∀ w, (last w).1 = .ok ())
    (hlast : last.Adds fun _ t => ∀ outcome s, P outcome s → Q outcome (s.append t)) :
    (action.ensuring last).Adds Q := by
  intro w
  obtain ⟨s, hs, hP⟩ := h w
  cases hrun : action w with
  | mk outcome v =>
    rw [hrun] at hs hP
    obtain ⟨t, ht, hQ⟩ := hlast v
    have hend : last v = (.ok (), (last v).2) := Prod.ext (hnever v) rfl
    rw [ensuring_of_ok hrun hend]
    refine ⟨s.append t, ?_, hQ outcome s hP⟩
    rw [ht, hs, Trace.append_assoc]

/-- All records that a run adds have a property. -/
def Reports (action : Action α) (R : Record → Prop) : Prop :=
  action.Adds fun _ t => ∀ record ∈ t.records, R record

section Reports

variable {R S : Record → Prop}

/-- Of the records of a run less may be told than is known. -/
theorem Reports.weaken {action : Action α} (h : action.Reports R) (himp : ∀ record, R record →
    S record) : action.Reports S :=
  Adds.weaken h fun _ _ ht record hrecord => himp record (ht record hrecord)

/-- Nothing is reported where the trace does not grow, whatever else the run changes. -/
theorem Reports.of_trace_eq {action : Action α} (htrace : ∀ w, (action w).2.trace = w.trace) :
    action.Reports R :=
  Adds.of_trace_eq htrace fun w record hrecord => by simp at hrecord

/-- A call reports nothing by itself. -/
theorem Reports.invoke (call : Call) : (Client.invoke call).Reports R :=
  Adds.invoke fun _ record hrecord => by simp at hrecord

/-- A record that is known: the whole run is the telling of some records, so that
these can be looked at. -/
theorem Reports.of_tell {action : Action α} (records : List Record)
    (h : ∀ w, (action w).2 = w.tell { records := records }) (hR : ∀ record ∈ records, R record) :
    action.Reports R := by
  intro w
  rw [h]
  exact ⟨_, rfl, hR⟩

/-- The records of a run are those of its parts. -/
theorem Reports.bind {action : Action α} {next : α → Action β} (h : action.Reports R)
    (hnext : ∀ a, (next a).Reports R) : (action >>= next).Reports R := by
  refine Adds.bind_append (fun s t hs ht record hrecord => ?_) h hnext
  exact (List.mem_append.1 hrecord).elim (hs record) (ht record)

end Reports

/-- Of two properties the one that counts for a run that ended so. -/
def forOutcome (done failed : Exchange → Prop) : Outcome α → Exchange → Prop
  | .ok _ => done
  | .error _ => failed

/-- The calls of a run that ends in a value have one property, and those of a run that
fails another one. -/
def Makes (action : Action α) (done failed : Exchange → Prop) : Prop :=
  action.Adds fun outcome t => ∀ e ∈ t.exchanges, forOutcome done failed outcome e

section Makes

variable {done failed : Exchange → Prop}

/-- Nothing is called where the trace does not grow, whatever else the run changes. -/
theorem Makes.of_trace_eq {action : Action α} (htrace : ∀ w, (action w).2.trace = w.trace) :
    action.Makes done failed :=
  Adds.of_trace_eq htrace fun w e he => by simp at he

/-- No call is made to give a value. -/
theorem Makes.pure (a : α) : (pure a : Action α).Makes done failed :=
  .of_trace_eq fun _ => rfl

theorem Makes.ofOutcome (outcome : Outcome α) : (ofOutcome outcome).Makes done failed :=
  .of_trace_eq fun _ => rfl

theorem Makes.look (f : World → α) : (look f).Makes done failed :=
  .of_trace_eq fun _ => rfl

theorem Makes.report (level : Level) (source : Source) (message : String) :
    (report level source message).Makes done failed :=
  Adds.report fun e he => by simp at he

/-- One call, which came to an answer or failed.  The two are told apart, since a call
that failed may only be the last one of a run. -/
theorem Makes.invoke {call : Call} (hdone : ∀ answer, done ⟨call, .ok answer⟩)
    (hfailed : ∀ failure, failed ⟨call, .error failure⟩) :
    (Client.invoke call).Makes done failed := by
  refine Adds.invoke fun outcome e he => ?_
  obtain rfl : e = ⟨call, outcome⟩ := by simpa using he
  cases outcome with
  | ok answer => exact hdone answer
  | error failure => exact hfailed failure

/-- The calls of a run that went on, when a failure may follow whatever went well. -/
theorem Makes.join (himp : ∀ e, done e → failed e) {s t : Trace} {outcome : Outcome β}
    (hs : ∀ e ∈ s.exchanges, done e)
    (ht : ∀ e ∈ t.exchanges, forOutcome done failed outcome e) :
    ∀ e ∈ (s.append t).exchanges, forOutcome done failed outcome e := by
  intro e he
  rcases List.mem_append.1 he with he | he
  · cases outcome with
    | ok b => exact hs e he
    | error failure => exact himp e (hs e he)
  · exact ht e he

/-- One run after another one.  When the first one fails nothing follows, and when it
ends in a value all its calls were done; these may count as failed ones too, as the
condition says. -/
theorem Makes.bind (himp : ∀ e, done e → failed e) {action : Action α} {next : α → Action β}
    (h : action.Makes done failed) (hnext : ∀ a, (next a).Makes done failed) :
    (action >>= next).Makes done failed := by
  refine Adds.bind h (fun failure s hs => hs) fun a => ?_
  exact (hnext a).weaken fun outcome t ht s hs => Makes.join himp hs ht

/-- A refusal that is kept as a value changes nothing about the calls. -/
theorem Makes.attempt {action : Action α} (h : action.Makes failed failed) :
    action.attempt.Makes failed failed := by
  intro w
  obtain ⟨t, ht, hcalls⟩ := h w
  cases hrun : action w with
  | mk outcome v =>
    rw [hrun] at ht hcalls
    rw [attempt_of_run hrun]
    refine ⟨t, ht, fun e he => ?_⟩
    have hfailed : failed e := by
      have hcall := hcalls e he
      cases outcome <;> exact hcall
    cases keepRefusal outcome <;> exact hfailed

/-- A handler for refusals goes on with calls of the same kind. -/
theorem Makes.onRefusal {action : Action α} {handler : ServiceFault → Action α}
    (h : action.Makes failed failed) (hhandler : ∀ fault, (handler fault).Makes failed failed) :
    (action.onRefusal handler).Makes failed failed := by
  refine Adds.onRefusal h (fun outcome s hs _ => hs) fun fault => ?_
  exact (hhandler fault).weaken fun outcome t ht s hs => Makes.join (fun _ he => he) hs ht

/-- Reporting a refusal and failing with it changes nothing about the calls. -/
theorem Makes.passRefusal {action : Action α} (h : action.Makes done failed) (source : Source)
    (what : String) : (action.onRefusal (failRefused source what)).Makes done failed := by
  refine Adds.onRefusal h (fun outcome s hs _ => hs) fun fault => ?_
  refine Adds.failRefused fun record s hs e he => ?_
  have he' : e ∈ s.exchanges := by simpa using he
  exact hs e he'

end Makes

end Action

end ZonalBucket
