import ZonalBucket.Proofs.ClientBlocks
import ZonalBucket.Proofs.RouteAnswers
import ZonalBucket.Proofs.SessionRuns

/-!
# Clients are left again

A client block requests one client, enters it when the request went through, and leaves it
when the entry returned, whatever happened in between, `Client.during_usesClient`.  Around
the block there are only reports, so that each service call, request and program is such a
block or nothing but reports.  The configuration that counts is `Step.clientConfig`.

For sessions this means that no client which was entered is ever kept,
`Session.run_releases`.
-/

namespace ZonalBucket

/-- Whether an answer makes the visit fail. -/
def Answer.fails : Answer → Bool
  | fail _ => true
  | _ => false

namespace World

/-- Of a number of visits to a slot that come next, how many do not fail. -/
def passing (w : World) (slot : Slot) (visits : Nat) : Nat :=
  visits - ((w.script slot).take visits).countP Answer.fails

variable {w v u : World} {config : Config}

/-- Without a visit nothing is passed.  So a client that was not requested
successfully is never entered, and never left. -/
theorem passing_zero (slot : Slot) : w.passing slot 0 = 0 := Nat.zero_sub _

/-- The next visit counts when nothing is laid down that makes it fail. -/
theorem passing_one_of_none {slot : Slot} (h : w.failureAt slot = none) :
    w.passing slot 1 = 1 := by
  rw [failureAt, nextAnswer] at h
  rw [passing]
  cases hscript : w.script slot with
  | nil => rfl
  | cons answer rest =>
    rw [hscript] at h
    cases answer with
    | fail failure => cases h
    | pass => rfl
    | reply answer => rfl

theorem passing_one_of_some {slot : Slot} {failure : Failure}
    (h : w.failureAt slot = some failure) : w.passing slot 1 = 0 := by
  rw [failureAt, nextAnswer] at h
  rw [passing]
  cases hscript : w.script slot with
  | nil =>
    rw [hscript] at h
    cases h
  | cons answer rest =>
    rw [hscript] at h
    cases answer with
    | fail failure => rfl
    | pass => cases h
    | reply answer => cases h

/-- No client was requested, entered or left. -/
structure SameClients (w v : World) : Prop where
  requests : v.trace.requests = w.trace.requests
  entered : v.trace.entered = w.trace.entered
  exited : v.trace.exited = w.trace.exited

/-- Nothing was done but reports. -/
structure OnlyReports (w v : World) : Prop extends SameClients w v where
  exchanges : v.trace.exchanges = w.trace.exchanges

/-- A client was requested for a configuration, entered if the request went through, and
left if the entry returned.  Without the entry no call was made. -/
structure UsesClient (config : Config) (w v : World) : Prop where
  requests : v.trace.requests = w.trace.requests ++ [⟨config.region, config.endpoint⟩]
  entered : v.trace.entered = w.trace.entered + w.passing .client 1
  exited : v.trace.exited = w.trace.exited + w.passing .enter (w.passing .client 1)
  exchanges : w.passing .enter (w.passing .client 1) = 0 → v.trace.exchanges = w.trace.exchanges

/-- The clients are told by the trace alone. -/
theorem SameClients.of_trace (h : v.trace = w.trace) : w.SameClients v :=
  ⟨congrArg Trace.requests h, congrArg Trace.entered h, congrArg Trace.exited h⟩

/-- Nothing happens to clients in a run if nothing happens to them in its parts, and
reports do not matter. -/
theorem sameClients_lasting : Action.Lasting SameClients where
  refl _ := .of_trace rfl
  trans h hnext := {
    requests := hnext.requests.trans h.requests
    entered := hnext.entered.trans h.entered
    exited := hnext.exited.trans h.exited }
  record _ _ := ⟨rfl, rfl, rfl⟩

/-- Where the trace did not even get a report, nothing was done. -/
theorem OnlyReports.of_trace (h : v.trace = w.trace) : w.OnlyReports v :=
  ⟨.of_trace h, congrArg Trace.exchanges h⟩

/-- To do nothing but report passes from run to run.  It is what may stand behind a
client block without adding to it. -/
theorem onlyReports_lasting : Action.Lasting OnlyReports where
  refl _ := .of_trace rfl
  trans h hnext := {
    toSameClients := sameClients_lasting.trans h.toSameClients hnext.toSameClients
    exchanges := hnext.exchanges.trans h.exchanges }
  record _ _ := ⟨⟨rfl, rfl, rfl⟩, rfl⟩

namespace UsesClient

/-- Reports behind the block do not matter.  The service has them there, as it tells
of a failure when the client has been left. -/
theorem onlyReports (h : UsesClient config w v) (hbehind : v.OnlyReports u) :
    UsesClient config w u where
  requests := hbehind.requests.trans h.requests
  entered := hbehind.entered.trans h.entered
  exited := hbehind.exited.trans h.exited
  exchanges hnever := hbehind.exchanges.trans (h.exchanges hnever)

/-- Only the trace and the script in front of the block matter. -/
theorem of_same (h : UsesClient config u v) (hscript : u.script = w.script)
    (htrace : u.trace = w.trace) : UsesClient config w v := by
  have hpassing : ∀ slot visits, u.passing slot visits = w.passing slot visits := by
    intro slot visits
    rw [passing, passing, hscript]
  obtain ⟨hrequests, hentered, hexited, hexchanges⟩ := h
  rw [htrace] at hrequests hentered hexited hexchanges
  rw [hpassing] at hentered
  rw [hpassing, hpassing] at hexited hexchanges
  exact ⟨hrequests, hentered, hexited, hexchanges⟩

end UsesClient

end World

open World (SameClients OnlyReports UsesClient)

namespace Action

/-- Whatever is put together of calls and reports leaves the clients alone. -/
theorem sameClients_hereditary : Hereditary fun action => action.Along SameClients :=
  Along.hereditary World.sameClients_lasting

/-- A call has nothing to do with the clients that are requested, entered and left. -/
theorem sameClients_invoke (call : Call) : (Client.invoke call).Along SameClients := by
  refine Along.invoke World.sameClients_lasting (fun w => .of_trace rfl) (fun w => ?_)
    fun w outcome => ⟨rfl, rfl, rfl⟩
  rw [Client.ask]
  split
  · exact .of_trace rfl
  · exact .of_trace rfl

/-- In particular all calls about a bucket do, with all pages of a listing. -/
theorem sameClients_callsOf (bucket : String) :
    CallsOf (fun action => action.Along SameClients) bucket where
  invoke call _ := sameClients_invoke call
  keys := Along.keys World.sameClients_lasting fun _ => sameClients_invoke _

/-- What is put together of reports only does nothing else.  There is no such rule for
calls, as each of them is noted down. -/
theorem onlyReports_hereditary : Hereditary fun action => action.Along OnlyReports :=
  Along.hereditary World.onlyReports_lasting

end Action

open ZonalBucket.Action (sameClients_hereditary sameClients_callsOf onlyReports_hereditary)

/-- **A client block requests a client, enters it and leaves it,** each if the step
before it went through.  The body may do anything that leaves the clients alone, and
fail as well. -/
theorem Client.during_usesClient {α : Type} (config : Config) {body : Action α}
    (hbody : body.Along SameClients) : (during config body).Along (UsesClient config) := by
  intro w
  rcases during_cases config body w with ⟨failure, hclient, hrun⟩ |
    ⟨failure, hclient, henter, hrun⟩ | ⟨hclient, henter, outcome, v, hinside, hleft⟩
  · have hnever := World.passing_one_of_some hclient
    rw [hrun]
    refine ⟨rfl, ?_, ?_, fun _ => rfl⟩
    · rw [hnever]
      rfl
    · rw [hnever, World.passing_zero]
      rfl
  · have hpasses := World.passing_one_of_none hclient
    have hnever := World.passing_one_of_some henter
    rw [hrun]
    refine ⟨rfl, ?_, ?_, fun _ => rfl⟩
    · rw [hpasses]
      rfl
    · rw [hpasses, hnever]
      rfl
  · have hpasses := World.passing_one_of_none hclient
    have hreturns := World.passing_one_of_none henter
    have hsame : SameClients (inside config w) v := by
      have h := hbody (inside config w)
      rw [hinside] at h
      exact h
    have hend : (during config body w).2 = outside v := by
      rcases hleft with ⟨failure, -, hrun⟩ | ⟨-, hrun⟩
      · rw [hrun]
      · rw [hrun]
    rw [hend]
    refine ⟨hsame.requests, ?_, ?_, fun hnever => ?_⟩
    · rw [hpasses]
      exact hsame.entered
    · rw [hpasses, hreturns]
      exact congrArg (· + 1) hsame.exited
    · rw [hpasses, hreturns] at hnever
      exact absurd hnever Nat.one_ne_zero

namespace Service

variable {s : Service} {bucket key : String}

/-- Asking the service for metadata is one client block, with reports behind it at
most.  It does not matter which of its parts fails, and how the failure is told. -/
theorem headObject_usesClient (hname : bucket ≠ "") (hkey : key ≠ "") :
    (s.headObject bucket key).Along (UsesClient s.config) := by
  rw [headObject, if_neg hname, if_neg hkey]
  have hfetch := sameClients_hereditary.fetched (sameClients_callsOf bucket) s.source key
  have hblock := Client.during_usesClient s.config hfetch
  exact hblock.follow (.onTransport World.onlyReports_lasting
    (onlyReports_hereditary.failUnreached s _ _)) UsesClient.onlyReports

/-- So is asking it to delete a bucket.  Two handlers stand around the block, one for
each family of faults, and both only report. -/
theorem deleteBucket_usesClient (hname : bucket ≠ "") :
    (s.deleteBucket bucket).Along (UsesClient s.config) := by
  rw [deleteBucket, if_neg hname]
  have hdelete := sameClients_hereditary.deleted (sameClients_callsOf bucket) s.source
  have hblock := Client.during_usesClient s.config hdelete
  have hreported := hblock.follow (.onTransport World.onlyReports_lasting
    (onlyReports_hereditary.failUnreached s
      s!"S3 delete_bucket failed (bucket={bucket})" deleteOperation)) UsesClient.onlyReports
  exact hreported.follow (.onRefusal World.onlyReports_lasting fun fault =>
    onlyReports_hereditary.fail _) UsesClient.onlyReports

/-- A call without a name is turned away, and nothing happens. -/
theorem headObject_of_noName (h : bucket = "" ∨ key = "") (w : World) :
    (s.headObject bucket key w).2 = w := by
  rw [headObject]
  by_cases hname : bucket = ""
  · rw [if_pos hname]
    rfl
  · have hkey : key = "" := h.resolve_left hname
    rw [if_neg hname, if_pos hkey]
    rfl

theorem deleteBucket_of_noName (h : bucket = "") (w : World) :
    (s.deleteBucket bucket w).2 = w := by
  rw [deleteBucket, if_pos h]
  rfl

end Service

namespace Program

variable {w : World} {config : Config}

/-- A program is the block of its scenario, once the configuration is there. -/
theorem execute_of_load (program : Program) (own : Source)
    (h : Config.load w.environment = .ok config) :
    program.execute own w =
      (Client.during config (program.scenario own config) >>= fun success =>
        pure (exitCode success)) (Action.setUpLog w).2 := by
  have hlog : Action.setUpLog w = (.ok (), (Action.setUpLog w).2) := rfl
  have hloaded : Action.look (fun w => Config.load w.environment) (Action.setUpLog w).2 =
      (.ok (.ok config), (Action.setUpLog w).2) :=
    congrArg (fun loaded => (Except.ok loaded, (Action.setUpLog w).2)) h
  rw [execute, Action.bind_of_ok _ hlog, Action.bind_of_ok _ hloaded]
  rfl

/-- Without a configuration a program only sets up the log. -/
theorem execute_of_load_error (program : Program) (own : Source) {failure : Failure}
    (h : Config.load w.environment = .error failure) :
    program.execute own w = (.error failure, (Action.setUpLog w).2) := by
  have hlog : Action.setUpLog w = (.ok (), (Action.setUpLog w).2) := rfl
  have hloaded : Action.look (fun w => Config.load w.environment) (Action.setUpLog w).2 =
      (.ok (.error failure), (Action.setUpLog w).2) :=
    congrArg (fun loaded => (Except.ok loaded, (Action.setUpLog w).2)) h
  rw [execute, Action.bind_of_ok _ hlog, Action.bind_of_ok _ hloaded]
  rfl

/-- Neither of the two scenarios requests a client: their calls are made through the
one that the program has entered for them. -/
theorem scenario_sameClients (program : Program) (own : Source) (config : Config) :
    (program.scenario own config).Along SameClients := by
  cases program with
  | head => exact sameClients_hereditary.headRun sameClients_callsOf own _
  | delete => exact sameClients_hereditary.deleteRun sameClients_callsOf own _

/-- A program with a configuration is one client block, for this configuration.  The
set-up of the log in front of it is not told by the trace. -/
theorem execute_usesClient (program : Program) (own : Source)
    (h : Config.load w.environment = .ok config) :
    UsesClient config w (program.execute own w).2 := by
  have hscenario := scenario_sameClients program own config
  have hblock := Client.during_usesClient config hscenario
  have hwhole := hblock.follow (.bind World.onlyReports_lasting fun success =>
    onlyReports_hereditary.pure (exitCode success)) UsesClient.onlyReports
  rw [execute_of_load program own h]
  exact (hwhole (Action.setUpLog w).2).of_same rfl rfl

/-- Without a configuration no client is requested, and no call is made. -/
theorem execute_onlyReports (program : Program) (own : Source) {failure : Failure}
    (h : Config.load w.environment = .error failure) :
    OnlyReports w (program.execute own w).2 := by
  rw [execute_of_load_error program own h]
  exact .of_trace rfl

end Program

namespace Http

/-- Whether requests along a route ask the service for something that it does not turn
away. -/
def Route.asksService : Route → Bool
  | greeting => false
  | bucket name => name != ""
  | metadata name key => name != "" && key != ""

namespace App

variable {w : World} {config : Config} {request : Request} {route : Route}

/-- A request that the service does not turn away is one client block, for the
configuration that is loaded for the request. -/
theorem serve_usesClient (hconfig : Config.load w.environment = .ok config)
    (hroute : Route.ofPath? request.path = some route)
    (hmethod : request.method = route.method.name) (hasks : route.asksService = true) :
    UsesClient config w (serve request w).2 := by
  cases route with
  | greeting => exact nomatch hasks
  | bucket name =>
    have hname : name ≠ "" := by simpa [Route.asksService] using hasks
    have hdelete := Service.deleteBucket_usesClient (s := { config := config }) hname w
    rw [serve_of_bucket hconfig hroute hmethod, answerDeletion_apply]
    exact hdelete
  | metadata bucket key =>
    obtain ⟨hname, hkey⟩ : bucket ≠ "" ∧ key ≠ "" := by simpa [Route.asksService] using hasks
    have hfetch := Service.headObject_usesClient (s := { config := config }) hname hkey w
    rw [serve_of_metadata hconfig hroute hmethod, answerMetadata_apply]
    exact hfetch

/-- A request that asks the service for nothing leaves everything as it is. -/
theorem serve_of_asksService_eq_false (hconfig : Config.load w.environment = .ok config)
    (hroute : Route.ofPath? request.path = some route)
    (hmethod : request.method = route.method.name) (hasks : route.asksService = false) :
    (serve request w).2 = w := by
  cases route with
  | greeting =>
    rw [serve, handle_route _ hroute hmethod]
    rfl
  | bucket name =>
    have hname : name = "" := by simpa [Route.asksService] using hasks
    rw [serve_of_bucket hconfig hroute hmethod, answerDeletion_apply]
    exact Service.deleteBucket_of_noName hname w
  | metadata bucket key =>
    have hname : bucket = "" ∨ key = "" :=
      Decidable.or_iff_not_imp_left.2 (by simpa [Route.asksService] using hasks)
    rw [serve_of_metadata hconfig hroute hmethod, answerMetadata_apply]
    exact Service.headObject_of_noName hname w

/-- So does a request that fits no route, or has another method than its route. -/
theorem serve_of_stray
    (h : ∀ route, Route.ofPath? request.path = some route → request.method ≠ route.method.name) :
    (serve request w).2 = w := by
  rw [serve, handle]
  cases hroute : Route.ofPath? request.path with
  | none => rfl
  | some route =>
    simp only [if_neg (h route hroute)]
    rfl

/-- A request without a configuration is answered before a client is requested,
whatever the route is that it takes. -/
theorem serve_of_load_error {failure : Failure}
    (hconfig : Config.load w.environment = .error failure)
    (hroute : Route.ofPath? request.path = some route)
    (hmethod : request.method = route.method.name) : (serve request w).2 = w := by
  have hanswer : (answer Backend.ofEnvironment route w).2 = w := by
    have hservice := Backend.ofEnvironment_of_load_error hconfig
    cases route with
    | greeting => rfl
    | bucket name => exact congrArg Prod.snd (Action.bind_of_error _ hservice)
    | metadata bucket key => exact congrArg Prod.snd (Action.bind_of_error _ hservice)
  rw [serve, handle_route _ hroute hmethod]
  exact hanswer

end App

end Http

namespace Step

/-- The configuration of the client that a step requests.  It requests none when it works
with the client that is there, and none when it is turned away: when a name is empty, when
the environment describes no configuration, or when a request fits no route that asks the
service for something. -/
def clientConfig (environment : Environment) : Step → Option Config
  | serviceHead service bucket key =>
    if bucket = "" ∨ key = "" then none else some service.config
  | serviceDelete service bucket => if bucket = "" then none else some service.config
  | program _ _ => (Config.load environment).toOption
  | request asked none => match Http.Route.ofPath? asked.path with
    | some route =>
      if asked.method = route.method.name ∧ route.asksService = true
      then (Config.load environment).toOption else none
    | none => none
  | _ => none

variable {s : Step} {environment : Environment} {asked : Http.Request} {config : Config}

/-- A request that leads to a client has a route that asks the service and the method
of that route, and the environment has a configuration. -/
theorem clientConfig_request_eq_some
    (h : (request asked none).clientConfig environment = some config) :
    ∃ route, Http.Route.ofPath? asked.path = some route ∧ asked.method = route.method.name ∧
      route.asksService = true ∧ Config.load environment = .ok config := by
  rw [clientConfig] at h
  cases hroute : Http.Route.ofPath? asked.path with
  | none =>
    rw [hroute] at h
    cases h
  | some route =>
    rw [hroute] at h
    simp only [Option.ite_none_right_eq_some] at h
    obtain ⟨⟨hmethod, hasks⟩, hload⟩ := h
    exact ⟨route, rfl, hmethod, hasks, Outcome.eq_ok_of_toOption hload⟩

/-- A request that leads to none changes nothing.  It is answered from the request and
the environment alone, and the world is handed back. -/
theorem serve_of_clientConfig_eq_none {w : World}
    (h : (request asked none).clientConfig w.environment = none) :
    (Http.App.serve asked w).2 = w := by
  by_cases hfits : ∀ route, Http.Route.ofPath? asked.path = some route →
      asked.method ≠ route.method.name
  · exact Http.App.serve_of_stray hfits
  · simp only [Classical.not_forall, Decidable.not_not] at hfits
    obtain ⟨route, hroute, hmethod⟩ := hfits
    cases hload : Config.load w.environment with
    | error failure => exact Http.App.serve_of_load_error hload hroute hmethod
    | ok config =>
      cases hasks : route.asksService with
      | false => exact Http.App.serve_of_asksService_eq_false hload hroute hmethod hasks
      | true =>
        rw [clientConfig, hroute] at h
        simp only [if_pos (And.intro hmethod hasks), hload] at h
        cases h

end Step

namespace Session

variable {s : Step} {w : World} {config : Config}

/-- What a session makes of the value of an action comes behind its run, and adds
nothing to the trace. -/
theorem reporting_leads {α : Type} (report : α → Report) (action : Action α) :
    Action.Leads OnlyReports action (reporting report action) :=
  .bind World.onlyReports_lasting fun _ => onlyReports_hereditary.pure _

/-- A program runs behind a change of the log, as each program of a session is a
process of its own.  The change is not told by the trace. -/
theorem perform_program (program : Program) (own : Source) (w : World) :
    perform (.program program own) w =
      reporting .exitCode (program.execute own) (setLevel closedLevel w).2 := by
  have hlevel : setLevel closedLevel w = (.ok (), (setLevel closedLevel w).2) := rfl
  rw [perform, Action.andThen_of_ok _ hlevel]

/-- **A step that requests a client enters it and leaves it.**  These are the service,
the programs and the requests that are not turned away, each with one block. -/
theorem perform_usesClient (h : s.clientConfig w.environment = some config) :
    UsesClient config w (perform s w).2 := by
  have hreporting : ∀ {α : Type} {report : α → Report} {action : Action α} {v : World},
      UsesClient config v (action v).2 → UsesClient config v (reporting report action v).2 :=
    fun haction => haction.onlyReports (reporting_leads _ _ _)
  cases s with
  | serviceHead service bucket key =>
    simp only [Step.clientConfig, Option.ite_none_left_eq_some, not_or] at h
    obtain ⟨⟨hname, hkey⟩, hconfig⟩ := h
    cases hconfig
    exact hreporting (Service.headObject_usesClient hname hkey w)
  | serviceDelete service bucket =>
    simp only [Step.clientConfig, Option.ite_none_left_eq_some] at h
    obtain ⟨hname, hconfig⟩ := h
    cases hconfig
    exact hreporting (Service.deleteBucket_usesClient hname w)
  | program program own =>
    have hload : Config.load w.environment = .ok config := Outcome.eq_ok_of_toOption h
    have hrun : UsesClient config (setLevel closedLevel w).2
        (program.execute own (setLevel closedLevel w).2).2 := program.execute_usesClient own hload
    rw [perform_program]
    exact (hreporting hrun).of_same rfl rfl
  | request asked standIn =>
    cases standIn with
    | some result => exact nomatch h
    | none =>
      obtain ⟨route, hroute, hmethod, hasks, hload⟩ := Step.clientConfig_request_eq_some h
      exact hreporting (Http.App.serve_usesClient hload hroute hmethod hasks)
  | _ => exact nomatch h

/-- A step that could open a client, but requests none, does nothing but report. -/
theorem perform_onlyReports (hs : s.opensClient = true) (h : s.clientConfig w.environment = none) :
    OnlyReports w (perform s w).2 := by
  have hreporting : ∀ {α : Type} {report : α → Report} {action : Action α} {v : World},
      OnlyReports v (action v).2 → OnlyReports v (reporting report action v).2 :=
    fun haction => World.onlyReports_lasting.trans haction (reporting_leads _ _ _)
  cases s with
  | serviceHead service bucket key =>
    have hname : bucket = "" ∨ key = "" :=
      Decidable.or_iff_not_imp_left.2 (by simpa [Step.clientConfig] using h)
    exact hreporting (.of_trace (congrArg World.trace (Service.headObject_of_noName hname w)))
  | serviceDelete service bucket =>
    have hname : bucket = "" := by simpa [Step.clientConfig] using h
    exact hreporting (.of_trace (congrArg World.trace (Service.deleteBucket_of_noName hname w)))
  | program program own =>
    obtain ⟨failure, hload⟩ := Outcome.eq_error_of_toOption h
    have hrun : OnlyReports (setLevel closedLevel w).2
        (program.execute own (setLevel closedLevel w).2).2 := program.execute_onlyReports own hload
    have hlevel : OnlyReports w (setLevel closedLevel w).2 := .of_trace rfl
    rw [perform_program]
    exact World.onlyReports_lasting.trans hlevel (hreporting hrun)
  | request asked standIn =>
    cases standIn with
    | some result => exact nomatch hs
    | none =>
      have hsame := Step.serve_of_clientConfig_eq_none h
      exact hreporting (.of_trace (congrArg World.trace hsame))
  | _ => exact nomatch hs

/-- A step that requests no client leaves alone what concerns them. -/
theorem perform_sameClients (h : s.clientConfig w.environment = none) :
    SameClients w (perform s w).2 := by
  by_cases hopens : s.opensClient = true
  · exact (perform_onlyReports hopens h).toSameClients
  · have hprepares : s.prepares = true → (perform s).Along SameClients := fun hs w =>
      .of_trace (prepare_unseen hs w).1
    exact sameClients_hereditary.perform (fun bucket _ => sameClients_callsOf bucket) hprepares
      (fun hs => absurd hs hopens) w

/-- What is seen of a step that requests a client. -/
theorem step_of_clientConfig_eq_some (h : s.clientConfig w.environment = some config) :
    (step w s).1.requests = [⟨config.region, config.endpoint⟩] ∧
      (step w s).1.entered = w.trace.entered + w.passing .client 1 ∧
      (step w s).1.exited = w.trace.exited + w.passing .enter (w.passing .client 1) ∧
      (w.passing .enter (w.passing .client 1) = 0 → (step w s).1.calls = []) := by
  have huse : UsesClient config w.beginTrace (step w s).2 :=
    perform_usesClient (w := w.beginTrace) h
  refine ⟨huse.requests, huse.entered, huse.exited, fun hnever => ?_⟩
  have hexchanges : (step w s).2.trace.exchanges = [] := huse.exchanges hnever
  exact congrArg (List.map Exchange.call) hexchanges

/-- What is seen of a step that requests none.  Entries and exits are those that the
world had already, and a step that would have opened a client makes no calls without
it. -/
theorem step_of_clientConfig_eq_none (h : s.clientConfig w.environment = none) :
    (step w s).1.requests = [] ∧ (step w s).1.entered = w.trace.entered ∧
      (step w s).1.exited = w.trace.exited ∧
      (s.opensClient = true → (step w s).1.calls = []) := by
  have hsame : SameClients w.beginTrace (step w s).2 := perform_sameClients (w := w.beginTrace) h
  refine ⟨hsame.requests, hsame.entered, hsame.exited, fun hs => ?_⟩
  have hreports : OnlyReports w.beginTrace (step w s).2 :=
    perform_onlyReports (w := w.beginTrace) hs h
  exact congrArg (List.map Exchange.call) hreports.exchanges

/-- **Whoever enters a client leaves it.**  A session may begin in any world and take any
steps, whatever answers are laid down for it.  At each step at most one client is requested,
for the configuration that the step works with, and none if there is no such configuration.
The client is entered if the request went through, and left if the entry returned, however
the step goes on.  A step that opens a client makes no call without having entered it, and
thus none when it is turned away. -/
theorem run_releases (w₀ : World) (front rest : List Step) (s : Step) :
    let w := (run w₀ front).2
    ∃ seen entries exits,
      (run w₀ (front ++ s :: rest)).1[front.length]? = some seen ∧
      seen.entered = w.trace.entered + entries ∧ seen.exited = w.trace.exited + exits ∧
      seen.requests.length ≤ 1 ∧ entries ≤ 1 ∧
      entries = w.passing .client seen.requests.length ∧
      exits = w.passing .enter entries ∧
      (s.opensClient = true → exits = 0 → seen.calls = []) ∧
      match s.clientConfig w.environment with
      | some config => seen.requests = [⟨config.region, config.endpoint⟩]
      | none => seen.requests = [] ∧ (s.opensClient = true → seen.calls = []) := by
  intro w
  have hseen := getElem?_run w₀ front rest s
  cases hconfig : s.clientConfig w.environment with
  | some config =>
    obtain ⟨hrequests, hentered, hexited, hcalls⟩ := step_of_clientConfig_eq_some hconfig
    have hone : (step w s).1.requests.length = 1 := congrArg List.length hrequests
    refine ⟨(step w s).1, _, _, hseen, hentered, hexited, ?_, Nat.sub_le _ _, ?_, rfl,
      fun _ => hcalls, hrequests⟩
    · exact Nat.le_of_eq hone
    · rw [hone]
  | none =>
    obtain ⟨hrequests, hentered, hexited, hcalls⟩ := step_of_clientConfig_eq_none hconfig
    have hnone : (step w s).1.requests.length = 0 := congrArg List.length hrequests
    refine ⟨(step w s).1, 0, 0, hseen, hentered, hexited, ?_, Nat.zero_le _, ?_, ?_,
      fun hs _ => hcalls hs, hrequests, hcalls⟩
    · rw [hnone]
      exact Nat.zero_le 1
    · rw [hnone, World.passing_zero]
    · rw [World.passing_zero]

end Session

end ZonalBucket
