import ZonalBucket.Http.App
import ZonalBucket.Program

/-!
# Sessions

A session is a world and a row of steps that are taken in it one after the other.
Some steps only lay things out: objects, answers, files, the environment, the
clock.  The others are operations of the library.  A step that fails does not end
the session.

What can be seen of a step is what it ended in, the calls, the client requests and
the records it caused, and the store as it is then.
-/

namespace ZonalBucket

/-- A step of a session. -/
inductive Step where
  /-- Puts objects into a bucket, which need not be there. -/
  | seed (bucket : String) (keys : List String) (object : Object)
  /-- Lays down answers for a slot. -/
  | script (answers : List (Slot × List Answer))
  /-- Replaces the environment. -/
  | environment (environment : Environment)
  /-- Sets the clock. -/
  | clock (nanoseconds : Int)
  /-- Writes a local file. -/
  | write (path : String) (bytes : List UInt8)
  /-- Makes a local folder. -/
  | makeFolder (path : String)
  | createBucket (source : Source) (bucket zone : String)
  | putObject (source : Source) (bucket key : String) (upload : Upload)
      (contentType : Option String)
  | deleteObject (source : Source) (bucket key : String)
  | emptyBucket (source : Source) (bucket : String)
  | head (source : Source) (bucket key : String)
  | fetch (source : Source) (bucket key : String)
  | deleteBucket (source : Source) (bucket : String)
  | serviceHead (service : Service) (bucket key : String)
  | serviceDelete (service : Service) (bucket : String)
  | serviceConfig (service : Service)
  /-- Makes a service from the environment and shows its configuration. -/
  | environmentConfig
  | headScenario (config : Config) (request : Scenario.Head.Request)
  | deleteScenario (config : Config) (bucket : Option String)
  /-- Runs a program; `own` is the source of its own records. -/
  | program (program : Program) (own : Source)
  /-- Starts the application while the root of the log has the level that a value
  chooses. -/
  | start (choice : Document)
  /-- Sends a request to the application; with a result, a stand-in that gives it takes
  the place of the service. -/
  | request (request : Http.Request) (standIn : Option HeadResult)
  /-- A step whose arguments do not make sense, and which fails for that. -/
  | unfit (failure : Failure)

/-- What a step gives when it does not fail. -/
inductive Report where
  | nothing
  | flag (b : Bool)
  | count (n : Int)
  | fetched (result : HeadResult)
  | config (config : Config)
  | exitCode (code : Nat)
  /-- The level of the root of the log and the layouts of its handlers. -/
  | log (level : Level) (layouts : List Layout)
  | response (response : Http.Response)

namespace Session

/-- The world in which a session begins.  The root of the log lets information pass and
has one handler. -/
def begin (limits : Limits) : World where
  limits := limits
  clock := 1714566600123456789
  root := { level := Level.info, handlers := [{ sink := .stream "" }] }

/-- Sets the level of the root of the log. -/
def setLevel (level : Level) : Action Unit :=
  Action.update fun w => { w with root := w.root.setLevel level }

/-- The level below which a program finds the log closed before it sets it up. -/
def closedLevel : Level := Level.warning

/-- An action that gives nothing. -/
def silently (action : Action Unit) : Action Report := action.andThen fun _ => pure .nothing

/-- An action whose value is reported. -/
def reporting {α : Type} (report : α → Report) (action : Action α) : Action Report :=
  action.andThen fun a => pure (report a)

/-- Answers a request with the service of the environment or with a stand-in. -/
def serve (request : Http.Request) : Option HeadResult → Action Http.Response
  | none => Http.App.serve request
  | some result => Http.App.handle (pure (Http.Backend.ofResult result)) request

/-- Changes the local files, as far as that goes. -/
def changeFiles (change : Files → Outcome Unit × Files) : Action Unit := fun w =>
  let (outcome, files) := change w.files
  (outcome, { w with files := files })

/-- The level that a value chooses. -/
def chosenLevel (choice : Document) : Action Level :=
  Action.ofOutcome (match Level.ofDocument choice with
    | .ok level => .ok level
    | .error fault => .error (.badLevel fault))

/-- Starts the application, and reports on the root of the log. -/
def start (choice : Document) : Action Report := do
  let level ← chosenLevel choice
  setLevel level
  Action.setUpLog
  Action.look fun w => .log w.root.level (w.root.handlers.map Log.Handler.layout)

/-- Takes a step. -/
def perform : Step → Action Report
  | .seed bucket keys object => silently (Action.update fun w =>
      w.withStore (w.store.seed bucket keys object))
  | .script answers => silently (Action.update fun w =>
      { w with script := answers.foldl (fun s entry => s.append entry.1 entry.2) w.script })
  | .environment environment => silently (Action.update fun w =>
      { w with environment := environment })
  | .clock nanoseconds => silently (Action.update fun w => { w with clock := nanoseconds })
  | .write path bytes => silently (changeFiles fun files => files.write path bytes)
  | .makeFolder path => silently (changeFiles fun files => files.makeFolder path)
  | .createBucket source bucket zone => silently (Provision.createBucket source bucket zone)
  | .putObject source bucket key upload contentType =>
    silently (Provision.putObject source bucket key upload contentType)
  | .deleteObject source bucket key => silently (Provision.deleteObject source bucket key)
  | .emptyBucket source bucket => reporting .count (Emptying.emptyBucket source bucket)
  | .head source bucket key => reporting .flag (Inspection.head source bucket key)
  | .fetch source bucket key => reporting .fetched (Inspection.fetch source bucket key)
  | .deleteBucket source bucket => silently (Inspection.deleteBucket source bucket)
  | .serviceHead service bucket key => reporting .fetched (service.headObject bucket key)
  | .serviceDelete service bucket => silently (service.deleteBucket bucket)
  | .serviceConfig service => pure (.config service.config)
  | .environmentConfig => reporting (fun s => .config s.config) Service.ofEnvironment
  | .headScenario config request =>
    reporting .flag (Scenario.Head.run .headScenario config request)
  | .deleteScenario config bucket =>
    reporting .flag (Scenario.Delete.run .deleteScenario config bucket)
  | .program program own => (setLevel closedLevel).andThen fun _ =>
      reporting .exitCode (program.execute own)
  | .start choice => start choice
  | .request request standIn => reporting .response (serve request standIn)
  | .unfit failure => Action.fail failure

/-- What can be seen of a step. -/
structure Observation where
  outcome : Outcome Report
  records : List Record
  calls : List Call
  requests : List ClientRequest
  entered : Nat
  exited : Nat
  store : Store

/-- What can be seen in the world after a step. -/
def observe (outcome : Outcome Report) (w : World) : Observation where
  outcome := outcome
  records := w.trace.records.filter fun record => w.root.passes record.level
  calls := w.trace.calls
  requests := w.trace.requests
  entered := w.trace.entered
  exited := w.trace.exited
  store := w.store

/-- Takes a step in a world, with a trace of its own. -/
def step (w : World) (s : Step) : Observation × World :=
  match perform s w.beginTrace with
  | (outcome, w) => (observe outcome w, w)

/-- Takes steps one after the other. -/
def run (w : World) : List Step → List Observation × World
  | [] => ([], w)
  | s :: rest =>
    let (seen, w) := step w s
    let (later, w) := run w rest
    (seen :: later, w)

end Session

end ZonalBucket
