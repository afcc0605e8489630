import ZonalBucket.Scenario.Delete
import ZonalBucket.Scenario.Head

/-!
# The programs

Each scenario is also a program: it sets up the log, takes its configuration from
the environment, opens a client and runs the scenario with it.  The exit code is
zero exactly when the run tells of success.
-/

namespace ZonalBucket

/-- The programs. -/
inductive Program where
  | head
  | delete
deriving DecidableEq, Repr

namespace Program

/-- The source of the records that a program's scenario reports itself. -/
def source : Program → Source
  | head => .headScenario
  | delete => .deleteScenario

/-- The program with this name. -/
def ofName? (name : String) : Option Program :=
  if name = "head" then some head else if name = "delete" then some delete else none

/-- Runs the scenario of a program. -/
def scenario (program : Program) (own : Source) (config : Config) : Action Bool :=
  match program with
  | head => Scenario.Head.run own config {}
  | delete => Scenario.Delete.run own config none

/-- The exit code for what a run tells. -/
def exitCode (success : Bool) : Nat := if success then 0 else 1

/-- Runs a program, up to its exit code; `own` is the source of the records that its
scenario reports itself. -/
def execute (program : Program) (own : Source) : Action Nat := do
  Action.setUpLog
  let loaded ← Action.look fun w => Config.load w.environment
  let config ← Action.ofOutcome loaded
  let success ← Client.during config (program.scenario own config)
  pure (exitCode success)

end Program

end ZonalBucket
