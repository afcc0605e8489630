import ZonalBucket.Log.Form

/-!
# Log records

What is reported while an operation runs: how urgent it is, which part of the
library reports it, the message, and whether the failure that caused it goes with
it.  A message can be made from a value that is no text, which is kept then.
-/

namespace ZonalBucket

/-- The parts that report, and any other by its name. -/
inductive Source where
  | provision
  | inspection
  | service
  | headScenario
  | deleteScenario
  | program
  | named (name : String)
deriving DecidableEq, Repr

/-- The name of a part. -/
def Source.name : Source → String
  | provision => "provision"
  | inspection => "inspection"
  | service => "service"
  | headScenario => "head scenario"
  | deleteScenario => "delete scenario"
  | program => "program"
  | named name => name

/-- The name of the root of the log. -/
def rootName : String := "root"

/-- The source that a value names; one that counts as nothing names the root of the log. -/
def Source.ofDocument? : Document → Option Source
  | .text s => some (named (if s = "" then rootName else s))
  | d => if d.isTruthy then none else some (named rootName)

/-- A log record. -/
structure Record where
  level : Level
  source : Source
  message : String
  hasTrace : Bool := false
  /-- What the message was made from, unless it is the message itself. -/
  given : Option Log.FieldValue := none
deriving DecidableEq, Repr

end ZonalBucket
