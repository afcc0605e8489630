import ZonalBucket.Document

/-!
# Levels of log records

A level is a whole number; the higher, the more urgent.  Six numbers have names,
and a level can be chosen by its number or by one of the names.  A truth value can
stand for zero or one as well, and shows as what it is where the number has no name.

Levels are compared by their rank, the number.
-/

namespace ZonalBucket

/-- The urgency of a record. -/
inductive Level where
  | number (n : Int)
  | flag (b : Bool)
deriving DecidableEq, Repr

/-- Why a value chooses no level. -/
inductive LevelFault where
  /-- No level has this name. -/
  | unknownName (name : String)
  /-- The value is neither a whole number nor a text. -/
  | unsuitable (value : Document)
  /-- A record can only have a whole number as its level. -/
  | noNumber

/-- The message of a fault. -/
def LevelFault.message : LevelFault → String
  | unknownName name => "Unknown level: " ++ Text.quoted name
  | unsuitable value => "Level not an integer or a valid string: " ++ value.shownInside
  | noNumber => "level must be an integer"

namespace Level

def notset : Level := number 0
def info : Level := number 20
def warning : Level := number 30
def error : Level := number 40

/-- The number that a level is compared by. -/
def rank : Level → Int
  | number n => n
  | flag b => if b then 1 else 0

/-- Whether a level is not below another one. -/
def reaches (level bound : Level) : Bool := bound.rank ≤ level.rank

/-- A level as a value. -/
def toDocument : Level → Document
  | number n => .int n
  | flag b => .bool b

/-- The name of a level; one without a name of its own is shown as it is. -/
def name (level : Level) : String :=
  if level.rank = 50 then "CRITICAL"
  else if level.rank = 40 then "ERROR"
  else if level.rank = 30 then "WARNING"
  else if level.rank = 20 then "INFO"
  else if level.rank = 10 then "DEBUG"
  else if level.rank = 0 then "NOTSET"
  else "Level " ++ level.toDocument.shown

/-- The names that a level can be chosen by, two of which have two. -/
def names : List (String × Int) := [
  ("CRITICAL", 50), ("FATAL", 50), ("ERROR", 40), ("WARNING", 30), ("WARN", 30),
  ("INFO", 20), ("DEBUG", 10), ("NOTSET", 0)]

/-- The level with this name. -/
def ofName? (name : String) : Option Level := (names.lookup name).map number

/-- The level that a value is by itself. -/
def ofNumber? : Document → Option Level
  | .int n => some (number n)
  | .bool b => some (flag b)
  | _ => none

/-- The level that a value chooses: a number stands for itself, a text is a name. -/
def ofDocument : Document → Except LevelFault Level
  | .int n => .ok (number n)
  | .bool b => .ok (flag b)
  | .text name => match ofName? name with
    | some level => .ok level
    | none => .error (.unknownName name)
  | value => .error (.unsuitable value)

end Level

end ZonalBucket
