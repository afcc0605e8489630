import Mathlib.Init
import ZonalBucket.Program

/-!
# The command line

Runs one of the two programs, named by the only argument, on a store of its own.
The records of the run are written to the stream for errors, in the layout that the
root of the log gives them, and the exit code is that of the program.
-/

namespace ZonalBucket.CommandLine

/-- What is written when the argument names no program. -/
def usage : String := "usage: zonalbucket (head | delete)"

/-- The variables that are set. -/
def readEnvironment : IO Environment := do
  let values ← Setting.all.filterMapM fun setting => do
    let value ← IO.getEnv setting.name
    return value.map fun s => (setting.name, s)
  return Environment.ofList values

/-- The nanoseconds since the beginning of 1970, by the clock of the system. -/
def readClock : IO Int := do
  let now ← Std.Time.Timestamp.now
  return now.toNanosecondsSinceUnixEpoch.val

/-- All that a run writes to the stream for errors. -/
def written (w : World) : String := (w.trace.records.foldl Log.Root.emit w.root).errors

/-- Runs a program. -/
def execute (program : Program) : IO UInt32 := do
  let environment ← readEnvironment
  let clock ← readClock
  let (outcome, w) := program.execute .program { environment := environment, clock := clock }
  IO.eprint (written w)
  match outcome with
  | .ok code => return code.toUInt32
  | .error failure =>
    IO.eprintln failure.message
    return 1

end ZonalBucket.CommandLine

/-- The command line. -/
def main (arguments : List String) : IO UInt32 := do
  match arguments.map ZonalBucket.Program.ofName? with
  | [some program] => ZonalBucket.CommandLine.execute program
  | _ =>
    IO.eprintln ZonalBucket.CommandLine.usage
    return 2
