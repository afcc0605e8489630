import ZonalBucket.Call
import ZonalBucket.Config
import ZonalBucket.Files
import ZonalBucket.Log.Root

/-!
# The world

All that an operation can read or change: the store, the answers laid down in
advance, the files, the clock, the environment and the root of the log.  The trace
keeps what was done: the calls with what they came to and the client requests in
order, the records that were reported, and how often a client was entered and left.

An answer laid down for a slot is used up by the next visit to that slot; it lets
the visit pass, makes it fail, or stands in for what the store would answer.
-/

namespace ZonalBucket

/-- An answer laid down in advance. -/
inductive Answer where
  /-- The visit passes. -/
  | pass
  /-- The visit fails. -/
  | fail (failure : Failure)
  /-- The store is not asked; this is the answer. -/
  | reply (answer : Document)

/-- The answers laid down for each slot, the next one first. -/
abbrev Script := Slot → List Answer

/-- No answers. -/
def Script.empty : Script := fun _ => []

/-- The script with more answers for a slot, behind those that are there. -/
def Script.append (script : Script) (slot : Slot) (answers : List Answer) : Script :=
  fun other => if other = slot then script other ++ answers else script other

/-- The script without the next answer for a slot. -/
def Script.drop (script : Script) (slot : Slot) : Script :=
  fun other => if other = slot then (script other).tail else script other

/-- The sizes of a page of a listing and of a batch of deletions.  Only positive sizes
make sense, but others can be asked for. -/
structure Limits where
  pageSize : Int := 1000
  batchSize : Int := 1000
deriving DecidableEq, Repr

/-- A request for a client. -/
structure ClientRequest where
  region : String
  endpoint : Option String
deriving DecidableEq, Repr

/-- A call that was made, and what it came to. -/
structure Exchange where
  call : Call
  outcome : Outcome Document

/-- What was done. -/
structure Trace where
  exchanges : List Exchange := []
  requests : List ClientRequest := []
  records : List Record := []
  entered : Nat := 0
  exited : Nat := 0

/-- The calls that were made. -/
def Trace.calls (t : Trace) : List Call := t.exchanges.map (·.call)

/-- All that an operation can read or change. -/
structure World where
  store : Store := Catalog.empty
  script : Script := Script.empty
  limits : Limits := {}
  files : Files := Files.empty
  clock : Int := 0
  environment : Environment := fun _ => none
  root : Log.Root := {}
  trace : Trace := {}

namespace World

/-- The answer to a visit to a slot. -/
def nextAnswer (w : World) (slot : Slot) : Answer := (w.script slot).headD .pass

/-- The world after a visit to a slot. -/
def visit (w : World) (slot : Slot) : World := { w with script := w.script.drop slot }

/-- The world after a call was noted down. -/
def noteCall (w : World) (call : Call) (outcome : Outcome Document) : World :=
  { w with trace := { w.trace with exchanges := w.trace.exchanges ++ [⟨call, outcome⟩] } }

/-- The world after a request for a client was noted down. -/
def noteRequest (w : World) (request : ClientRequest) : World :=
  { w with trace := { w.trace with requests := w.trace.requests ++ [request] } }

/-- The world after a record was noted down. -/
def noteRecord (w : World) (record : Record) : World :=
  { w with trace := { w.trace with records := w.trace.records ++ [record] } }

/-- The world after one more client was entered. -/
def noteEntry (w : World) : World :=
  { w with trace := { w.trace with entered := w.trace.entered + 1 } }

/-- The world after one more client was left. -/
def noteExit (w : World) : World :=
  { w with trace := { w.trace with exited := w.trace.exited + 1 } }

/-- The world with another store. -/
def withStore (w : World) (store : Store) : World := { w with store := store }

/-- The world with a trace that begins here; the counts of clients go on. -/
def beginTrace (w : World) : World :=
  { w with trace := { w.trace with exchanges := [], requests := [], records := [] } }

end World

end ZonalBucket
