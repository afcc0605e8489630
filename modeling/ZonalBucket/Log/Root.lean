import ZonalBucket.Log.Layout

/-!
# The root of the log

All records go to the root, which has a level and handlers.  A record passes the
root if its level is positive and not below the root's; then it goes to every
handler whose own level it reaches.  A handler writes lines in its layout, either
to a stream of its own or to the stream for errors.  While there is no handler at
all, records from a warning on are written to the stream for errors as bare
messages.

`Root.ensure` sets the log up: it installs a handler for the stream for errors if
there is none at all, gives all handlers the standard layout, and sets the level.
When the level is no level, handlers that were there stay as they were.
-/

namespace ZonalBucket.Log

/-- Where a handler writes to. -/
inductive Sink where
  /-- The stream for errors, which all share. -/
  | errors
  /-- A stream of its own, with all that was written to it. -/
  | stream (written : String)
deriving DecidableEq, Repr

/-- A handler; it passes over records below its level. -/
structure Handler where
  sink : Sink
  level : Level := Level.notset
  layout : Layout := Layout.plain
deriving DecidableEq, Repr

/-- The root of the log. -/
structure Root where
  level : Level := Level.warning
  handlers : List Handler := []
  /-- All that was written to the stream for errors. -/
  errors : String := ""
deriving DecidableEq, Repr

namespace Handler

/-- What a handler writes for a record: a line if the record reaches its level and all
places of its layout can be filled, and otherwise nothing. -/
def output (handler : Handler) (record : Record) : String :=
  if record.level.reaches handler.level then (handler.layout.line record).getD "" else ""

/-- The handler after a record was written to its own stream. -/
def write (handler : Handler) (record : Record) : Handler :=
  match handler.sink with
  | .errors => handler
  | .stream written => { handler with sink := .stream (written ++ handler.output record) }

/-- What a handler writes to the stream for errors. -/
def errorOutput (handler : Handler) (record : Record) : String :=
  match handler.sink with
  | .errors => handler.output record
  | .stream _ => ""

/-- What a handler has written to a stream of its own. -/
def written? (handler : Handler) : Option String :=
  match handler.sink with
  | .errors => none
  | .stream written => some written

end Handler

namespace Root

/-- Whether a record of this level passes the root. -/
def passes (root : Root) (level : Level) : Bool := 0 < level.rank && level.reaches root.level

/-- The root with one more handler. -/
def addHandler (root : Root) (handler : Handler) : Root :=
  { root with handlers := root.handlers ++ [handler] }

/-- The root after a record. -/
def emit (root : Root) (record : Record) : Root :=
  if root.passes record.level then
    if root.handlers = [] then
      if record.level.reaches Level.warning then
        { root with errors := root.errors ++ record.message ++ "\n" }
      else root
    else { root with
      handlers := root.handlers.map fun handler => handler.write record
      errors := root.errors ++
        String.join (root.handlers.map fun handler => handler.errorOutput record) }
  else root

/-- The root with another level. -/
def setLevel (root : Root) (level : Level) : Root := { root with level := level }

/-- The root with the standard layout for all handlers. -/
def standardize (root : Root) : Root :=
  { root with handlers := root.handlers.map fun handler =>
      { handler with layout := Layout.standard } }

/-- The handler that `ensure` installs. -/
def errorHandler : Handler := { sink := .errors, layout := Layout.standard }

/-- Sets up a root without handlers.  The handler is installed before the level is
looked at, and a level of nothing leaves the level as it is. -/
def install (root : Root) (choice : Document) : Except LevelFault Unit × Root :=
  let installed := root.addHandler errorHandler
  match choice with
  | .null => (.ok (), installed)
  | value => match Level.ofDocument value with
    | .ok level => (.ok (), installed.setLevel level)
    | .error fault => (.error fault, installed)

/-- Sets up a root that has handlers. -/
def adjust (root : Root) (choice : Document) : Except LevelFault Unit × Root :=
  match Level.ofDocument choice with
  | .ok level => (.ok (), (root.setLevel level).standardize)
  | .error fault => (.error fault, root)

/-- Sets the log up. -/
def ensure (root : Root) (choice : Document) : Except LevelFault Unit × Root :=
  if root.handlers = [] then root.install choice else root.adjust choice

/-- The streams of the handlers that have one of their own, in order. -/
def streams (root : Root) : List String := root.handlers.filterMap Handler.written?

end Root

end ZonalBucket.Log
