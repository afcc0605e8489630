import ZonalBucket.Log.Root

/-!
# Histories of the log

The root of the log changes by three kinds of steps: a handler with a stream of its
own is added, the log is set up, or a record is emitted.  A handler is not added when
its layout or its level makes no sense, and a record is not emitted when its level is no
number; then the root stays as it is.  When the log cannot be set up, the root may
still have changed.

A `Diary` also keeps the streams that were opened for handlers which were then not
added; nothing is ever written to them.
-/

namespace ZonalBucket.Log

/-- A step in the history of the root. -/
inductive Change where
  | addHandler (layout choice : Document)
  | ensure (choice : Document)
  | emit (level source message : Document)

/-- Why a step fails. -/
inductive Fault where
  | layout (fault : LayoutFault)
  | level (fault : LevelFault)
  /-- A source is named by a value that is no text. -/
  | source

/-- The message of a fault. -/
def Fault.message : Fault → String
  | layout fault => fault.message
  | level fault => fault.message
  | source => "A logger name must be a string"

/-- An outcome with regard to levels, as the outcome of a step. -/
def Fault.ofLevel {α : Type} : Except LevelFault α → Except Fault α
  | .ok a => .ok a
  | .error fault => .error (.level fault)

/-- The handler with a layout and a level that are chosen by values. -/
def Handler.ofChoice (layout choice : Document) : Except Fault Handler :=
  match Layout.ofDocument layout, Level.ofDocument choice with
  | .error fault, _ => .error (.layout fault)
  | .ok _, .error fault => .error (.level fault)
  | .ok layout, .ok level => .ok { sink := .stream "", level := level, layout := layout }

/-- The record that values describe. -/
def recordOf (level source message : Document) : Except Fault Record :=
  match Source.ofDocument? source, Level.ofNumber? level with
  | none, _ => .error .source
  | some _, none => .error (.level .noNumber)
  | some source, some level => .ok {
      level := level, source := source, message := message.shown
      given := some (.ofDocument message) }

namespace Root

/-- Takes a step. -/
def apply (root : Root) : Change → Except Fault Unit × Root
  | .addHandler layout choice => match Handler.ofChoice layout choice with
    | .ok handler => (.ok (), root.addHandler handler)
    | .error fault => (.error fault, root)
  | .ensure choice =>
    let (outcome, next) := root.ensure choice
    (Fault.ofLevel outcome, next)
  | .emit level source message => match recordOf level source message with
    | .ok record => (.ok (), root.emit record)
    | .error fault => (.error fault, root)

/-- The root after a row of steps, whether they fail or not. -/
def after (root : Root) (changes : List Change) : Root :=
  changes.foldl (fun root change => (root.apply change).2) root

end Root

/-- The root, and for each stream that was opened whether a handler writes to it. -/
structure Diary where
  root : Root := {}
  opened : List Bool := []

namespace Diary

/-- Whether a step opens a stream. -/
def opens : Change → Bool
  | .addHandler .. => true
  | _ => false

/-- Takes a step. -/
def apply (diary : Diary) (change : Change) : Except Fault Unit × Diary :=
  let (outcome, root) := diary.root.apply change
  let opened := if opens change then diary.opened ++ [outcome.isOk] else diary.opened
  (outcome, ⟨root, opened⟩)

/-- The diary after a row of steps, whether they fail or not. -/
def after (diary : Diary) (changes : List Change) : Diary :=
  changes.foldl (fun diary change => (diary.apply change).2) diary

/-- What was written to streams, of which those that no handler writes to are empty. -/
def fillIn : List Bool → List String → List String
  | [], _ => []
  | true :: rest, s :: streams => s :: fillIn rest streams
  | _ :: rest, streams => "" :: fillIn rest streams

/-- What was written to each stream that was opened, in order. -/
def streams (diary : Diary) : List String := fillIn diary.opened diary.root.streams

end Diary

end ZonalBucket.Log
