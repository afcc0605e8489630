import ZonalBucket.Fault
import ZonalBucket.Log.Level
import ZonalBucket.Model.Reader

/-!
# Failures

Everything that an operation can end in other than a result.  The service layer
turns the two families of faults into one, `ServiceError`, which keeps the fault
it came from as its cause; every other failure passes through all layers as it is.
-/

namespace ZonalBucket

/-- A fault of either family. -/
inductive Fault where
  | refused (fault : ServiceFault)
  | unreached (fault : TransportFault)

/-- The message of a fault. -/
def Fault.text : Fault → String
  | refused fault => fault.text
  | unreached fault => fault.text

/-- What the service layer reports about a call that failed. -/
structure ServiceError where
  code : String := "Unknown"
  message : String
  operation : Option String := none
  cause : Option Fault := none

namespace ServiceError

/-- The codes of a missing bucket or object.  The answer to a metadata request has no
body, so that a missing key shows as the bare status code. -/
def notFoundCodes : List String := ["NoSuchBucket", "NoSuchKey", "NotFound", "404"]

/-- Whether the bucket or the object was missing. -/
def isNotFound (e : ServiceError) : Bool := e.code ∈ notFoundCodes

/-- Code and message in one text. -/
def text (e : ServiceError) : String := s!"{e.code}: {e.message}"

/-- A refusal, reported with its detail. -/
def ofRefusal (fault : ServiceFault) (operation : String) : ServiceError where
  code := fault.detail.code
  message := fault.detail.message
  operation := some operation
  cause := some (.refused fault)

/-- A call that did not get through, reported under the name of its kind. -/
def ofTransport (fault : TransportFault) (operation : String) : ServiceError where
  code := fault.kind.name
  message := fault.text
  operation := some operation
  cause := some (.unreached fault)

end ServiceError

/-- The arguments that may not be empty. -/
inductive Argument where
  | bucket
  | key
  | objectKey
  | namePrefix
  | zone
deriving DecidableEq, Repr

/-- The name of an argument. -/
def Argument.name : Argument → String
  | bucket => "bucket"
  | key => "key"
  | objectKey => "object_key"
  | namePrefix => "prefix"
  | zone => "zone"

/-- The variables of the environment that make up a configuration. -/
inductive Setting where
  | region
  | defaultRegion
  | zone
  | bucketPrefix
  | endpoint
deriving DecidableEq, Repr

/-- The name of a variable. -/
def Setting.name : Setting → String
  | region => "AWS_REGION"
  | defaultRegion => "AWS_DEFAULT_REGION"
  | zone => "S3_DIRECTORY_BUCKET_ZONE"
  | bucketPrefix => "S3_DIRECTORY_BUCKET_PREFIX"
  | endpoint => "S3_ENDPOINT_URL"

/-- All variables. -/
def Setting.all : List Setting := [region, defaultRegion, zone, bucketPrefix, endpoint]

/-- The kinds of failure that neither the store nor this library is the source of. -/
inductive AccidentKind where
  | runtime
  | value
  | system
  | timeout
  | key
  | type
  | attribute
deriving DecidableEq, Repr

/-- Why a path cannot be followed, or not be used as it is asked for. -/
inductive FileFault where
  /-- There is nothing at it. -/
  | missing
  /-- Something is there already. -/
  | taken
  /-- A file stands where a folder is needed. -/
  | noFolder
  /-- A folder stands where a file is needed. -/
  | isFolder
  /-- A part of it, or all of it, is longer than may be. -/
  | longName
  /-- It has a character that no path may have. -/
  | nullCharacter
deriving DecidableEq, Repr

/-- The message of a fault at a path. -/
def FileFault.message (fault : FileFault) (path : String) : String :=
  match fault with
  | missing => "[Errno 2] No such file or directory: " ++ Text.quoted path
  | taken => "[Errno 17] File exists: " ++ Text.quoted path
  | noFolder => "[Errno 20] Not a directory: " ++ Text.quoted path
  | isFolder => "[Errno 21] Is a directory: " ++ Text.quoted path
  | longName => "[Errno 36] File name too long: " ++ Text.quoted path
  | nullCharacter => "embedded null byte"

/-- What an operation can end in other than a result. -/
inductive Failure where
  /-- The store refused a call. -/
  | refused (fault : ServiceFault)
  /-- A call did not get through. -/
  | unreached (fault : TransportFault)
  /-- The service layer reports a failed call. -/
  | reported (error : ServiceError)
  /-- A model could not be read. -/
  | invalid (report : Invalid)
  /-- An answer of the store has the wrong shape. -/
  | malformed (cause : Malformed)
  /-- An argument is empty. -/
  | emptyArgument (argument : Argument)
  /-- A variable of the environment holds only blanks. -/
  | blankSetting (setting : Setting)
  /-- There is no regular file at a path. -/
  | noFile (path : String)
  /-- A path cannot be followed, or not be used as it is asked for. -/
  | obstructed (fault : FileFault) (path : String)
  /-- A field of a configuration cannot be set. -/
  | frozenField (name : String)
  /-- Fields that a configuration needs are not given. -/
  | missingFields (names : List String)
  /-- A field is given that no configuration has. -/
  | unknownField (name : String)
  /-- A field is given whose name is taken by the configuration itself. -/
  | reservedField (name : String)
  /-- A value chooses no level of the log. -/
  | badLevel (fault : LevelFault)
  /-- A row of keys cannot be cut into batches of no keys. -/
  | emptyBatch
  /-- Anything else. -/
  | accident (kind : AccidentKind) (message : Document)

/-- What an operation ended in. -/
abbrev Outcome (α : Type) := Except Failure α

namespace Outcome

variable {α : Type} {outcome : Outcome α}

/-- What is there as an option was the value of the outcome. -/
theorem eq_ok_of_toOption {a : α} (h : outcome.toOption = some a) : outcome = .ok a := by
  cases outcome with
  | ok b => exact congrArg Except.ok (Option.some.inj h)
  | error failure => exact nomatch h

/-- Where the option is empty, the outcome was a failure, of which the option no
longer tells which. -/
theorem eq_error_of_toOption (h : outcome.toOption = none) :
    ∃ failure, outcome = .error failure := by
  cases outcome with
  | ok b => exact nomatch h
  | error failure => exact ⟨failure, rfl⟩

end Outcome

/-- What messages about the fields of a configuration begin with. -/
def configMaker : String := "DirectoryBucketConfig.__init__() "

/-- The part of a message that names the fields that are not given; there are two that a
configuration needs. -/
def missingText (names : List String) : String :=
  let noun := if names.length = 1 then "argument" else "arguments"
  s!"missing {names.length} required positional {noun}: " ++
    " and ".intercalate (names.map Text.quoted)

/-- The message of a failure. -/
def Failure.message : Failure → String
  | refused fault => fault.text
  | unreached fault => fault.text
  | reported error => error.text
  | invalid report => report.message
  | malformed cause => cause.message
  | emptyArgument argument => s!"'{argument.name}' must be provided"
  | blankSetting setting => s!"Invalid {setting.name}; must not be empty"
  | noFile path => path
  | obstructed fault path => fault.message path
  | frozenField name => "cannot assign to field " ++ Text.quoted name
  | missingFields names => configMaker ++ missingText names
  | unknownField name => configMaker ++ s!"got an unexpected keyword argument '{name}'"
  | reservedField name => configMaker ++ s!"got multiple values for argument '{name}'"
  | badLevel fault => fault.message
  | emptyBatch => "range() arg 3 must not be zero"
  | accident .key message => message.shownInside
  | accident _ message => message.shown

/-- A reading that failed on the shape of a document, as a failure. -/
def Failure.ofMalformed {α : Type} : Except Malformed α → Except Failure α
  | .ok a => .ok a
  | .error cause => .error (.malformed cause)

/-- A model that was read, or its issues as a failure. -/
def Failure.ofChecked {α : Type} (model : Model) : Checked α → Except Failure α
  | .ok a => .ok a
  | .error issues => .error (.invalid ⟨model, issues⟩)

end ZonalBucket
