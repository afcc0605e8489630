import ZonalBucket.Malformed
import ZonalBucket.Model.Basic
import ZonalBucket.Text.Occurrence

/-!
# Faults of the store and of the way to it

A call can fail in two families.  The store may refuse it: a `ServiceFault` has
the code and the message that the store gave, either of which may be missing or
be any value, and the number of attempts when no more were allowed.  Or the call
may not get through: a `TransportFault` has a kind and a message.

Every fault has a message of its own.  A refusal also has an `ErrorDetail`, in
which a code that was not given is `Unknown` and a message that was not given is
the message of the fault; so neither is ever empty.
-/

namespace ZonalBucket

/-- A refusal by the store. -/
structure ServiceFault where
  code : Option Document
  message : Option Document
  attempts : Option Document
  operation : String

/-- What stands for a code or a message that the store did not give. -/
def unknownText : String := "Unknown"

/-- A given value as it is shown, and a word for one that is missing. -/
def shownOr (missing : String) : Option Document → String
  | some d => d.shown
  | none => missing

/-- A value that counts as given, as it is shown; otherwise the given text. -/
def givenOr (missing : String) : Option Document → String
  | some d => if d.isTruthy then d.shown else missing
  | none => missing

namespace ServiceFault

/-- The note on the attempts made, if no more were allowed. -/
def attemptsNote : Option Document → String
  | some n => s!" (reached max retries: {n.shown})"
  | none => ""

/-- The message of a refusal. -/
def text (f : ServiceFault) : String :=
  s!"An error occurred ({shownOr unknownText f.code}) when calling the {f.operation} " ++
    s!"operation{attemptsNote f.attempts}: {shownOr unknownText f.message}"

/-- Code and message as they are reported. -/
def detail (f : ServiceFault) : ErrorDetail where
  code := givenOr unknownText f.code
  message := givenOr f.text f.message

/-- A refusal by the store itself, with code and message as texts. -/
def plain (code message operation : String) : ServiceFault :=
  ⟨some (.text code), some (.text message), none, operation⟩

/-- The field of a response that tells of the attempts. -/
def metadataName : String := "ResponseMetadata"

/-- Whether a value holds the name of the field: an object as a field, a list as an item,
and a text anywhere. -/
def mentionsMetadata : Document → Except Malformed Bool
  | .object fields => .ok (fields.lookup metadataName).isSome
  | .list items => .ok (items.any (Document.isText metadataName))
  | .text s => .ok (Text.occursIn metadataName.toList s.toList)
  | found => .error (.noContent found)

/-- The attempts that a response tells of: only when the last one allowed was made. -/
def attemptsIn (response : Document) : Except Malformed (Option Document) := do
  if ← mentionsMetadata response then
    let metadata ← response.needEntry metadataName
    let entries ← metadata.needFields
    if ((entries.lookup "MaxAttemptsReached").getD .null).isTruthy then
      return entries.lookup "RetryAttempts"
    else return none
  else return none

/-- The refusal that a response describes. -/
def ofResponse (response : Document) (operation : String) : Except Malformed ServiceFault := do
  let attempts ← attemptsIn response
  let fields ← response.needFields
  let entries ← match fields.lookup "Error" with
    | none => pure []
    | some d => d.needFields
  return ⟨entries.lookup "Code", entries.lookup "Message", attempts, operation⟩

end ServiceFault

/-- How a call can fail to get through. -/
inductive TransportKind where
  | unspecified
  | endpointConnection
  | connectTimeout
  | readTimeout
  | connectionClosed
  | noCredentials
  | partialCredentials
  | noRegion
  | parameterValidation
  | httpClient
  | proxyConnection
  | ssl
  | invalidRegion
  | tokenRetrieval
  | responseStreaming
  | connection
  | capacityNotAvailable
deriving DecidableEq, Repr

/-- A part of a message: fixed text, or the value of an argument. -/
inductive MessagePart where
  | words (text : String)
  | argument (name : String)

namespace TransportKind

/-- The name under which a kind is reported. -/
def name : TransportKind → String
  | unspecified => "BotoCoreError"
  | endpointConnection => "EndpointConnectionError"
  | connectTimeout => "ConnectTimeoutError"
  | readTimeout => "ReadTimeoutError"
  | connectionClosed => "ConnectionClosedError"
  | noCredentials => "NoCredentialsError"
  | partialCredentials => "PartialCredentialsError"
  | noRegion => "NoRegionError"
  | parameterValidation => "ParamValidationError"
  | httpClient => "HTTPClientError"
  | proxyConnection => "ProxyConnectionError"
  | ssl => "SSLError"
  | invalidRegion => "InvalidRegionError"
  | tokenRetrieval => "TokenRetrievalError"
  | responseStreaming => "ResponseStreamingError"
  | connection => "ConnectionError"
  | capacityNotAvailable => "CapacityNotAvailableError"

/-- All kinds. -/
def all : List TransportKind :=
  [unspecified, endpointConnection, connectTimeout, readTimeout, connectionClosed, noCredentials,
    partialCredentials, noRegion, parameterValidation, httpClient, proxyConnection, ssl,
    invalidRegion, tokenRetrieval, responseStreaming, connection, capacityNotAvailable]

/-- The kind with this name. -/
def ofName? (name : String) : Option TransportKind :=
  all.find? fun kind => kind.name == name

/-- Whether a kind is one of those that the client for the network itself reports. -/
def isOfClient : TransportKind → Bool
  | httpClient => true
  | connectionClosed => true
  | readTimeout => true
  | responseStreaming => true
  | _ => false

/-- The kind after which the making of a fault is named. -/
def maker (kind : TransportKind) : TransportKind :=
  if kind.isOfClient then httpClient else unspecified

/-- The message of a kind, with the arguments that it names. -/
def template : TransportKind → List MessagePart
  | unspecified => [.words "An unspecified error occurred"]
  | endpointConnection =>
    [.words "Could not connect to the endpoint URL: \"", .argument "endpoint_url", .words "\""]
  | connectTimeout =>
    [.words "Connect timeout on endpoint URL: \"", .argument "endpoint_url", .words "\""]
  | readTimeout =>
    [.words "Read timeout on endpoint URL: \"", .argument "endpoint_url", .words "\""]
  | connectionClosed =>
    [.words "Connection was closed before we received a valid response from endpoint URL: \"",
      .argument "endpoint_url", .words "\"."]
  | noCredentials => [.words "Unable to locate credentials"]
  | partialCredentials =>
    [.words "Partial credentials found in ", .argument "provider", .words ", missing: ",
      .argument "cred_var"]
  | noRegion => [.words "You must specify a region."]
  | parameterValidation => [.words "Parameter validation failed:\n", .argument "report"]
  | httpClient => [.words "An HTTP Client raised an unhandled exception: ", .argument "error"]
  | proxyConnection =>
    [.words "Failed to connect to proxy URL: \"", .argument "proxy_url", .words "\""]
  | ssl =>
    [.words "SSL validation failed for ", .argument "endpoint_url", .words " ", .argument "error"]
  | invalidRegion =>
    [.words "Provided region_name '", .argument "region_name",
      .words "' doesn't match a supported format."]
  | tokenRetrieval =>
    [.words "Error when retrieving token from ", .argument "provider", .words ": ",
      .argument "error_msg"]
  | responseStreaming =>
    [.words "An error occurred while reading from response stream: ", .argument "error"]
  | connection =>
    [.words "An HTTP Client failed to establish a connection: ", .argument "error"]
  | capacityNotAvailable => [.words "Insufficient request capacity available."]

end TransportKind

/-- A call that did not get through. -/
structure TransportFault where
  kind : TransportKind
  text : String
deriving DecidableEq, Repr

/-- One part of a message with its argument filled in. -/
def MessagePart.fill (arguments : Fields) : MessagePart → Except Malformed String
  | words text => .ok text
  | argument name => match arguments.lookup name with
    | some d => .ok d.shown
    | none => .error (.missingEntry name)

namespace TransportFault

/-- The name that stands for the fault that is being made. -/
def ownName : String := "self"

/-- The fault of a kind with these arguments. -/
def ofArguments (kind : TransportKind) (arguments : Fields) : Except Malformed TransportFault :=
  if (arguments.lookup ownName).isSome then
    .error (.reservedArgument kind.maker.name ownName)
  else do
    let parts ← kind.template.mapM (MessagePart.fill arguments)
    return ⟨kind, String.join parts⟩

end TransportFault

end ZonalBucket
